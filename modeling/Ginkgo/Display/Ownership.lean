import Ginkgo.Display.Gpu
import Ginkgo.Transition.Run

/-!
# Who owns a buffer

Between two calls the program holds the buffer that it has presented last, and a buffer
that it releases is no longer on the screen. It goes wrong in exactly two ways
(`Ginkgo.Gpu.owned_iff`): a buffer gets no framebuffer and is forgotten, or the old buffer
is released although the new one has not taken its place (`Ginkgo.Gpu.present_loses`).
-/

namespace Ginkgo

open Transition

namespace Gpu

/-- **Every buffer is accounted for.** A locked buffer is the one in `bo_prev` or has been
released once for every time it was locked, and none has been released from under the
screen. -/
structure Owned (g : Gpu) : Prop where
  accounted : ∀ bo, g.locks bo = g.releases bo + if g.boPrev = some bo then 1 else 0
  whole : g.torn = false

/-- Between two calls a pending flip is the one to the last buffer, the last buffer has a
framebuffer, and once the mode is set it is on the screen. -/
structure AtRest (g : Gpu) : Prop where
  pending : g.pending = none ∨ g.pending = g.boPrev
  known : ∀ bo, g.boPrev = some bo → g.fbs bo = true
  shown : g.crtcSet = true → g.boPrev ≠ none ∧ g.scanout = g.boPrev

/-- Without a last buffer no flip is pending and the mode is not set. -/
theorem AtRest.blank {g : Gpu} (rest : g.AtRest) (last : g.boPrev = none) :
    g.pending = none ∧ g.crtcSet = false := by
  constructor
  · rcases rest.pending with idle | flips
    · exact idle
    · exact flips.trans last
  · rw [← Bool.not_eq_true]
    exact fun set => (rest.shown set).1 last

/-! ## The condition -/

/-- What changes the picture on the screen while a new buffer waits for its flip: the flip
completes, the screen is switched off, or it is switched on with the old buffer. -/
inductive Change where
  | flip
  | off
  | back
  deriving DecidableEq

/-- The changes that a call makes, where `kms` says that there is a CRTC for it. -/
def changesOf (kms : Bool) : DisplayCall → List Change
  | .blank setCrtc => if kms && setCrtc then [.off] else []
  | .unblank _ setCrtc => if kms && setCrtc then [.back] else []
  | .vblank => [.flip]

/-- The changes in a round after its `poll`: those of the idle callback, or a flip that is late. -/
def idleChanges (kms : Bool) (poll : FlipPoll) : List Change :=
  if poll.extra then poll.idle.flatMap (changesOf kms) else if poll.late then [.flip] else []

/-- The changes of a round: a `poll` that fails ends the wait. -/
def roundChanges (kms : Bool) (poll : FlipPoll) : List Change :=
  (if poll.completes then [.flip] else []) ++ if poll.fails then [] else idleChanges kms poll

/-- The rounds that `wait_flip` makes. A `poll` that fails ends the wait, and so does an event,
whether it is a new one, one that was left unread or one of a flip that has completed in the round
before after its `poll`, and so does the fourth round without any event. -/
def roundsMade (arrived : Bool) (spins : Nat) : List FlipPoll → List FlipPoll
  | [] => []
  | poll :: polls =>
      poll :: if poll.fails || arrived || poll.completes then []
        else if poll.extra then roundsMade (poll.idle.contains .vblank) spins polls
        else if 3 < spins + 1 then []
        else roundsMade poll.late (spins + 1) polls

/-- Whether the old buffer is on the screen after the changes: `waiting` says that the flip has
not completed yet, which it does once, and `on` that the old buffer is on the screen now. -/
def oldShown : Bool → Bool → List Change → Bool
  | _, on, [] => on
  | true, _, .flip :: changes => oldShown false false changes
  | false, on, .flip :: changes => oldShown false on changes
  | waiting, _, .off :: changes => oldShown waiting false changes
  | waiting, _, .back :: changes => oldShown waiting true changes

/-- The old buffer is on the screen when the wait ends. -/
def oldStays (kms arrived : Bool) (polls : List FlipPoll) : Bool :=
  oldShown true true ((roundsMade arrived 0 polls).flatMap (roundChanges kms))

/-- The new buffer takes the place of an old one: no flip to the old one is pending; and if it is
on the screen, the mode is set, or the flip is accepted and the old buffer is off the screen when
the wait ends. -/
def Replaces (g : Gpu) (answers : Present) : Prop :=
  g.boPrev ≠ none → g.pending = none ∧ (g.scanout = g.boPrev →
    if g.crtcSet then
      answers.pageFlip = true ∧ oldStays g.kmsCrtc (0 < g.flipEvents) answers.polls = false
    else answers.setCrtc = true)

/-- **The condition on a call.** The buffer that is presented gets a framebuffer and takes the place
of the old one. -/
def Succeeds (g : Gpu) : GpuCall → Prop
  | .present answers =>
      g.eglDpy = true → ∀ bo, answers.front = some bo → g.locks bo = g.releases bo →
        (g.fbs bo = true ∨ answers.addFb.withModifiers = true ∨ answers.addFb.plain = true) ∧
          g.Replaces answers
  | .display _ => True

/-! ## Waiting for a flip -/

/-- The changes on what is scanned out and on the pending flip. -/
def screenAfter (old : Nat) : Option Nat × Option Nat → List Change → Option Nat × Option Nat
  | screen, [] => screen
  | (scanout, none), .flip :: changes => screenAfter old (scanout, none) changes
  | (_, some bo), .flip :: changes => screenAfter old (some bo, none) changes
  | (_, pending), .off :: changes => screenAfter old (none, pending) changes
  | (_, pending), .back :: changes => screenAfter old (some old, pending) changes

/-- The changes of the screen, one part after the other. -/
theorem screenAfter_append (old : Nat) (screen : Option Nat × Option Nat)
    (first second : List Change) :
    screenAfter old screen (first ++ second) =
      screenAfter old (screenAfter old screen first) second := by
  induction first generalizing screen with
  | nil => rfl
  | cons change changes ih =>
      obtain ⟨scanout, pending⟩ := screen
      cases change with
      | flip => cases pending <;> exact ih _
      | off => exact ih _
      | back => exact ih _

/-- The old buffer is on the screen exactly when the changes say so, and no flip to it is
pending. -/
theorem screenAfter_old {old bo : Nat} (differ : bo ≠ old) (changes : List Change)
    {waiting on : Bool} {scanout pending : Option Nat} (shown : scanout = some old ↔ on = true)
    (waits : pending = if waiting then some bo else none) :
    ((screenAfter old (scanout, pending) changes).1 = some old ↔
        oldShown waiting on changes = true) ∧
      (screenAfter old (scanout, pending) changes).2 ≠ some old := by
  have other : some bo ≠ some old := fun same => differ (Option.some.inj same)
  induction changes generalizing waiting on scanout pending with
  | nil =>
      refine ⟨shown, ?_⟩
      rw [screenAfter, waits]
      cases waiting with
      | true => exact other
      | false => exact nofun
  | cons change changes ih =>
      subst waits
      cases change with
      | off => exact ih (iff_of_false nofun Bool.false_ne_true) rfl
      | back => exact ih (iff_of_true rfl rfl) rfl
      | flip =>
          cases waiting with
          | true => exact ih (iff_of_false other Bool.false_ne_true) rfl
          | false => exact ih shown rfl

/-- What a part of the wait does: it changes the picture and nothing else that matters, and as
long as the mode is set one of the two buffers is on the screen. -/
structure Waits (old bo : Nat) (changes : List Change) (g g' : Gpu) : Prop where
  frame : ∃ scanout pending crtcSet flipEvents flipDone,
    g' = { g with scanout, pending, crtcSet, flipEvents, flipDone }
  screen : (g'.scanout, g'.pending) = screenAfter old (g.scanout, g.pending) changes
  pending : g.pending = none ∨ g.pending = some bo → g'.pending = none ∨ g'.pending = some bo
  shown : g.pending = none ∨ g.pending = some bo →
    (g.crtcSet = true → g.scanout = some old ∨ g.scanout = some bo) →
      g'.crtcSet = true → g'.scanout = some old ∨ g'.scanout = some bo

namespace Waits

variable {old bo : Nat} {changes changes' : List Change} {g g' g'' : Gpu}

theorem refl (g : Gpu) : Waits old bo [] g g where
  frame := ⟨_, _, _, _, _, rfl⟩
  screen := rfl
  pending := id
  shown _ := id

theorem trans (first : Waits old bo changes g g') (second : Waits old bo changes' g' g'') :
    Waits old bo (changes ++ changes') g g'' where
  frame := by
    obtain ⟨_, _, _, _, _, rfl⟩ := first.frame
    obtain ⟨_, _, _, _, _, rfl⟩ := second.frame
    exact ⟨_, _, _, _, _, rfl⟩
  screen := by rw [second.screen, first.screen, screenAfter_append]
  pending := second.pending ∘ first.pending
  shown waits := second.shown (first.pending waits) ∘ first.shown waits

/-- The pending flip completes. -/
theorem complete (g : Gpu) : Waits old bo [.flip] g g.complete := by
  unfold Gpu.complete
  cases pending : g.pending with
  | none =>
      refine ⟨⟨_, _, _, _, _, rfl⟩, ?_, id, fun _ => id⟩
      rw [pending]
      rfl
  | some flip =>
      refine ⟨⟨_, _, _, _, _, rfl⟩, ?_, fun _ => .inl rfl, fun waits _ _ => ?_⟩
      · rw [pending]
        rfl
      · rw [pending] at waits
        exact .inr (waits.resolve_left nofun)

/-- Reading the events leaves the picture. -/
theorem handled (g : Gpu) : Waits old bo [] g g.drmHandleEvent :=
  ⟨⟨_, _, _, _, _, rfl⟩, rfl, id, fun _ => id⟩

/-- What the idle callback does, with the old buffer in `bo_prev`. -/
theorem display (held : g.boPrev = some old) (known : g.fbs old = true) (call : DisplayCall) :
    Waits old bo (changesOf g.kmsCrtc call) g (g.display call) := by
  cases call with
  | vblank => exact complete g
  | blank setCrtc =>
      obtain ⟨eglDpy, kmsCrtc⟩ := g
      cases kmsCrtc <;> cases setCrtc
      · exact ⟨⟨_, _, _, _, _, rfl⟩, rfl, id, fun _ _ => nofun⟩
      · exact ⟨⟨_, _, _, _, _, rfl⟩, rfl, id, fun _ _ => nofun⟩
      · exact ⟨⟨_, _, _, _, _, rfl⟩, rfl, id, fun _ _ => nofun⟩
      · exact ⟨⟨_, _, _, _, _, rfl⟩, rfl, id, fun _ _ => nofun⟩
  | unblank addFb setCrtc =>
      obtain ⟨eglDpy, kmsCrtc, boPrev⟩ := g
      subst held
      simp only at known
      simp only [Gpu.display, Gpu.unblank, fbFromBo, known, if_true]
      cases kmsCrtc <;> cases setCrtc
      · exact ⟨⟨_, _, _, _, _, rfl⟩, rfl, id, fun _ _ => nofun⟩
      · exact ⟨⟨_, _, _, _, _, rfl⟩, rfl, id, fun _ _ => nofun⟩
      · exact ⟨⟨_, _, _, _, _, rfl⟩, rfl, id, fun _ _ => nofun⟩
      · exact ⟨⟨_, _, _, _, _, rfl⟩, rfl, id, fun _ _ _ => .inl rfl⟩

/-- What the idle callback does. -/
theorem idle (held : g.boPrev = some old) (known : g.fbs old = true) (calls : List DisplayCall) :
    Waits old bo (calls.flatMap (changesOf g.kmsCrtc)) g (calls.foldl Gpu.display g) := by
  induction calls generalizing g with
  | nil => exact refl g
  | cons call calls ih =>
      have first : Waits old bo _ g _ := display held known call
      obtain ⟨scanout, pending, crtcSet, flipEvents, flipDone, same⟩ := first.frame
      have rest := ih (g := g.display call) (by rw [same]; exact held) (by rw [same]; exact known)
      rw [show (g.display call).kmsCrtc = g.kmsCrtc by rw [same]] at rest
      exact first.trans rest

end Waits

/-- A flip that completes does not end the wait before its event is read. -/
theorem complete_flipDone (g : Gpu) : g.complete.flipDone = g.flipDone := by
  unfold complete
  cases g.pending <;> rfl

/-- It leaves one event more. -/
theorem complete_flipEvents {g : Gpu} {bo : Nat} (pending : g.pending = some bo) :
    g.complete.flipEvents = g.flipEvents + 1 := by
  unfold complete
  rw [pending]

/-- A call leaves the flag of the flip alone and takes no event away, and only a completion
touches the pending flip. -/
theorem display_events (g : Gpu) (call : DisplayCall) :
    (g.display call).flipDone = g.flipDone ∧ g.flipEvents ≤ (g.display call).flipEvents ∧
      (call ≠ .vblank → (g.display call).flipEvents = g.flipEvents ∧
        (g.display call).pending = g.pending) := by
  obtain ⟨eglDpy, kmsCrtc, boPrev, boCur, crtcSet, flipDone, fbs, scanout, pending⟩ := g
  cases call with
  | vblank =>
      refine ⟨complete_flipDone _, ?_, absurd rfl⟩
      · cases pending with
        | none => exact Nat.le_refl _
        | some bo => exact Nat.le_succ _
  | blank setCrtc => cases kmsCrtc <;> cases setCrtc <;> exact ⟨rfl, Nat.le_refl _, fun _ => ⟨rfl, rfl⟩⟩
  | unblank addFb setCrtc =>
      simp only [display, unblank, fbFromBo]
      cases boPrev with
      | none => exact ⟨rfl, Nat.le_refl _, fun _ => ⟨rfl, rfl⟩⟩
      | some bo =>
          cases kmsCrtc with
          | false => exact ⟨rfl, Nat.le_refl _, fun _ => ⟨rfl, rfl⟩⟩
          | true =>
              simp only [if_true]
              cases setCrtc <;> split_ifs <;> exact ⟨rfl, Nat.le_refl _, fun _ => ⟨rfl, rfl⟩⟩

/-- The idle callback leaves the flag alone, and an event has arrived exactly when the flip has
completed meanwhile. -/
theorem idle_events (calls : List DisplayCall) (g : Gpu) :
    (calls.foldl display g).flipDone = g.flipDone ∧
      g.flipEvents ≤ (calls.foldl display g).flipEvents ∧
      (.vblank ∉ calls → (calls.foldl display g).flipEvents = g.flipEvents ∧
        (calls.foldl display g).pending = g.pending) ∧
      (.vblank ∈ calls → g.pending ≠ none → 0 < (calls.foldl display g).flipEvents) := by
  induction calls generalizing g with
  | nil => exact ⟨rfl, Nat.le_refl _, fun _ => ⟨rfl, rfl⟩, nofun⟩
  | cons call calls ih =>
      obtain ⟨flag, more, quiet⟩ := g.display_events call
      obtain ⟨flag', more', quiet', arrives'⟩ := ih (g.display call)
      refine ⟨flag'.trans flag, Nat.le_trans more more', fun none => ?_, fun member waits => ?_⟩
      · rw [List.mem_cons, not_or] at none
        obtain ⟨events, pending⟩ := quiet (Ne.symm none.1)
        obtain ⟨events', pending'⟩ := quiet' none.2
        exact ⟨events'.trans events, pending'.trans pending⟩
      · by_cases first : call = .vblank
        · subst first
          refine Nat.lt_of_lt_of_le ?_ more'
          obtain ⟨bo, pending⟩ := Option.ne_none_iff_exists'.mp waits
          rw [display, complete_flipEvents pending]
          exact Nat.succ_pos _
        · refine arrives' ((List.mem_cons.mp member).resolve_left (Ne.symm first)) ?_
          rw [(quiet first).2]
          exact waits

/-- An event that has arrived ends the wait. -/
theorem drmHandleEvent_flipDone {g : Gpu} (arrived : 0 < g.flipEvents) :
    g.drmHandleEvent.flipDone = true := by
  unfold drmHandleEvent
  simp only [arrived, decide_true, Bool.or_true]

/-- When no event has arrived there is nothing to read. -/
theorem drmHandleEvent_idle {g : Gpu} (idle : g.flipEvents = 0) : g.drmHandleEvent = g := by
  cases g
  simp only at idle
  simp [drmHandleEvent, idle]

/-- What follows in a round on its `poll`: the callback, when it is called, or a flip that is late. -/
def idleRound (poll : FlipPoll) (g : Gpu) : Gpu :=
  if poll.extra then poll.idle.foldl display g else if poll.late then g.complete else g

/-- It makes its changes. -/
theorem idleRound_waits {g : Gpu} {old bo : Nat} (held : g.boPrev = some old)
    (known : g.fbs old = true) (poll : FlipPoll) :
    Waits old bo (idleChanges g.kmsCrtc poll) g (g.idleRound poll) := by
  unfold idleChanges idleRound
  split
  · exact Waits.idle held known poll.idle
  · split
    · exact Waits.complete g
    · exact Waits.refl g

/-- It does not end the wait. -/
theorem idleRound_flipDone (poll : FlipPoll) (g : Gpu) :
    (g.idleRound poll).flipDone = g.flipDone := by
  unfold idleRound
  split
  · exact (idle_events poll.idle g).1
  · split
    · exact complete_flipDone g
    · rfl

/-- An event has arrived then exactly when the flip has completed. -/
theorem idleRound_events {g : Gpu} {bo : Nat} (poll : FlipPoll) (none : g.flipEvents = 0)
    (pending : g.pending = some bo) :
    decide (0 < (g.idleRound poll).flipEvents) =
        (if poll.extra then poll.idle.contains .vblank else poll.late) ∧
      ((g.idleRound poll).flipEvents = 0 → (g.idleRound poll).pending = some bo) := by
  obtain ⟨-, -, quiet, arrives⟩ := idle_events poll.idle g
  unfold idleRound
  cases poll.extra with
  | false =>
      simp only [Bool.false_eq_true, if_false]
      cases poll.late with
      | false => exact ⟨decide_eq_false (by simp [none]), fun _ => pending⟩
      | true =>
          have events := complete_flipEvents pending
          exact ⟨decide_eq_true (by simp [events]), fun idle => by simp [events] at idle⟩
  | true =>
      simp only [if_true]
      by_cases member : DisplayCall.vblank ∈ poll.idle
      · have events := arrives member (by rw [pending]; exact nofun)
        refine ⟨?_, fun idle => absurd idle (Nat.ne_of_gt events)⟩
        rw [decide_eq_true events, List.contains_iff_mem.mpr member]
      · obtain ⟨events, same⟩ := quiet member
        refine ⟨?_, fun _ => same.trans pending⟩
        have absent : poll.idle.contains .vblank = false := by
          rw [← Bool.not_eq_true, List.contains_iff_mem]
          exact member
        rw [absent, events, none]
        rfl

/-- The flip of a round completes before its `poll` ends, or it does not. -/
def roundStart (poll : FlipPoll) (g : Gpu) : Gpu := if poll.completes then g.complete else g

/-- The picture when a round's `poll` ends. -/
theorem roundStart_waits {old bo : Nat} (poll : FlipPoll) (g : Gpu) :
    Waits old bo (if poll.completes then [.flip] else []) g (g.roundStart poll) := by
  unfold roundStart
  split
  · exact Waits.complete g
  · exact Waits.refl g

/-- An event is there to be read when one was left unread or the flip has completed. -/
theorem roundStart_events {g : Gpu} {bo : Nat} (asked : g.flipEvents = 0 → g.pending = some bo)
    (poll : FlipPoll) :
    decide (0 < (g.roundStart poll).flipEvents) = (decide (0 < g.flipEvents) || poll.completes) := by
  unfold roundStart
  cases poll.completes with
  | false => rw [if_neg Bool.false_ne_true, Bool.or_false]
  | true =>
      rw [if_pos rfl, Bool.or_true, decide_eq_true_eq]
      unfold complete
      cases pending : g.pending with
      | some flip => exact Nat.succ_pos _
      | none =>
          refine Nat.pos_of_ne_zero fun none => ?_
          rw [asked none] at pending
          cases pending

/-- **A round** whose `poll` does not fail makes its changes. -/
theorem round_waits {g : Gpu} {old bo : Nat} (held : g.boPrev = some old)
    (known : g.fbs old = true) {poll : FlipPoll} (goes : poll.fails = false) :
    Waits old bo (roundChanges g.kmsCrtc poll) g
      ((g.roundStart poll).drmHandleEvent.idleRound poll) := by
  have read := (@roundStart_waits old bo poll g).trans (Waits.handled _)
  obtain ⟨scanout, pending, crtcSet, flipEvents, flipDone, same⟩ := read.frame
  rw [List.append_nil] at read
  have called := @idleRound_waits (g.roundStart poll).drmHandleEvent old bo
    (by rw [same]; exact held) (by rw [same]; exact known) poll
  rw [show (g.roundStart poll).drmHandleEvent.kmsCrtc = g.kmsCrtc by rw [same]] at called
  have both := read.trans called
  unfold roundChanges
  rwa [goes, if_neg Bool.false_ne_true]

/-- One round and the others. -/
theorem waitFlip_cons {poll : FlipPoll} (goes : poll.fails = false) (polls : List FlipPoll)
    (spins : Nat) (g : Gpu) :
    g.waitFlip spins (poll :: polls) =
      if (g.roundStart poll).drmHandleEvent.flipDone = true then
        (g.roundStart poll).drmHandleEvent.idleRound poll
      else if (g.roundStart poll).flipEvents = 0 ∧ poll.extra = false then
        if 3 < spins + 1 then (g.roundStart poll).drmHandleEvent.idleRound poll
        else waitFlip (spins + 1) polls ((g.roundStart poll).drmHandleEvent.idleRound poll)
      else waitFlip spins polls ((g.roundStart poll).drmHandleEvent.idleRound poll) := by
  rw [← idleRound_flipDone poll (g.roundStart poll).drmHandleEvent]
  simp only [waitFlip, goes, Bool.false_eq_true, if_false, decide_eq_true_eq]
  rfl

/-- **The wait** makes the changes of its rounds. -/
theorem waitFlip_waits {g : Gpu} {old bo : Nat} (held : g.boPrev = some old)
    (known : g.fbs old = true) (polls : List FlipPoll) (spins : Nat)
    (unread : g.flipDone = false) (asked : g.flipEvents = 0 → g.pending = some bo) :
    Waits old bo ((roundsMade (0 < g.flipEvents) spins polls).flatMap (roundChanges g.kmsCrtc)) g
      (g.waitFlip spins polls) := by
  induction polls generalizing g spins with
  | nil => exact Waits.handled g
  | cons poll polls ih =>
      have event := roundStart_events asked poll
      unfold roundsMade
      rw [List.flatMap_cons]
      cases fails : poll.fails with
      | true =>
          rw [show g.waitFlip spins (poll :: polls) = g.roundStart poll from if_pos fails,
            Bool.true_or, Bool.true_or, if_pos rfl, List.flatMap_nil, List.append_nil]
          unfold roundChanges
          rw [fails, if_pos rfl, List.append_nil]
          exact roundStart_waits poll g
      | false =>
          have round := @round_waits g old bo held known poll fails
          rw [waitFlip_cons fails, Bool.false_or, ← event]
          by_cases arrived : 0 < (g.roundStart poll).flipEvents
          · -- An event is read, and the wait is over after this round.
            rw [drmHandleEvent_flipDone arrived, if_pos rfl, decide_eq_true arrived, if_pos rfl,
              List.flatMap_nil, List.append_nil]
            exact round
          · -- Nothing has happened before the callback.
            rw [decide_eq_false arrived, Eq.comm, Bool.or_eq_false_iff] at event
            have start : g.roundStart poll = g := if_neg (by rw [event.2]; exact Bool.false_ne_true)
            rw [start] at round arrived ⊢
            have none : g.flipEvents = 0 := Nat.eq_zero_of_not_pos arrived
            rw [drmHandleEvent_idle none] at round ⊢
            rw [unread, if_neg Bool.false_ne_true, decide_eq_false arrived,
              if_neg Bool.false_ne_true]
            have flag := idleRound_flipDone poll g
            obtain ⟨arrives, asked'⟩ := idleRound_events poll none (asked none)
            obtain ⟨_, _, _, _, _, after⟩ := round.frame
            have later (spins : Nat) := @ih (g.idleRound poll) (by rw [after]; exact held)
              (by rw [after]; exact known) spins (flag.trans unread) asked'
            rw [show (g.idleRound poll).kmsCrtc = g.kmsCrtc by rw [after]] at later
            cases extra : poll.extra with
            | true =>
                rw [if_pos rfl, if_neg fun quiet => Bool.noConfusion quiet.2]
                have rest := later spins
                rw [arrives, extra, if_pos rfl] at rest
                exact round.trans rest
            | false =>
                have silent : g.flipEvents = 0 ∧ false = false := ⟨none, rfl⟩
                rw [if_neg Bool.false_ne_true, if_pos silent]
                have rest := later (spins + 1)
                rw [arrives, extra, if_neg Bool.false_ne_true] at rest
                split
                · exact round.trans (Waits.refl _)
                · exact round.trans rest

/-! ## Releasing the old buffer -/

/-- While a buffer is presented, it and the old one are locked, and it has a framebuffer. -/
structure Presenting (bo : Nat) (g : Gpu) : Prop where
  cur : g.boCur = some bo
  other : g.boPrev ≠ some bo
  accounted : ∀ b, g.locks b =
    (g.releases b + if g.boPrev = some b then 1 else 0) + if b = bo then 1 else 0
  whole : g.torn = false
  known : g.fbs bo = true

/-- The old buffer is released and the new one takes its place in `bo_prev`. -/
def swap (g : Gpu) : Gpu := { g.releasePrev with boPrev := g.releasePrev.boCur, boCur := none }

/-- The release is in order when the old buffer has left the screen. -/
theorem Presenting.swap_owned_iff {g : Gpu} {bo : Nat} (presenting : g.Presenting bo) :
    g.swap.Owned ↔
      ∀ old, g.boPrev = some old → g.scanout ≠ some old ∧ g.pending ≠ some old := by
  obtain ⟨cur, other, accounted, whole, -⟩ := presenting
  unfold swap releasePrev
  cases held : g.boPrev with
  | none =>
      simp only [reduceCtorEq, false_implies, implies_true, iff_true]
      refine ⟨?_, whole⟩
      intro b
      have counted := accounted b
      simp only [held, reduceCtorEq, if_false, Nat.add_zero] at counted
      simp only [cur, Option.some.injEq, counted, eq_comm]
  | some old =>
      have differ : bo ≠ old := by
        rintro rfl
        exact other held
      have counts : ∀ b, g.locks b = Function.update g.releases old (g.releases old + 1) b +
          if g.boCur = some b then 1 else 0 := by
        intro b
        have counted := accounted b
        simp only [held, Option.some.injEq] at counted
        simp only [cur, Option.some.injEq, Function.update_apply]
        by_cases same : b = old
        · subst same
          simp only [if_true, differ, differ.symm, if_false] at counted ⊢
          exact counted
        · simp only [same, Ne.symm same, if_false, eq_comm] at counted ⊢
          exact counted
      simp only [releaseBuffer, Option.some.injEq, forall_eq']
      constructor
      · intro owned
        have torn := owned.whole
        simpa [whole] using torn
      · rintro ⟨shown, pending⟩
        exact ⟨counts, by simp [whole, shown, pending]⟩

/-- The buffer that has been presented is the last one, and nothing else changes that is seen. -/
theorem swap_seen (g : Gpu) : g.swap.boPrev = g.boCur ∧ g.swap.pending = g.pending ∧
    g.swap.crtcSet = g.crtcSet ∧ g.swap.scanout = g.scanout ∧ g.swap.fbs = g.fbs := by
  unfold swap releasePrev
  cases g.boPrev <;> exact ⟨rfl, rfl, rfl, rfl, rfl⟩

/-- After the release only a flip to the new buffer may be pending, and the new buffer is on the
screen once the mode is set. -/
theorem Presenting.swap_atRest {g : Gpu} {bo : Nat} (presenting : g.Presenting bo)
    (flips : g.pending = none ∨ g.pending = some bo)
    (set : g.crtcSet = true → g.scanout = some bo) : g.swap.AtRest := by
  obtain ⟨boPrev, pending, crtcSet, scanout, fbs⟩ := g.swap_seen
  rw [presenting.cur] at boPrev
  refine ⟨?_, fun last held => ?_, fun mode => ⟨?_, ?_⟩⟩
  · rw [pending, boPrev]
    exact flips
  · rw [boPrev, Option.some.injEq] at held
    rw [fbs, ← held]
    exact presenting.known
  · rw [boPrev]
    exact nofun
  · rw [crtcSet] at mode
    rw [scanout, boPrev]
    exact set mode

/-! ## Showing a buffer -/

/-- What showing a buffer does: the old one has left the screen for good exactly when the new one
takes its place, and then the new one is on the screen if the mode is set. -/
structure Shows (old bo : Nat) (answers : Present) (g g' : Gpu) : Prop where
  frame : ∃ scanout pending crtcSet flipEvents flipDone,
    g' = { g with scanout, pending, crtcSet, flipEvents, flipDone }
  left : g'.scanout ≠ some old ∧ g'.pending ≠ some old ↔ g.Replaces answers
  pending : g.Replaces answers → g'.pending = none ∨ g'.pending = some bo
  shown : g.Replaces answers → g'.crtcSet = true → g'.scanout = some bo

section Show

variable {g : Gpu} {old bo : Nat}

/-- A mode that is set. -/
theorem showBuffer_mode (held : g.boPrev = some old) (differ : bo ≠ old) (rest : g.AtRest)
    (mode : g.crtcSet = false) (answers : Present) :
    Shows old bo answers g (g.showBuffer bo answers) := by
  have other : some bo ≠ some old := fun same => differ (Option.some.inj same)
  have same : g.showBuffer bo answers =
      { g.drmModeSetCrtc (some bo) answers.setCrtc with crtcSet := answers.setCrtc } := if_pos mode
  have asked : g.Replaces answers ↔
      g.pending = none ∧ (g.scanout = some old → answers.setCrtc = true) := by
    unfold Replaces
    simp only [held, mode, Bool.false_eq_true, if_false, ne_eq, reduceCtorEq, not_false_eq_true,
      true_implies]
  have free : g.pending ≠ some old ↔ g.pending = none := by
    rcases rest.pending with none | flips
    · exact iff_of_true (by rw [none]; exact nofun) none
    · exact iff_of_false (not_not_intro (flips.trans held)) (by rw [flips, held]; exact nofun)
  rw [same]
  unfold drmModeSetCrtc
  cases set : answers.setCrtc with
  | true =>
      refine ⟨⟨_, _, _, _, _, rfl⟩, ?_, fun replaces => .inl (asked.mp replaces).1, fun _ _ => rfl⟩
      rw [asked, set]
      exact ⟨fun left => ⟨free.mp left.2, fun _ => rfl⟩, fun replaces => ⟨other, free.mpr replaces.1⟩⟩
  | false =>
      refine ⟨⟨_, _, _, _, _, rfl⟩, ?_, fun replaces => .inl (asked.mp replaces).1, fun _ => nofun⟩
      rw [asked, set]
      exact ⟨fun left => ⟨free.mp left.2, fun same => absurd same left.1⟩,
        fun replaces => ⟨fun same => Bool.false_ne_true (replaces.2 same), free.mpr replaces.1⟩⟩

/-- A flip. -/
theorem showBuffer_flip (held : g.boPrev = some old) (differ : bo ≠ old) (rest : g.AtRest)
    (mode : g.crtcSet = true) (answers : Present) :
    Shows old bo answers g (g.showBuffer bo answers) := by
  have scanout : g.scanout = some old := (rest.shown mode).2.trans held
  have asked : g.Replaces answers ↔ g.pending = none ∧ answers.pageFlip = true ∧
      oldStays g.kmsCrtc (0 < g.flipEvents) answers.polls = false := by
    unfold Replaces
    simp only [held, mode, scanout, if_true, ne_eq, reduceCtorEq, not_false_eq_true, true_implies]
  by_cases accepted : answers.pageFlip = true ∧ g.pending = none
  · have same : g.showBuffer bo answers =
        { g with flipDone := false, pending := some bo }.waitFlip 0 answers.polls := by
      unfold showBuffer drmModePageFlip
      simp only [mode, accepted, Bool.true_eq_false, if_false, and_self, if_true]
    have waits := @waitFlip_waits { g with flipDone := false, pending := some bo } old bo held
      (rest.known old held) answers.polls 0 rfl fun _ => rfl
    rw [← same] at waits
    have shown : some old = some old ↔ true = true := iff_of_true rfl rfl
    obtain ⟨stays, away⟩ := screenAfter_old differ
      ((roundsMade (0 < g.flipEvents) 0 answers.polls).flatMap (roundChanges g.kmsCrtc)) shown
      (if_pos rfl).symm
    have screen := waits.screen
    simp only [scanout] at screen
    rw [← screen] at stays away
    have left : (g.showBuffer bo answers).scanout ≠ some old ↔ g.Replaces answers := by
      have ends : (g.showBuffer bo answers).scanout = some old ↔
          oldStays g.kmsCrtc (0 < g.flipEvents) answers.polls = true := stays
      rw [asked, and_iff_right accepted.2, and_iff_right accepted.1, ne_eq, ends, Bool.not_eq_true]
    obtain ⟨scanout', pending', crtcSet', flipEvents', flipDone', after⟩ := waits.frame
    refine ⟨⟨scanout', pending', crtcSet', flipEvents', flipDone', after⟩, ?_, fun _ => ?_,
      fun replaces set => ?_⟩
    · rw [and_iff_left away]
      exact left
    · exact waits.pending (.inr rfl)
    · exact (waits.shown (.inr rfl) (fun _ => .inl scanout) set).resolve_left (left.mpr replaces)
  · have same : g.showBuffer bo answers = { g with flipDone := false } := by
      unfold showBuffer drmModePageFlip
      simp only [mode, accepted, Bool.true_eq_false, if_false, Bool.false_eq_true]
    have refused : ¬g.Replaces answers := fun replaces =>
      accepted ⟨(asked.mp replaces).2.1, (asked.mp replaces).1⟩
    rw [same]
    exact ⟨⟨_, _, _, _, _, rfl⟩, iff_of_false (fun left => left.1 scanout) refused,
      fun replaces => absurd replaces refused, fun replaces => absurd replaces refused⟩

/-- **Showing a buffer** in the place of an old one. -/
theorem showBuffer_shows (held : g.boPrev = some old) (differ : bo ≠ old) (rest : g.AtRest)
    (answers : Present) : Shows old bo answers g (g.showBuffer bo answers) := by
  cases mode : g.crtcSet with
  | false => exact showBuffer_mode held differ rest mode answers
  | true => exact showBuffer_flip held differ rest mode answers

/-- The first buffer is shown by setting the mode. -/
theorem showBuffer_first (none : g.boPrev = none) (rest : g.AtRest) (answers : Present) :
    ∃ scanout, g.showBuffer bo answers = { g with scanout, crtcSet := answers.setCrtc } ∧
      (answers.setCrtc = true → scanout = some bo) := by
  have same : g.showBuffer bo answers =
      { g.drmModeSetCrtc (some bo) answers.setCrtc with crtcSet := answers.setCrtc } :=
    if_pos (rest.blank none).2
  rw [same]
  unfold drmModeSetCrtc
  cases answers.setCrtc with
  | true => exact ⟨some bo, rfl, fun _ => rfl⟩
  | false => exact ⟨g.scanout, rfl, nofun⟩

end Show

/-! ## One call -/

section Step

variable {g : Gpu}

/-- A buffer that gets no framebuffer is forgotten while it is locked. -/
theorem Owned.leaks {bo : Nat} (owned : g.Owned) (free : g.locks bo = g.releases bo) {g' : Gpu}
    (locks : g'.locks = Function.update g.locks bo (g.locks bo + 1))
    (releases : g'.releases = g.releases) (boPrev : g'.boPrev = g.boPrev) : ¬g'.Owned := by
  intro owned'
  have before := owned.accounted bo
  have after := owned'.accounted bo
  rw [locks, releases, boPrev, Function.update_self] at after
  omega

/-- Locking a buffer that is free begins its presentation. -/
theorem Owned.presenting {bo : Nat} (owned : g.Owned) (free : g.locks bo = g.releases bo)
    {g' : Gpu} (locks : g'.locks = Function.update g.locks bo (g.locks bo + 1))
    (releases : g'.releases = g.releases) (boPrev : g'.boPrev = g.boPrev)
    (cur : g'.boCur = some bo) (torn : g'.torn = g.torn) (known : g'.fbs bo = true) :
    g'.Presenting bo where
  cur := cur
  other := by
    intro held
    have before := owned.accounted bo
    rw [boPrev] at held
    rw [if_pos held] at before
    omega
  accounted b := by
    have before := owned.accounted b
    rw [locks, releases, boPrev, Function.update_apply]
    by_cases same : b = bo
    · subst same
      simp only [if_true]
      omega
    · simp only [same, if_false]
      exact before
  whole := torn.trans owned.whole
  known := known

/-- The presentation goes on with the picture changed. -/
theorem Presenting.shows {bo : Nat} (presenting : g.Presenting bo) {scanout pending : Option Nat}
    {crtcSet flipDone : Bool} {flipEvents : Nat} :
    Presenting bo { g with scanout, pending, crtcSet, flipEvents, flipDone } :=
  ⟨presenting.cur, presenting.other, presenting.accounted, presenting.whole, presenting.known⟩

/-- **Presenting a buffer that has a framebuffer** is in order exactly when the buffer takes
the place of the old one; then a pending flip is the one to it, and it is on the screen if the mode
is set. -/
theorem Presenting.show_owned_iff {bo : Nat} (presenting : g.Presenting bo) (rest : g.AtRest)
    (answers : Present) :
    ((g.showBuffer bo answers).swap.Owned ↔ g.Replaces answers) ∧
      (g.Replaces answers → (g.showBuffer bo answers).swap.AtRest) := by
  cases held : g.boPrev with
  | none =>
      have replaces : g.Replaces answers := fun some => absurd held some
      obtain ⟨screen, shows, set⟩ := @showBuffer_first g bo held rest answers
      have shown : (g.showBuffer bo answers).Presenting bo := by
        rw [shows]
        exact presenting.shows
      refine ⟨iff_of_true ?_ replaces, fun _ => shown.swap_atRest (.inl ?_) fun mode => ?_⟩
      · rw [shown.swap_owned_iff, shows]
        intro old some
        rw [held] at some
        cases some
      · rw [shows]
        exact (rest.blank held).1
      · rw [shows] at mode ⊢
        exact set mode
  | some old =>
      have differ : bo ≠ old := by
        rintro rfl
        exact presenting.other held
      have shows := showBuffer_shows held differ rest answers
      obtain ⟨_, _, _, _, _, after⟩ := shows.frame
      have shown : (g.showBuffer bo answers).Presenting bo := by
        rw [after]
        exact presenting.shows
      have kept : (g.showBuffer bo answers).boPrev = some old := by
        rw [after]
        exact held
      refine ⟨?_, fun replaces => shown.swap_atRest (shows.pending replaces) (shows.shown replaces)⟩
      rw [shown.swap_owned_iff, ← shows.left]
      simp only [kept, Option.some.injEq, forall_eq']

/-- A call that neither locks nor releases a buffer is in order. -/
theorem Owned.kept (owned : g.Owned) {g' : Gpu} (locks : g'.locks = g.locks)
    (releases : g'.releases = g.releases) (boPrev : g'.boPrev = g.boPrev)
    (torn : g'.torn = g.torn) : g'.Owned where
  accounted bo := by
    rw [locks, releases, boPrev]
    exact owned.accounted bo
  whole := torn.trans owned.whole

/-- The buffer has a framebuffer or gets one, and the others keep theirs; or there is none. -/
theorem fbFromBo_cases (g : Gpu) (bo : Nat) (addFb : AddFb) :
    ((g.fbs bo = true ∨ addFb.withModifiers = true ∨ addFb.plain = true) ∧
        ∃ fbs, g.fbFromBo bo addFb = ({ g with fbs }, true) ∧ fbs bo = true ∧
          ∀ b, g.fbs b = true → fbs b = true) ∨
      (¬(g.fbs bo = true ∨ addFb.withModifiers = true ∨ addFb.plain = true) ∧
        g.fbFromBo bo addFb = (g, false)) := by
  unfold fbFromBo
  by_cases known : g.fbs bo = true
  · exact .inl ⟨.inl known, g.fbs, if_pos known, known, fun _ => id⟩
  · rw [if_neg known, ← Bool.or_eq_true]
    by_cases made : (addFb.withModifiers || addFb.plain) = true
    · refine .inl ⟨.inr made, _, if_pos made, Function.update_self _ _ _, fun b has => ?_⟩
      rw [Function.update_apply]
      split
      · rfl
      · exact has
    · exact .inr ⟨not_or.mpr ⟨known, made⟩, if_neg made⟩

/-- What a call of `hud_gl_present` comes down to: it does nothing, it forgets a buffer
without a framebuffer, or it presents one. -/
theorem present_cases (owned : g.Owned) (rest : g.AtRest) (answers : Present) :
    (g.Succeeds (.present answers) ∧ ∃ boCur, g.present answers = { g with boCur }) ∨
      (¬g.Succeeds (.present answers) ∧ ¬(g.present answers).Owned) ∨
      ∃ bo k, Presenting bo k ∧ k.AtRest ∧ g.present answers = (k.showBuffer bo answers).swap ∧
        (g.Succeeds (.present answers) ↔
          k.Replaces answers) := by
  unfold present
  cases display : g.eglDpy with
  | false =>
      refine .inl ⟨?_, g.boCur, ?_⟩
      · intro on
        rw [display] at on
        cases on
      · rw [if_pos rfl, ← display]
  | true =>
      cases front : answers.front with
      | none =>
          refine .inl ⟨?_, none, ?_⟩
          · intro _ bo shown
            rw [front] at shown
            cases shown
          · simp [lockFrontBuffer, display]
      | some bo =>
          by_cases free : g.locks bo = g.releases bo
          · have asked : g.Succeeds (.present answers) ↔
                (g.fbs bo = true ∨ answers.addFb.withModifiers = true ∨
                    answers.addFb.plain = true) ∧
                  g.Replaces answers := by
              unfold Succeeds
              simp only [display, front, Option.some.injEq, forall_eq', true_implies, free]
            have locked : g.lockFrontBuffer (some bo) =
                ({ g with locks := Function.update g.locks bo (g.locks bo + 1) }, some bo) :=
              if_pos free
            rw [if_neg Bool.false_ne_true.symm, locked, asked]
            rcases fbFromBo_cases { g with
                locks := Function.update g.locks bo (g.locks bo + 1)
                boCur := some bo } bo answers.addFb with
              ⟨made, fbs, same, known, more⟩ | ⟨missing, same⟩
            · simp only [same]
              refine .inr (.inr ⟨bo, { g with
                  locks := Function.update g.locks bo (g.locks bo + 1)
                  boCur := some bo
                  fbs },
                owned.presenting free rfl rfl rfl rfl rfl known,
                ⟨rest.pending, fun b last => more b (rest.known b last), rest.shown⟩, rfl, ?_⟩)
              exact and_iff_right made
            · simp only [same]
              exact .inr (.inl ⟨fun both => missing both.1, owned.leaks free rfl rfl rfl⟩)
          · refine .inl ⟨?_, none, ?_⟩
            · intro _ bo' shown free'
              rw [front, Option.some.injEq] at shown
              subst shown
              exact absurd free' free
            · simp [lockFrontBuffer, free, display]

/-- Between two presentations nothing that matters changes but the picture. -/
theorem display_kept (rest : g.AtRest) (call : DisplayCall) :
    (∃ scanout pending crtcSet flipEvents flipDone,
      g.display call = { g with scanout, pending, crtcSet, flipEvents, flipDone }) ∧
      (g.display call).AtRest := by
  rcases Option.eq_none_or_eq_some g.boPrev with held | ⟨old, held⟩
  · obtain ⟨idle, mode⟩ := rest.blank held
    obtain ⟨scanout, same⟩ : ∃ scanout, g.display call = { g with scanout, crtcSet := false } := by
      obtain ⟨eglDpy, kmsCrtc, boPrev, boCur, crtcSet, flipDone, fbs, scanout, pending⟩ := g
      subst held mode idle
      cases call with
      | vblank => exact ⟨_, rfl⟩
      | unblank addFb setCrtc => exact ⟨_, rfl⟩
      | blank setCrtc => cases kmsCrtc <;> cases setCrtc <;> exact ⟨_, rfl⟩
    rw [same]
    exact ⟨⟨_, _, _, _, _, rfl⟩, .inl idle, rest.known, nofun⟩
  · have waits : Waits old old _ g _ := Waits.display held (rest.known old held) call
    obtain ⟨scanout, pending, crtcSet, flipEvents, flipDone, same⟩ := waits.frame
    have idle : g.pending = none ∨ g.pending = some old := held ▸ rest.pending
    have last : (g.display call).boPrev = some old := by
      rw [same]
      exact held
    refine ⟨⟨scanout, pending, crtcSet, flipEvents, flipDone, same⟩, ?_, ?_, fun set => ⟨?_, ?_⟩⟩
    · rw [last]
      exact waits.pending idle
    · rw [same]
      exact rest.known
    · rw [last]
      exact nofun
    · rw [last]
      refine (or_self_iff.mp (waits.shown idle (fun set => ?_) set))
      exact .inl ((rest.shown set).2.trans held)

/-- **One call** keeps every buffer accounted for exactly when it succeeds. -/
theorem step_owned_iff (owned : g.Owned) (rest : g.AtRest) (call : GpuCall) :
    (g.step call).Owned ↔ g.Succeeds call := by
  cases call with
  | present answers =>
      change (g.present answers).Owned ↔ _
      rcases present_cases owned rest answers with
        ⟨succeeds, boCur, same⟩ | ⟨fails, leaks⟩ | ⟨bo, k, presenting, krest, same, condition⟩
      · rw [same]
        exact iff_of_true (owned.kept rfl rfl rfl rfl) succeeds
      · exact iff_of_false leaks fails
      · rw [same, condition]
        exact (presenting.show_owned_iff krest answers).1
  | display call =>
      refine iff_of_true ?_ trivial
      change (g.display call).Owned
      obtain ⟨⟨_, _, _, _, _, same⟩, -⟩ := display_kept rest call
      rw [same]
      exact owned.kept rfl rfl rfl rfl

/-- After a call that is in order, a pending flip is the one to the last buffer, and it is on the
screen if the mode is set. -/
theorem step_atRest (owned : g.Owned) (rest : g.AtRest) {call : GpuCall}
    (after : (g.step call).Owned) : (g.step call).AtRest := by
  cases call with
  | present answers =>
      change (g.present answers).AtRest
      change (g.present answers).Owned at after
      rcases present_cases owned rest answers with
        ⟨succeeds, boCur, same⟩ | ⟨fails, leaks⟩ | ⟨bo, k, presenting, krest, same, condition⟩
      · rw [same]
        exact ⟨rest.pending, rest.known, rest.shown⟩
      · exact absurd after leaks
      · have shows := presenting.show_owned_iff krest answers
        rw [same] at after ⊢
        exact shows.2 (shows.1.mp after)
  | display call => exact (display_kept rest call).2

end Step

/-! ## Runs -/

/-- At the start nothing is owned. -/
theorem initial_owned (eglDpy kmsCrtc : Bool) : Owned { eglDpy, kmsCrtc } :=
  ⟨fun _ => rfl, rfl⟩

/-- **When buffers are accounted for.** For every sequence of calls and every pattern of
answers, each buffer that was locked is held in `bo_prev` or has been released exactly once
and none has been released from under the screen, after each call, exactly when every call
succeeds. -/
theorem owned_iff (eglDpy kmsCrtc : Bool) (calls : List GpuCall) :
    Always step Owned { eglDpy, kmsCrtc } calls ↔
      EachStep step Succeeds { eglDpy, kmsCrtc } calls := by
  have rest : AtRest { eglDpy, kmsCrtc } := ⟨.inl rfl, nofun, nofun⟩
  refine always_iff_eachStep_of_survives AtRest ?_ ?_ rest (initial_owned eglDpy kmsCrtc) calls
  · intro g call rest owned after
    exact step_atRest owned rest after
  · intro g call rest owned
    exact step_owned_iff owned rest call

/-- The first buffer gets no framebuffer. -/
def noFramebuffer : List GpuCall := [.present { front := some 0, addFb := ⟨false, false⟩ }]

/-- The second buffer's flip is refused. -/
def flipRefused : List GpuCall :=
  [.present { front := some 0 }, .present { front := some 1, pageFlip := false }]

/-- **Two ways to go wrong.** A buffer without a framebuffer stays locked and is not held; a
flip that is refused releases the buffer that is on the screen. -/
theorem present_loses :
    ¬Always step Owned {} noFramebuffer ∧ ¬Always step Owned {} flipRefused ∧
      (run step {} noFramebuffer).locks 0 = 1 ∧ (run step {} noFramebuffer).releases 0 = 0 ∧
      (run step {} noFramebuffer).boPrev = none ∧
      (run step {} flipRefused).releases 0 = 1 ∧ (run step {} flipRefused).scanout = some 0 := by
  have forgotten : (run step {} noFramebuffer).locks 0 ≠
      (run step {} noFramebuffer).releases 0 +
        if (run step {} noFramebuffer).boPrev = some 0 then 1 else 0 := by decide
  have torn : (run step {} flipRefused).torn ≠ false := by decide
  refine ⟨?_, ?_, by decide, by decide, by decide, by decide, by decide⟩
  · intro always
    exact forgotten (always.last.accounted 0)
  · intro always
    exact torn always.last.whole

end Gpu

end Ginkgo
