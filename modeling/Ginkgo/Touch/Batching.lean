import Ginkgo.Transition.Feed
import Ginkgo.Touch.Follow
import Ginkgo.Touch.Timely

/-!
# Draining the touch device

The kernel queues the events of the touch device and `drain_inputs` handles what is in the
queue, while further events may arrive; between two calls the main loop does its other
work. When an event is handled, the HUD reads the clock and, at the end of a report, asks
the kernel for the slot table as it is by then. What it recognises therefore depends on how
far the handling lags behind (`Ginkgo.lagging_loses_tap`). As long as the kernel has not
got ahead at the end of any report, the taps are those of the contacts in the stream,
judged by the times at which their landings and lifts were handled
(`Ginkgo.taps_of_prompt`).
-/

namespace Ginkgo

open CText Transition

/-- An event as the kernel delivers it. The HUD does not look at its time. -/
structure InputEvent where
  time : Nat
  ev : Ev

/-- The clock and the answer to a start when an event is handled. -/
structure Answer where
  now : Nat
  sys : Sys

/-- The touch device, its queue and the HUD. -/
abbrev TouchFeed : Type := Feed InputEvent Answer Hud

/-- What happens: an event arrives, the HUD drains its queue, or does something else. -/
abbrev TouchAct : Type := Feed.Act Answer Event

/-- The kernel's slot table after some events. -/
def panelAfter (start : Panel) (events : List InputEvent) : Panel :=
  run (fun panel event => panel.put event.ev) start events

/-- `drain_inputs` handles an event: `handle_ev` sees the clock and the slot table after
everything that has arrived. -/
def drainOne (dev : Dev) (start : Panel) (arrived : List InputEvent) (event : InputEvent)
    (answer : Answer) (h : Hud) : Hud :=
  h.handleEv dev event.ev
    { now := answer.now, slots := some (panelAfter start arrived).answer, sys := answer.sys }

/-- One of these. -/
def touchStep (dev : Dev) (start : Panel) : TouchFeed → TouchAct → TouchFeed :=
  Feed.step (drainOne dev start) Hud.step

/-- A call of `drain_inputs` that finds a number of events. -/
def drain (count : Nat) (answer : Answer) : List TouchAct :=
  List.replicate count (.handle answer)

/-- The contacts in the events handled so far. -/
def watchLog (dev : Dev) (start : Panel) (log : List (Handled InputEvent Answer Hud)) : Watch :=
  run (fun watch handled =>
    watch.put dev handled.event.ev handled.answer.now handled.before.touchView.taken)
    { track := { panel := start } } log

/-- The contacts in a stream by the times of its events. -/
def watchStream (dev : Dev) (start : Panel) (stream : List InputEvent) : Watch :=
  run (fun watch event => watch.put dev event.ev event.time false)
    { track := { panel := start } } stream

/-- A stream of one finger at a time. -/
def OneFingerStream (dev : Dev) (nslots : Nat) (start : Panel) (stream : List InputEvent) : Prop :=
  EachStep (fun track event => Track.put dev track event.ev)
    (fun track event => Regular dev nslots track event.ev) { panel := start } stream

/-- **Handling that does not lag.** At the end of a report the kernel has not got ahead of
the handled events. Apart from that, the clock runs, the screen has been on for a quarter of
a second, and nothing blanks it. -/
def Prompt (start : Panel) (feed : TouchFeed) : TouchAct → Prop
  | .arrive => True
  | .handle answer =>
      answer.now ≠ 0 ∧
        (feed.state.screen.tUnblank = 0 ∨
          250000000 ≤ answer.now - feed.state.screen.tUnblank) ∧
        ∀ event ∈ feed.queue.head?, event.ev = .syn →
          (panelAfter start (feed.handled ++ [event])).Current (panelAfter start feed.arrived)
  | .change event => feed.state.Meanwhile event

instance (start : Panel) (feed : TouchFeed) : (act : TouchAct) → Decidable (Prompt start feed act)
  | .arrive => .isTrue trivial
  | .handle _ => inferInstanceAs (Decidable (_ ∧ _ ∧ ∀ _ ∈ _, _ → _))
  | .change event => inferInstanceAs (Decidable (feed.state.Meanwhile event))

instance (dev : Dev) (nslots : Nat) (start : Panel) (stream : List InputEvent) :
    Decidable (OneFingerStream dev nslots start stream) :=
  inferInstanceAs (Decidable (EachStep _ _ _ _))

/-- The HUD is awake and follows no contact. -/
structure Hud.Ready (start : Panel) (nslots : Nat) (h : Hud) : Prop where
  agrees : h.touchView.Agrees nslots h.ui.W h.ui.H start
  idle : h.touchView.Idle start

section Prompt

variable {dev : Dev} {nslots : Nat} {start : Panel}

/-- One event more in the log. -/
theorem watchLog_append (log : List (Handled InputEvent Answer Hud))
    (last : Handled InputEvent Answer Hud) :
    watchLog dev start (log ++ [last]) =
      (watchLog dev start log).put dev last.event.ev last.answer.now last.before.touchView.taken :=
  run_append _ log [last]

/-- The slot table and the contact depend on the events only. -/
theorem watchLog_track (log : List (Handled InputEvent Answer Hud)) :
    (watchLog dev start log).track =
      run (fun track event => Track.put dev track event.ev) { panel := start }
        (log.map Handled.event) := by
  induction log using List.reverseRecOn with
  | nil => rfl
  | append_singleton log last ih =>
      rw [watchLog_append, List.map_append, run_append, ← ih]
      rfl

/-- One event more for the table. -/
theorem panelAfter_append (events : List InputEvent) (last : InputEvent) :
    panelAfter start (events ++ [last]) = (panelAfter start events).put last.ev :=
  run_append _ events [last]

/-- The table of the log is that of its events. -/
theorem watchLog_panel (log : List (Handled InputEvent Answer Hud)) :
    (watchLog dev start log).track.panel = panelAfter start (log.map Handled.event) := by
  induction log using List.reverseRecOn with
  | nil => rfl
  | append_singleton log last ih =>
      rw [watchLog_append, List.map_append, List.map_singleton, panelAfter_append, ← ih]
      rfl

/-- **The taps of prompt handling.** In a run whose every step is prompt, over a stream of
one finger at a time, the HUD goes on following the finger. -/
theorem follows_of_prompt (touch : dev.isTouch = true) (slots : dev.hasMt = true)
    {feed : TouchFeed} (unhandled : feed.log = []) (ready : feed.state.Ready start nslots)
    (stream : OneFingerStream dev nslots start feed.stream) {acts : List TouchAct}
    (prompt : EachStep (touchStep dev start) (Prompt start) feed acts) :
    Follows dev nslots feed.state.ui.W feed.state.ui.H feed.state.taps
      (watchLog dev start (run (touchStep dev start) feed acts).log)
      (run (touchStep dev start) feed acts).state.touchView := by
  have initial : Follows dev nslots feed.state.ui.W feed.state.ui.H feed.state.taps
      (watchLog dev start feed.log) feed.state.touchView := by
    rw [unhandled]
    exact ⟨ready.agrees, ready.idle, (List.append_nil _).symm⟩
  have handles : ∀ (now : TouchFeed) event queue answer, now.stream = feed.stream →
      now.queue = event :: queue → Prompt start now (.handle answer) →
      Follows dev nslots feed.state.ui.W feed.state.ui.H feed.state.taps
        (watchLog dev start now.log) now.state.touchView →
      Follows dev nslots feed.state.ui.W feed.state.ui.H feed.state.taps
        (watchLog dev start (now.log ++ [⟨event, answer, now.state⟩]))
        (drainOne dev start now.arrived event answer now.state).touchView := by
    rintro now event queue answer same waiting ⟨clock, awake, current⟩ follows
    have regular : Regular dev nslots (watchLog dev start now.log).track event.ev := by
      have ahead : feed.stream = now.handled ++ event :: (queue ++ now.ahead) := by
        rw [← same]
        simp [Feed.stream, Feed.arrived, waiting]
      unfold OneFingerStream at stream
      rw [ahead, eachStep_append] at stream
      rw [watchLog_track]
      exact stream.2.1
    have kept (syn : event.ev = .syn) :
        ((watchLog dev start now.log).track.panel.put .syn).Current
          (panelAfter start now.arrived) := by
      have seen := current event (by rw [waiting]; rfl) syn
      rw [panelAfter_append, syn] at seen
      rw [watchLog_panel]
      exact seen
    have kernel : (⟨answer.now, some (panelAfter start now.arrived).answer, answer.sys⟩ : EvEnv).slots =
        some (panelAfter start now.arrived).answer := rfl
    rw [watchLog_append]
    exact Hud.handleEv_follows touch slots follows regular clock awake kernel kept
  have changes : ∀ (now : TouchFeed) (event : Event), Prompt start now (.change event) →
      Follows dev nslots feed.state.ui.W feed.state.ui.H feed.state.taps
        (watchLog dev start now.log) now.state.touchView →
      Follows dev nslots feed.state.ui.W feed.state.ui.H feed.state.taps
        (watchLog dev start now.log) (now.state.step event).touchView := by
    intro now event meanwhile follows
    rw [(now.state.step_apart meanwhile).aside]
    exact follows
  exact Feed.run_relates (fun log h => Follows dev nslots feed.state.ui.W feed.state.ui.H
    feed.state.taps (watchLog dev start log) h.touchView) handles changes initial prompt

/-- The contacts in the log are those of the stream. -/
theorem watchLog_trails (log : List (Handled InputEvent Answer Hud)) :
    (watchLog dev start log).trails =
      (watchStream dev start (log.map Handled.event)).trails := by
  have both : (watchLog dev start log).track =
      (watchStream dev start (log.map Handled.event)).track ∧
      (watchLog dev start log).trails =
        (watchStream dev start (log.map Handled.event)).trails := by
    induction log using List.reverseRecOn with
    | nil => exact ⟨rfl, rfl⟩
    | append_singleton log last ih =>
        rw [watchLog_append, List.map_append, watchStream, run_append]
        exact Watch.put_congr ih.1 ih.2 _ _ _ _ _
  exact both.2

/-- Events that are handled within a delay are the same contacts by both clocks. -/
theorem watchLog_shadows {offset : Int} {delay : Nat}
    (log : List (Handled InputEvent Answer Hud))
    (timely : ∀ handled ∈ log, Delayed offset delay handled.answer.now handled.event.time) :
    (watchLog dev start log).Shadows offset delay
      (watchStream dev start (log.map Handled.event)) := by
  induction log using List.reverseRecOn with
  | nil => exact ⟨rfl, fun present => absurd rfl present, .nil⟩
  | append_singleton log last ih =>
      have earlier := ih fun handled inside => timely handled (List.mem_append_left _ inside)
      have late := timely last (List.mem_append_right _ (List.mem_singleton_self last))
      rw [watchLog_append, List.map_append, watchStream, run_append]
      exact earlier.put dev last.event.ev late last.before.touchView.taken

/-- **Taps do not depend on how prompt handling batches the events.** In two runs that handle a
whole stream of one finger at a time promptly, the HUD sees the contacts of the stream. It
dispatches a tap for each contact that was in time by the clock of the handling, that nothing
had taken and that ended near its start, and for no other; a contact that never moved ends near
its start. When the two runs agree on which contacts were in time and not taken, the taps are
the same. They are those of the stream by the times of its events, when nothing took a contact,
every event was handled within some delay and no contact is that close to the limits of a tap. -/
theorem taps_of_prompt (touch : dev.isTouch = true) (slots : dev.hasMt = true)
    {feed : TouchFeed} (unhandled : feed.log = []) (ready : feed.state.Ready start nslots)
    (stream : OneFingerStream dev nslots start feed.stream) {acts acts' : List TouchAct}
    (prompt : EachStep (touchStep dev start) (Prompt start) feed acts)
    (prompt' : EachStep (touchStep dev start) (Prompt start) feed acts')
    (drained : (run (touchStep dev start) feed acts).Drained)
    (drained' : (run (touchStep dev start) feed acts').Drained) :
    let done := run (touchStep dev start) feed acts
    let done' := run (touchStep dev start) feed acts'
    let watch := watchLog dev start done.log
    let watch' := watchLog dev start done'.log
    let stamped := watchStream dev start feed.stream
    done.state.taps = feed.state.taps ++ watch.taps dev feed.state.ui.W feed.state.ui.H ∧
      watch.trails = stamped.trails ∧
      (∀ lifted ∈ watch.lifted, ∀ x y, lifted.trail = .land x y → 8 ≤ dev.range →
        (lifted.isTap dev = true ↔ lifted.inTime = true ∧ lifted.taken = false)) ∧
      (watch.verdicts = watch'.verdicts → done.state.taps = done'.state.taps) ∧
      ∀ offset delay,
        (∀ handled ∈ done.log, Delayed offset delay handled.answer.now handled.event.time) →
        (∀ lifted ∈ watch.lifted, lifted.taken = false) →
        (∀ lifted ∈ stamped.lifted, lifted.Clear delay) →
        done.state.taps = feed.state.taps ++ stamped.taps dev feed.state.ui.W feed.state.ui.H := by
  have follows := follows_of_prompt touch slots unhandled ready stream prompt
  have follows' := follows_of_prompt touch slots unhandled ready stream prompt'
  have whole : (run (touchStep dev start) feed acts).log.map Handled.event = feed.stream :=
    Feed.handled_of_drained drained
  have whole' : (run (touchStep dev start) feed acts').log.map Handled.event = feed.stream :=
    Feed.handled_of_drained drained'
  have trails := @watchLog_trails dev start (run (touchStep dev start) feed acts).log
  have trails' := @watchLog_trails dev start (run (touchStep dev start) feed acts').log
  rw [whole] at trails
  rw [whole'] at trails'
  refine ⟨follows.taps, trails, ?_, ?_, ?_⟩
  · intro lifted _ x y unmoved wide
    have near : lifted.trail.near dev = true := by
      rw [unmoved]
      exact Trail.land_near wide x y
    simp [Lifted.isTap, near]
  · intro agree
    calc (run (touchStep dev start) feed acts).state.taps
        = feed.state.taps ++ (watchLog dev start (run (touchStep dev start) feed acts).log).taps dev
            feed.state.ui.W feed.state.ui.H := follows.taps
      _ = feed.state.taps ++ (watchLog dev start (run (touchStep dev start) feed acts').log).taps dev
            feed.state.ui.W feed.state.ui.H := by
          rw [Watch.taps_eq_zip, Watch.taps_eq_zip, trails, trails', agree]
      _ = (run (touchStep dev start) feed acts').state.taps := follows'.taps.symm
  · intro offset delay timely free clear
    have shadows := @watchLog_shadows dev start _ _ (run (touchStep dev start) feed acts).log timely
    rw [whole] at shadows
    rw [← shadows.taps_eq dev _ _ free clear]
    exact follows.taps

end Prompt

/-! ## Readiness -/

/-- After `reset_touch` the HUD is ready for a device without a contact whose current slot is
the first one. -/
theorem Hud.resetTouch_ready {h : Hud} {start : Panel} (awake : h.screen.screenOff = false)
    (free : h.osk.held = false) (cur : start.cur = 0)
    (empty : ∀ s, (start.slots s).id < 0 ∧ (start.slots s).sentX = false ∧
      (start.slots s).sentY = false) : h.resetTouch.Ready start h.touch.mtNslots where
  agrees := {
    cur := cur.symm
    mirrors := fun s => by
      obtain ⟨dead, noX, noY⟩ := empty s
      refine ⟨.inr ⟨neg_one_lt_zero, dead⟩, nofun, nofun, ?_, ?_⟩
      · simp [noX]
      · simp [noY]
    count := rfl
    awake := awake
    width := rfl
    height := rfl }
  idle := {
    slotId := neg_one_lt_zero
    unarmed := rfl
    free := free
    fresh := fun s sent => by simp [empty s] at sent }

/-- Readiness is a matter of the touch state. -/
theorem Hud.Ready.congr {h h' : Hud} {start : Panel} {nslots : Nat} (ready : h.Ready start nslots)
    (aside : Aside h h') : h'.Ready start nslots := by
  obtain ⟨agrees, idle⟩ := ready
  have width : h'.ui.W = h.ui.W := congrArg TouchView.W aside
  have height : h'.ui.H = h.ui.H := congrArg TouchView.H aside
  rw [← aside] at agrees idle
  exact ⟨width ▸ height ▸ agrees, idle⟩

/-- The HUD starts ready. -/
theorem Boot.hud_ready (boot : Boot) : boot.hud.Ready {} boot.nslots := by
  obtain ⟨k, apart, started⟩ := boot.hud_apart
  have lit := boot.findBacklight_aside
  generalize (boot.blank.loadHudConf boot.lang boot.bl).findBacklight boot.backlight = g
    at lit apart
  have awake : g.screen.screenOff = false := congrArg TouchView.screenOff lit
  have free : g.osk.held = false := congrArg TouchView.held lit
  have reset : ({ g.resetTouch with touch.mtNslots := boot.nslots } : Hud).Ready {} boot.nslots :=
    @Hud.resetTouch_ready { g with touch.mtNslots := boot.nslots } {} awake free rfl
      fun _ => ⟨neg_one_lt_zero, rfl, rfl⟩
  have sampled := reset.congr apart.aside
  rw [started]
  exact ⟨{ sampled.agrees with }, { sampled.idle with }⟩

/-! ## A tap of a tenth of a second -/

/-- A finger lands two seconds after the start of the clock and lifts a tenth of a second
later. -/
def shortTap : List InputEvent :=
  [⟨2000000000, .abs .mtTrackingId 7⟩, ⟨2000000000, .abs .mtPositionX 500⟩,
    ⟨2000000000, .abs .mtPositionY 900⟩, ⟨2000000000, .syn⟩,
    ⟨2100000000, .abs .mtTrackingId (-1)⟩, ⟨2100000000, .syn⟩]

/-- The start of a phone with a touch screen of ten slots. -/
def shortTapBoot : Boot :=
  { W := 1080, H := 2400, nslots := 10, now := 1000000000, sys := { spawn := .noNmcli } }

/-- The tap is still to come. -/
def shortTapFeed : TouchFeed where
  ahead := shortTap
  state := shortTapBoot.hud

/-- Some events arrive. -/
def arrivals (count : Nat) : List TouchAct := List.replicate count .arrive

/-- Some events are handled at one time. -/
def drainAt (count now : Nat) : List TouchAct := drain count ⟨now, { spawn := .noNmcli }⟩

/-- Each of the two reports is handled a millisecond after it has arrived. -/
def reportByReport : List TouchAct :=
  arrivals 4 ++ drainAt 4 2001000000 ++ arrivals 2 ++ drainAt 2 2101000000

/-- The first report is handled in two pieces, and frames are drawn in between. -/
def pieceByPiece : List TouchAct :=
  arrivals 2 ++ drainAt 2 2000500000 ++ [.change .render] ++ arrivals 2 ++ drainAt 2 2000900000 ++
    [.change (.idleOff 2050000000), .change .render] ++ arrivals 2 ++ drainAt 2 2110000000

/-- Both reports are handled in one go, after the finger has lifted. -/
def inOneGo : List TouchAct := arrivals 6 ++ drainAt 6 2120000000

/-- The tap is recognised in both ways. -/
theorem taps_of_prompt_shortTap :
    (run (touchStep (.slotted 1080 2400) {}) shortTapFeed reportByReport).state.taps =
        (run (touchStep (.slotted 1080 2400) {}) shortTapFeed pieceByPiece).state.taps ∧
      (run (touchStep (.slotted 1080 2400) {}) shortTapFeed reportByReport).state.taps =
        (watchStream (.slotted 1080 2400) {} shortTap).taps (.slotted 1080 2400) 1080 2400 := by
  have taps := @taps_of_prompt (.slotted 1080 2400) 10 {} rfl rfl shortTapFeed rfl
    shortTapBoot.hud_ready (by decide +kernel) reportByReport pieceByPiece (by decide +kernel)
    (by decide +kernel) ⟨rfl, rfl⟩ ⟨rfl, rfl⟩
  constructor
  · exact taps.2.2.2.1 (by decide +kernel)
  · exact taps.2.2.2.2 0 1000000 (by decide +kernel) (by decide +kernel) (by decide +kernel)

/-- **Handling that lags loses a tap.** By the times of its events, the stream is one contact
of a tenth of a second that never moves, and handled report by report it is a tap; handled in
one go it is none, because the slot table that the HUD reads at its landing is already that
of its lift. -/
theorem lagging_loses_tap :
    OneFingerStream (.slotted 1080 2400) 10 {} shortTap ∧
      (watchStream (.slotted 1080 2400) {} shortTap).lifted =
        [⟨.land 500 900, 2000000000, 2100000000, false⟩] ∧
      (run (touchStep (.slotted 1080 2400) {}) shortTapFeed reportByReport).handled = shortTap ∧
      (run (touchStep (.slotted 1080 2400) {}) shortTapFeed inOneGo).handled = shortTap ∧
      (run (touchStep (.slotted 1080 2400) {}) shortTapFeed reportByReport).state.taps =
        [(500, 900)] ∧
      (run (touchStep (.slotted 1080 2400) {}) shortTapFeed inOneGo).state.taps = [] := by
  refine ⟨by decide +kernel, by decide +kernel, by rfl, by rfl, by decide +kernel, by decide +kernel⟩

end Ginkgo
