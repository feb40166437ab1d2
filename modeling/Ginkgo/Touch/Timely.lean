import Ginkgo.Touch.Stream

/-!
# Contacts by two clocks

The same stream can be watched by two clocks: by the times that the kernel has written into
the events, and by the times at which the events are handled. The second is ahead of the
first by a fixed offset and, for each event, by the delay until it is handled. While the
delay stays below a bound, the contacts are the same and their lengths differ by no more
than the bound (`Ginkgo.Watch.Shadows`), so a contact whose length is not within the bound
of the limits of a tap is judged alike by both clocks (`Ginkgo.Watch.Shadows.taps_eq`).
-/

namespace Ginkgo

/-- A time by the second clock is that by the first, moved by the offset and at most the delay. -/
def Delayed (offset : Int) (delay now time : Nat) : Prop :=
  (time : Int) + offset ≤ now ∧ (now : Int) ≤ time + offset + delay

instance (offset : Int) (delay now time : Nat) : Decidable (Delayed offset delay now time) :=
  inferInstanceAs (Decidable (_ ∧ _))

namespace Lifted

/-- How long a contact has lasted. -/
def length (lifted : Lifted) : Nat := lifted.up - lifted.down

/-- The length of the contact is not within the delay of the limits of a tap. -/
def Clear (delay : Nat) (lifted : Lifted) : Prop :=
  lifted.length + delay < 8000000 ∨
    8000000 + delay ≤ lifted.length ∧ lifted.length + delay ≤ 2000000000 ∨
    2000000000 + delay < lifted.length

instance (delay : Nat) (lifted : Lifted) : Decidable (lifted.Clear delay) :=
  inferInstanceAs (Decidable (_ ∨ _ ∧ _ ∨ _))

/-- The same contact by the second clock and by the first, which knows of nothing that takes
a contact. -/
structure Shadows (offset : Int) (delay : Nat) (seen stamped : Lifted) : Prop where
  trail : seen.trail = stamped.trail
  down : Delayed offset delay seen.down stamped.down
  up : Delayed offset delay seen.up stamped.up
  free : stamped.taken = false

variable {offset : Int} {delay : Nat} {seen stamped : Lifted}

/-- A contact that is clear of the limits is in time by both clocks or by none. -/
theorem Shadows.inTime_eq (shadows : seen.Shadows offset delay stamped)
    (clear : stamped.Clear delay) : seen.inTime = stamped.inTime := by
  obtain ⟨-, ⟨downEarly, downLate⟩, ⟨upEarly, upLate⟩, -⟩ := shadows
  have shorter : seen.length ≤ stamped.length + delay := by
    unfold length
    omega
  have longer : stamped.length ≤ seen.length + delay := by
    unfold length
    omega
  unfold Clear at clear
  unfold inTime
  apply decide_eq_decide.mpr
  change 8000000 ≤ seen.length ∧ seen.length ≤ 2000000000 ↔
    8000000 ≤ stamped.length ∧ stamped.length ≤ 2000000000
  omega

/-- A contact that nothing takes and that is clear of the limits is a tap by both clocks or
by none. -/
theorem Shadows.isTap_eq (shadows : seen.Shadows offset delay stamped) (dev : Dev)
    (free : seen.taken = false) (clear : stamped.Clear delay) :
    seen.isTap dev = stamped.isTap dev := by
  unfold isTap
  rw [shadows.inTime_eq clear, shadows.trail, free, shadows.free]

end Lifted

/-- **Two clocks.** The stream by the second clock and by the first. -/
structure Watch.Shadows (offset : Int) (delay : Nat) (seen stamped : Watch) : Prop where
  track : seen.track = stamped.track
  down : stamped.track.contact ≠ none → Delayed offset delay seen.down stamped.down
  lifted : List.Forall₂ (Lifted.Shadows offset delay) seen.lifted stamped.lifted

namespace Watch

variable {offset : Int} {delay : Nat} {seen stamped : Watch}

/-- An event that is handled within the delay keeps the two clocks together. -/
theorem Shadows.put (shadows : seen.Shadows offset delay stamped) (dev : Dev) (ev : Ev)
    {now time : Nat} (late : Delayed offset delay now time) (taken : Bool) :
    (seen.put dev ev now taken).Shadows offset delay (stamped.put dev ev time false) := by
  obtain ⟨track, down, lifted⟩ := shadows
  have tracks : (seen.track.put dev ev) = (stamped.track.put dev ev) := by rw [track]
  refine ⟨tracks, ?_, ?_⟩
  · intro present
    unfold Watch.put
    simp only [track]
    by_cases landed : stamped.track.contact = none ∧ (stamped.track.put dev ev).contact ≠ none
    · rw [if_pos landed, if_pos landed]
      exact late
    · rw [if_neg landed, if_neg landed]
      apply down
      intro absent
      exact landed ⟨absent, present⟩
  · unfold Watch.put
    simp only [track]
    cases before : stamped.track.contact with
    | none => exact lifted
    | some c =>
        cases (stamped.track.put dev ev).contact with
        | some c' => exact lifted
        | none =>
            have downLate : Delayed offset delay seen.down stamped.down :=
              down (by rw [before]; exact nofun)
            have ended : Lifted.Shadows offset delay ⟨c.trail, seen.down, now, taken⟩
                ⟨c.trail, stamped.down, time, false⟩ := ⟨rfl, downLate, late, rfl⟩
            exact List.rel_append lifted (.cons ended .nil)

/-- **Both clocks see the same taps**, when nothing takes a contact and no contact's length is
within the delay of the limits. -/
theorem Shadows.taps_eq (shadows : seen.Shadows offset delay stamped) (dev : Dev) (W H : Int)
    (free : ∀ lifted ∈ seen.lifted, lifted.taken = false)
    (clear : ∀ lifted ∈ stamped.lifted, lifted.Clear delay) :
    seen.taps dev W H = stamped.taps dev W H := by
  obtain ⟨_, _, ended⟩ := seen
  obtain ⟨_, _, ended'⟩ := stamped
  have alikes : List.Forall₂ (Lifted.Shadows offset delay) ended ended' := shadows.lifted
  clear shadows
  unfold taps
  simp only at free clear ⊢
  induction alikes with
  | nil => rfl
  | @cons one other ones others related _ ih =>
      have alike : one.isTap dev = other.isTap dev :=
        related.isTap_eq dev (free one List.mem_cons_self) (clear other List.mem_cons_self)
      have rest := ih (fun lifted inside => free lifted (List.mem_cons_of_mem one inside))
        (fun lifted inside => clear lifted (List.mem_cons_of_mem other inside))
      rw [List.filter_cons, List.filter_cons, alike]
      cases other.isTap dev with
      | false => exact rest
      | true =>
          simp only [if_true, List.map_cons, rest, related.trail]

end Watch

end Ginkgo
