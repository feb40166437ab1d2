import Mathlib.Algebra.Ring.Int.Defs
import Mathlib.Data.List.Basic
import Mathlib.Data.Stream.Init

/-!
# Positions that chase a target

An animation moves a position towards a target, a part of the distance in every frame. Now and
then a new target is set, at a distance from where the position is then; what was left of the
way to the old one is not made up for. `Transition.Chase` is such an animation whose step is
truncated: a distance of one unit is closed at once, one of two units never, and a longer one
not for every rate in the same way.

`Transition.Chase.settles_iff` says when the position ends, for every sequence of rates, at the
same place: no frame may find a distance of three units or more.
-/

namespace Transition

/-- A new target at a distance from the position, or a frame of the animation. -/
inductive Mark where
  | aim (distance : Int)
  | frame
  deriving DecidableEq

/-- An animation with truncated steps. A frame at a rate leaves `left rate d` of a distance `d`. -/
structure Chase (Rate : Type*) where
  left : Rate → Int → Int
  Fit : Rate → Prop
  Gradual : Stream' Rate → Prop
  fit : ∀ {rates}, Gradual rates → Fit rates.head
  tail : ∀ {rates}, Gradual rates → Gradual rates.tail
  cons : ∀ {rate rates}, Fit rate → Gradual rates → Gradual (.cons rate rates)
  const : ∀ {rate}, Fit rate → Gradual (.const rate)
  calm : ∀ {rate d}, Fit rate → d.natAbs ≤ 1 → left rate d = 0
  stuck : ∀ {rate d}, Fit rate → d.natAbs = 2 → left rate d = d
  far : ∀ {rate d}, Fit rate → 2 ≤ d.natAbs → 2 ≤ (left rate d).natAbs
  slow : ∀ d : Int, ∃ rate, Fit rate ∧ (2 ≤ d.natAbs → left rate d = d)
  fast : ∃ rate, Fit rate ∧ ∀ d, 3 ≤ d.natAbs → left rate d ≠ d

namespace Chase

/-! ## What does not depend on the rates -/

/-- No frame finds a distance of three units or more, and the marks leave none. -/
def Steady : Int → List Mark → Prop
  | d, [] => d.natAbs ≤ 2
  | _, .aim distance :: marks => Steady distance marks
  | d, .frame :: marks => d.natAbs ≤ 2 ∧ Steady (if d.natAbs ≤ 1 then 0 else d) marks

/-- The sum of the distances of at most one unit that a frame finds. -/
def caught : Int → List Mark → Int
  | d, [] => if d.natAbs ≤ 1 then d else 0
  | _, .aim distance :: marks => caught distance marks
  | d, .frame :: marks => if d.natAbs ≤ 1 then d + caught 0 marks else caught d marks

/-- The sum of the distances to the targets when they were set. -/
def aimed : List Mark → Int
  | [] => 0
  | .aim distance :: marks => distance + aimed marks
  | .frame :: marks => aimed marks

/-- What is caught is all that was aimed at. -/
def CatchesUp (d : Int) (marks : List Mark) : Prop :=
  Steady d marks ∧ caught d marks = aimed marks

instance decidableSteady : (d : Int) → (marks : List Mark) → Decidable (Steady d marks)
  | d, [] => inferInstanceAs (Decidable (d.natAbs ≤ 2))
  | _, .aim distance :: marks => decidableSteady distance marks
  | d, .frame :: marks =>
      have := decidableSteady (if d.natAbs ≤ 1 then 0 else d) marks
      inferInstanceAs (Decidable (_ ∧ _))

instance (d : Int) (marks : List Mark) : Decidable (CatchesUp d marks) :=
  inferInstanceAs (Decidable (_ ∧ _))

/-- What is caught later does not depend on a distance that no frame closes. -/
theorem caught_far {d d' : Int} (far : 2 ≤ d.natAbs) (far' : 2 ≤ d'.natAbs) (marks : List Mark) :
    caught d marks = caught d' marks := by
  induction marks with
  | nil =>
      unfold caught
      rw [if_neg (by omega), if_neg (by omega)]
  | cons mark marks ih =>
      cases mark with
      | aim distance => rfl
      | frame =>
          unfold caught
          rw [if_neg (by omega), if_neg (by omega), ih]

/-- With targets of at least three units only, a target that is set is not reached. -/
theorem not_steady_of_far {marks : List Mark} (all : ∀ distance, .aim distance ∈ marks →
    3 ≤ distance.natAbs) {d : Int} (far : 3 ≤ d.natAbs) : ¬Steady d marks := by
  induction marks generalizing d with
  | nil =>
      unfold Steady
      omega
  | cons mark marks ih =>
      have later := fun distance member => all distance (List.mem_cons_of_mem _ member)
      cases mark with
      | aim distance => exact ih later (all distance List.mem_cons_self)
      | frame =>
          unfold Steady
          omega

/-- So nothing catches up with such a target. -/
theorem not_catchesUp_of_far {marks : List Mark} (all : ∀ distance, .aim distance ∈ marks →
    3 ≤ distance.natAbs) {distance : Int} (set : .aim distance ∈ marks) (d : Int) :
    ¬CatchesUp d marks := by
  rintro ⟨steady, -⟩
  induction marks generalizing d with
  | nil => cases set
  | cons mark marks ih =>
      have later := fun distance member => all distance (List.mem_cons_of_mem _ member)
      cases mark with
      | aim near => exact not_steady_of_far later (all near List.mem_cons_self) steady
      | frame =>
          rw [List.mem_cons] at set
          exact ih later (set.resolve_left nofun) _ steady.2

/-! ## Travelling -/

variable {Rate : Type*} (chase : Chase Rate)

/-- How far the position moves during the marks, from a distance to its target. -/
def travel : Stream' Rate → Int → List Mark → Int
  | _, _, [] => 0
  | rates, _, .aim distance :: marks => travel rates distance marks
  | rates, d, .frame :: marks =>
      d - chase.left rates.head d + travel rates.tail (chase.left rates.head d) marks

/-- **Settling**: at all rates the position moves by the same total after finitely many frames,
and then stays. -/
def Settles (d : Int) (marks : List Mark) (total : Int) : Prop :=
  ∀ rates, chase.Gradual rates →
    ∃ n, ∀ m ≥ n, chase.travel rates d (marks ++ .replicate m .frame) = total

variable {chase} {rates : Stream' Rate} {d total : Int} {marks : List Mark}

/-- Frames at the target go nowhere. -/
theorem travel_frames_zero (gradual : chase.Gradual rates) (m : Nat) :
    chase.travel rates 0 (.replicate m .frame) = 0 := by
  induction m generalizing rates with
  | zero => rfl
  | succ m ih =>
      rw [List.replicate_succ, travel, chase.calm (chase.fit gradual) (by decide), sub_zero,
        zero_add]
      exact ih (chase.tail gradual)

/-- Nor do frames whose rate does not get over the distance. -/
theorem travel_frames_slow {rate : Rate} (stays : chase.left rate d = d) (m : Nat) :
    chase.travel (.const rate) d (.replicate m .frame) = 0 := by
  induction m with
  | zero => rfl
  | succ m ih =>
      rw [List.replicate_succ, travel, Stream'.tail_const]
      change d - chase.left rate d + chase.travel _ (chase.left rate d) _ = 0
      rw [stays, ih, sub_self, zero_add]

/-- A distance of two units stays at every rate. -/
theorem travel_frames_stuck (gradual : chase.Gradual rates) (two : d.natAbs = 2) (m : Nat) :
    chase.travel rates d (.replicate m .frame) = 0 := by
  induction m generalizing rates with
  | zero => rfl
  | succ m ih =>
      rw [List.replicate_succ, travel, chase.stuck (chase.fit gradual) two, sub_self, zero_add]
      exact ih (chase.tail gradual)

/-- As long as no frame finds a long distance, the rates do not matter. -/
theorem travel_of_steady (gradual : chase.Gradual rates) (steady : Steady d marks) {m : Nat}
    (last : 0 < m) : chase.travel rates d (marks ++ .replicate m .frame) = caught d marks := by
  induction marks generalizing rates d with
  | nil =>
      rw [List.nil_append]
      unfold caught
      unfold Steady at steady
      by_cases near : d.natAbs ≤ 1
      · obtain ⟨m, rfl⟩ := Nat.exists_eq_add_one.mpr last
        rw [List.replicate_succ, travel, chase.calm (chase.fit gradual) near, if_pos near,
          sub_zero, travel_frames_zero (chase.tail gradual), add_zero]
      · rw [travel_frames_stuck gradual (by omega), if_neg near]
  | cons mark marks ih =>
      cases mark with
      | aim distance => exact ih gradual steady
      | frame =>
          obtain ⟨short, steady⟩ := steady
          rw [List.cons_append, travel]
          unfold caught
          by_cases near : d.natAbs ≤ 1
          · rw [if_pos near] at steady
            rw [chase.calm (chase.fit gradual) near, if_pos near, sub_zero,
              ih (chase.tail gradual) steady]
          · rw [if_neg near] at steady
            rw [chase.stuck (chase.fit gradual) (by omega), if_neg near, sub_self, zero_add,
              ih (chase.tail gradual) steady]

/-- What is left to settle after a frame at a rate. -/
theorem Settles.after_frame (settles : chase.Settles d (.frame :: marks) total) {rate : Rate}
    (fits : chase.Fit rate) :
    chase.Settles (chase.left rate d) marks (total - (d - chase.left rate d)) := by
  intro rates gradual
  obtain ⟨n, ends⟩ := settles (.cons rate rates) (chase.cons fits gradual)
  refine ⟨n, fun m late => ?_⟩
  have whole := ends m late
  rw [List.cons_append, travel, Stream'.tail_cons, Stream'.head_cons] at whole
  omega

/-- If nothing but frames follows, a distance that some rates leave alone is not covered. -/
theorem Settles.total_eq_zero (settles : chase.Settles d [] total) (far : 2 ≤ d.natAbs) :
    total = 0 := by
  obtain ⟨rate, fits, stays⟩ := chase.slow d
  obtain ⟨n, ends⟩ := settles (.const rate) (chase.const fits)
  rw [← ends n le_rfl, List.nil_append, travel_frames_slow (stays far)]

/-- Settling with frames only is settling with one frame first. -/
theorem Settles.frame_first (settles : chase.Settles d [] total) :
    chase.Settles d [.frame] total := by
  intro rates gradual
  obtain ⟨n, ends⟩ := settles rates gradual
  refine ⟨n, fun m late => ?_⟩
  have longer := ends (m + 1) (Nat.le_succ_of_le late)
  rwa [List.nil_append, List.replicate_succ] at longer

/-- A distance of three units or more is left differently by different rates. -/
theorem exists_differ (far : 3 ≤ d.natAbs) :
    ∃ slow fast, chase.Fit slow ∧ chase.Fit fast ∧ chase.left slow d = d ∧
      chase.left fast d ≠ d := by
  obtain ⟨slow, fits, stays⟩ := chase.slow d
  obtain ⟨fast, fits', moves⟩ := chase.fast
  exact ⟨slow, fast, fits, fits', stays (by omega), moves d far⟩

/-- A chase that settles is steady and catches all of its way. -/
theorem steady_of_settles (settles : chase.Settles d marks total) :
    Steady d marks ∧ caught d marks = total := by
  induction marks generalizing d total with
  | nil =>
      unfold Steady caught
      by_cases near : d.natAbs ≤ 1
      · refine ⟨by omega, ?_⟩
        obtain ⟨rate, fits, -⟩ := chase.slow d
        obtain ⟨n, ends⟩ := settles (.const rate) (chase.const fits)
        have steady : Steady d [] := by
          unfold Steady
          omega
        rw [← ends (n + 1) (Nat.le_succ n), travel_of_steady (chase.const fits) steady n.succ_pos]
        rfl
      · have none := settles.total_eq_zero (by omega)
        refine ⟨?_, by rw [if_neg near, none]⟩
        by_contra long
        -- A fast frame first moves the position, and then nothing need move it any more.
        obtain ⟨-, fast, -, fits, -, moves⟩ := chase.exists_differ (d := d) (by omega)
        have rest := (settles.frame_first.after_frame fits).total_eq_zero
          (chase.far fits (by omega))
        omega
  | cons mark marks ih =>
      cases mark with
      | aim distance => exact ih settles
      | frame =>
          unfold Steady caught
          by_cases near : d.natAbs ≤ 1
          · obtain ⟨rate, fits, -⟩ := chase.slow d
            have after := settles.after_frame fits
            rw [chase.calm fits near] at after
            obtain ⟨steady, sum⟩ := ih after
            rw [if_pos near, if_pos near]
            exact ⟨⟨by omega, steady⟩, by omega⟩
          · rw [if_neg near, if_neg near]
            obtain ⟨rate, fits, stays⟩ := chase.slow d
            have after := settles.after_frame fits
            rw [stays (by omega), sub_self, sub_zero] at after
            obtain ⟨steady, sum⟩ := ih after
            refine ⟨⟨?_, steady⟩, sum⟩
            by_contra long
            -- After a fast frame as much would be caught, but another total is asked for.
            obtain ⟨-, fast, -, fits', -, moves⟩ := chase.exists_differ (d := d) (by omega)
            have other := (ih (settles.after_frame fits')).2
            have far : 2 ≤ d.natAbs := by omega
            rw [caught_far (chase.far fits' (by omega)) far] at other
            omega

/-- **When the position settles.** At all gradual rates the position moves by a total and stays,
exactly when no frame finds a distance of three units or more and the total is the sum of the
distances of at most one unit that frames find. -/
theorem settles_iff : chase.Settles d marks total ↔ Steady d marks ∧ caught d marks = total := by
  constructor
  · exact steady_of_settles
  · rintro ⟨steady, sum⟩ rates gradual
    exact ⟨1, fun _ last => (travel_of_steady gradual steady last).trans sum⟩

end Chase

end Transition
