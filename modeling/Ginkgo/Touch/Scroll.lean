import Mathlib.Algebra.Order.Floor.Ring
import Mathlib.Data.Rat.Floor
import Mathlib.Tactic.Linarith
import Mathlib.Tactic.NormNum
import Ginkgo.Transition.Chase
import Ginkgo.Touch.Mirror

/-!
# Scrolling the list

A finger that moves by more than 64 units on the list sheet sets the target of the list, and
every frame moves the list a part of the way (`Ginkgo.Hud.animateList`). The target is set at a
distance from where the list is in that moment, not from the target it had, and the step of a
frame is truncated. So the list is a `Transition.Chase` (`Ginkgo.scrollChase`): what was left of
a movement is lost with the next one, and the list never covers the last two pixels, which only
a distance of one pixel is close enough for.

`Ginkgo.Finger` follows a drag without its animation and yields the movement steps.
`Ginkgo.Hud.listFollows_iff` says for which drags the list ends, whatever the rates, where the
steps add up to. If 65 units of the touch device are three pixels or more, it does so for none
with a step (`Ginkgo.Hud.not_listFollows_of_tall`).
-/

namespace Ginkgo

open CText Transition

/-! ## The step of a frame -/

section Truncation

variable {q : ℚ}

/-- A number that is not negative is cut off to its floor. -/
theorem ratTrunc_of_nonneg (nonneg : 0 ≤ q) : ratTrunc q = ⌊q⌋ := by
  unfold ratTrunc
  rw [Rat.floor_def', Int.tdiv_eq_ediv_of_nonneg (Rat.num_nonneg.mpr nonneg)]

/-- Cutting off is symmetric. -/
theorem ratTrunc_neg (q : ℚ) : ratTrunc (-q) = -ratTrunc q := by
  unfold ratTrunc
  rw [Rat.num_neg_eq_neg_num, Rat.den_neg_eq_den, Int.neg_tdiv]

end Truncation

/-- The distance that a frame leaves of the way to the target. -/
def leftAfter (smooth : ℚ) (d : Int) : Int :=
  let rest := d - ratTrunc ((d : ℚ) * smooth)
  if rest.natAbs ≤ 1 then 0 else rest

section LeftAfter

variable {smooth : ℚ} {d : Int}

/-- What a frame leaves is symmetric too. -/
theorem leftAfter_neg (smooth : ℚ) (d : Int) : leftAfter smooth (-d) = -leftAfter smooth d := by
  have turned : -d - ratTrunc (((-d : Int) : ℚ) * smooth) =
      -(d - ratTrunc ((d : ℚ) * smooth)) := by
    rw [Int.cast_neg, neg_mul, ratTrunc_neg]
    omega
  unfold leftAfter
  simp only
  rw [turned, Int.natAbs_neg]
  split <;> rfl

/-- A frame whose rate is too small for the distance does not move the list. -/
theorem leftAfter_of_small (nonneg : 0 ≤ d) (positive : 0 < smooth) (small : (d : ℚ) * smooth < 1) :
    leftAfter smooth d = if d.natAbs ≤ 1 then 0 else d := by
  have still : ratTrunc ((d : ℚ) * smooth) = 0 := by
    have lower : 0 ≤ (d : ℚ) * smooth := mul_nonneg (Int.cast_nonneg nonneg) positive.le
    rw [ratTrunc_of_nonneg lower, Int.floor_eq_zero_iff]
    exact ⟨lower, small⟩
  unfold leftAfter
  simp only
  rw [still, sub_zero]

/-- A frame covers at most as much of a distance as its rate says. -/
theorem ratTrunc_mul_le (nonneg : 0 ≤ d) (positive : 0 < smooth) :
    0 ≤ ratTrunc ((d : ℚ) * smooth) ∧ ((ratTrunc ((d : ℚ) * smooth) : Int) : ℚ) ≤ d * smooth := by
  have lower : 0 ≤ (d : ℚ) * smooth := mul_nonneg (Int.cast_nonneg nonneg) positive.le
  rw [ratTrunc_of_nonneg lower]
  exact ⟨Int.floor_nonneg.mpr lower, Int.floor_le _⟩

/-- A fact about distances to either side. -/
theorem leftAfter_symm {P : Int → Int → Prop} (smooth : ℚ)
    (turn : ∀ d rest, P d rest → P (-d) (-rest)) (right : ∀ d, 0 ≤ d → P d (leftAfter smooth d))
    (d : Int) : P d (leftAfter smooth d) := by
  rcases le_total 0 d with nonneg | negative
  · exact right d nonneg
  · have other := turn (-d) _ (right (-d) (by omega))
    rwa [leftAfter_neg, neg_neg, neg_neg] at other

/-- A distance of at most one pixel is left as nothing. -/
theorem leftAfter_calm (positive : 0 < smooth) (small : smooth ≤ 37 / 100) (near : d.natAbs ≤ 1) :
    leftAfter smooth d = 0 := by
  revert near
  refine leftAfter_symm (P := fun d rest => d.natAbs ≤ 1 → rest = 0) smooth ?_ ?_ d
  · intro d rest holds near
    rw [holds (by omega), neg_zero]
  · intro d nonneg near
    have bound : (d : ℚ) ≤ 1 := by
      exact_mod_cast (by omega : d ≤ 1)
    rw [leftAfter_of_small nonneg positive (by nlinarith), if_pos near]

/-- A distance of two pixels is left as it is. -/
theorem leftAfter_stuck (positive : 0 < smooth) (small : smooth ≤ 37 / 100)
    (two : d.natAbs = 2) : leftAfter smooth d = d := by
  revert two
  refine leftAfter_symm (P := fun d rest => d.natAbs = 2 → rest = d) smooth ?_ ?_ d
  · intro d rest holds two
    rw [holds (by omega)]
  · intro d nonneg two
    have value : (d : ℚ) = 2 := by
      exact_mod_cast (by omega : d = 2)
    rw [leftAfter_of_small nonneg positive (by rw [value]; linarith), if_neg (by omega)]

/-- A frame never comes closer than two pixels to a target that is two pixels away. -/
theorem leftAfter_far (positive : 0 < smooth) (small : smooth ≤ 37 / 100) (far : 2 ≤ d.natAbs) :
    2 ≤ (leftAfter smooth d).natAbs := by
  revert far
  refine leftAfter_symm (P := fun d rest => 2 ≤ d.natAbs → 2 ≤ rest.natAbs) smooth ?_ ?_ d
  · intro d rest holds far
    have := holds (by omega)
    omega
  · intro d nonneg far
    obtain ⟨-, covered⟩ := ratTrunc_mul_le nonneg positive
    have two : (2 : ℚ) ≤ d := by
      exact_mod_cast (by omega : 2 ≤ d)
    have short : ((ratTrunc ((d : ℚ) * smooth) : Int) : ℚ) < ((d - 1 : Int) : ℚ) := by
      push_cast
      nlinarith
    have rest : ratTrunc ((d : ℚ) * smooth) < d - 1 := by exact_mod_cast short
    unfold leftAfter
    simp only
    rw [if_neg (by omega)]
    omega

/-- A rate that is small enough leaves any distance of two pixels or more as it is. -/
theorem leftAfter_slow (far : 2 ≤ d.natAbs) :
    leftAfter (1 / ((d.natAbs : ℚ) + 1)) d = d := by
  have size : (0 : ℚ) < (d.natAbs : ℚ) + 1 := by positivity
  have positive : (0 : ℚ) < 1 / ((d.natAbs : ℚ) + 1) := by positivity
  have small : ((d.natAbs : Int) : ℚ) * (1 / ((d.natAbs : ℚ) + 1)) < 1 := by
    rw [Int.cast_natCast, mul_one_div, div_lt_one size]
    linarith
  have stays := leftAfter_of_small (d := (d.natAbs : Int)) (by omega) positive small
  rw [if_neg (by omega)] at stays
  rcases Int.natAbs_eq d with right | left
  · rwa [← right] at stays
  · rw [left, Int.natAbs_neg, Int.natAbs_natCast, leftAfter_neg, stays]

/-- The greatest rate covers something of three pixels. -/
theorem leftAfter_fast (far : 3 ≤ d.natAbs) : leftAfter (37 / 100) d ≠ d := by
  revert far
  refine leftAfter_symm (P := fun d rest => 3 ≤ d.natAbs → rest ≠ d) (37 / 100) ?_ ?_ d
  · intro d rest holds far
    have := holds (by omega)
    omega
  · intro d nonneg far
    have three : (3 : ℚ) ≤ d := by
      exact_mod_cast (by omega : 3 ≤ d)
    have moved : 1 ≤ ratTrunc ((d : ℚ) * (37 / 100)) := by
      rw [ratTrunc_of_nonneg (by linarith), Int.le_floor]
      push_cast
      linarith
    unfold leftAfter
    simp only
    split <;> omega

end LeftAfter

/-- The rates of the frames are bounded away from zero and at most 0.37. -/
def Animation.Gradual (animations : Stream' Animation) : Prop :=
  ∃ least : ℚ, 0 < least ∧
    ∀ i, least ≤ (animations.get i).smooth ∧ (animations.get i).smooth ≤ 37 / 100

/-- The list as a position that chases its target. -/
def scrollChase : Chase Animation where
  left animation := leftAfter animation.smooth
  Fit animation := 0 < animation.smooth ∧ animation.smooth ≤ 37 / 100
  Gradual := Animation.Gradual
  fit := fun ⟨_, positive, bounds⟩ => ⟨positive.trans_le (bounds 0).1, (bounds 0).2⟩
  tail := fun ⟨least, positive, bounds⟩ => ⟨least, positive, fun i => bounds (i + 1)⟩
  cons := by
    rintro rate rates ⟨positive, small⟩ ⟨least, least_pos, bounds⟩
    refine ⟨min least rate.smooth, lt_min least_pos positive, fun i => ?_⟩
    cases i with
    | zero => exact ⟨min_le_right _ _, small⟩
    | succ i => exact ⟨(min_le_left _ _).trans (bounds i).1, (bounds i).2⟩
  const := fun {rate} ⟨positive, small⟩ => ⟨rate.smooth, positive, fun _ => ⟨le_rfl, small⟩⟩
  calm := fun ⟨positive, small⟩ => leftAfter_calm positive small
  stuck := fun ⟨positive, small⟩ => leftAfter_stuck positive small
  far := fun ⟨positive, small⟩ => leftAfter_far positive small
  slow := by
    intro d
    by_cases far : 2 ≤ d.natAbs
    · refine ⟨⟨1, true, 1 / ((d.natAbs : ℚ) + 1)⟩, ⟨by positivity, ?_⟩, leftAfter_slow⟩
      have size : (2 : ℚ) ≤ d.natAbs := by exact_mod_cast far
      change 1 / ((d.natAbs : ℚ) + 1) ≤ 37 / 100
      rw [div_le_iff₀ (by linarith)]
      linarith
    · exact ⟨⟨1, true, 37 / 100⟩, ⟨by norm_num, le_rfl⟩, fun two => absurd two far⟩
  fast := ⟨⟨1, true, 37 / 100⟩, ⟨by norm_num, le_rfl⟩, fun _ => leftAfter_fast⟩

/-! ## The finger -/

/-- A report of the touch device: its axis events and what their handling gets. -/
structure Report where
  axes : List (AbsCode × Int)
  env : EvEnv

/-- A part of a drag. -/
inductive DragMark where
  | report (report : Report)
  | frame

/-- The finger that drags, as far as it decides about the list: the slot it is in and the one
that is selected, whether it is there and where, where the next movement starts, and whether the
drag has begun and a position has been sent. -/
structure Finger where
  slot : Fin maxSlots
  cur : Fin maxSlots
  live : Bool
  y : Int
  downY : Int
  dragging : Bool
  moved : Bool

namespace Finger

/-- What an axis event tells of the finger. -/
def axis (finger : Finger) : AbsCode × Int → Finger
  | (.mtSlot, value) =>
      if inside : 0 ≤ value ∧ value < maxSlots then
        { finger with cur := ⟨value.toNat, toNat_lt_maxSlots inside⟩ }
      else finger
  | (.mtTrackingId, value) =>
      { finger with live := if finger.cur = finger.slot then 0 ≤ value else finger.live }
  | (.mtPositionX, _) => { finger with moved := true }
  | (.mtPositionY, value) =>
      { finger with y := if finger.cur = finger.slot then value else finger.y, moved := true }
  | _ => finger

/-- The finger stays in its slot whatever is reported. -/
theorem axis_slot (finger : Finger) (axis : AbsCode × Int) :
    (finger.axis axis).slot = finger.slot := by
  unfold Finger.axis
  split
  · split <;> rfl
  all_goals rfl

/-- So it does during the axis events of a report. -/
theorem foldl_slot (axes : List (AbsCode × Int)) (finger : Finger) :
    (axes.foldl axis finger).slot = finger.slot := by
  induction axes generalizing finger with
  | nil => rfl
  | cons axis axes ih => exact (ih _).trans (finger.axis_slot axis)

/-- The end of a report: a jump before the drag has begun is a new start, and otherwise more than
64 units are a movement step, of so many pixels. -/
def synced (dev : Dev) (H : Int) (finger : Finger) : Finger × Option Int :=
  let dy := finger.y - finger.downY
  if finger.moved = false then (finger, none)
  else if finger.dragging = false ∧ dev.rangeY.tdiv 4 < (dy.natAbs : Int) then
    ({ finger with moved := false, downY := finger.y }, none)
  else if 64 < (dy.natAbs : Int) then
    ({ finger with moved := false, dragging := true, downY := finger.y },
      some ((dy * H).tdiv dev.rangeY))
  else ({ finger with moved := false }, none)

/-- The movement steps of a drag and the frames among them. -/
def marks (dev : Dev) (H : Int) : Finger → List DragMark → List Mark
  | _, [] => []
  | finger, .report report :: rest =>
      let (finger, step) := (report.axes.foldl axis finger).synced dev H
      (step.map Mark.aim).toList ++ marks dev H finger rest
  | finger, .frame :: rest => .frame :: marks dev H finger rest

/-- The marks of a report are its movement step, if any, and those that follow. -/
theorem marks_report (dev : Dev) (H : Int) (finger : Finger) (report : Report)
    (rest : List DragMark) : marks dev H finger (.report report :: rest) =
      ((((report.axes.foldl axis finger).synced dev H).2.map Mark.aim).toList ++
        marks dev H ((report.axes.foldl axis finger).synced dev H).1 rest) := rfl

/-- Where 65 units of the touch device are three pixels or more, every movement step is. -/
theorem marks_far {dev : Dev} {finger : Finger} {H : Int} (tall : 3 * dev.rangeY ≤ 65 * H)
    {drag : List DragMark} {d : Int}
    (aimed : .aim d ∈ finger.marks dev H drag) : 3 ≤ d.natAbs := by
  have range : 1 ≤ dev.rangeY := by
    unfold Dev.rangeY
    split <;> omega
  have step (finger : Finger) (stepped : (finger.synced dev H).2 = some d) : 3 ≤ d.natAbs := by
    obtain ⟨dy, far, rfl⟩ : ∃ dy : Int, 64 < (dy.natAbs : Int) ∧ (dy * H).tdiv dev.rangeY = d := by
      unfold synced at stepped
      simp only at stepped
      split at stepped
      · cases stepped
      split at stepped
      · cases stepped
      split at stepped
      · next far => exact ⟨_, far, Option.some.inj stepped⟩
      · cases stepped
    rw [Int.natAbs_tdiv]
    apply (Nat.le_div_iff_mul_le (by omega)).mpr
    rw [Int.natAbs_mul]
    have pixels : 65 * H.natAbs ≤ dy.natAbs * H.natAbs := Nat.mul_le_mul_right _ (by omega)
    omega
  induction drag generalizing finger with
  | nil => cases aimed
  | cons mark drag ih =>
      cases mark with
      | report report =>
          rw [marks_report, List.mem_append] at aimed
          rcases aimed with now | later
          · rw [Option.mem_toList, Option.map_eq_some_iff] at now
            obtain ⟨d', stepped, same⟩ := now
            cases same
            exact step _ stepped
          · exact ih later
      | frame =>
          rw [marks, List.mem_cons] at aimed
          exact ih (aimed.resolve_left nofun)

/-- The finger stays on the screen during a report. -/
def Keeps : Finger → List (AbsCode × Int) → Prop
  | _, [] => True
  | finger, axis :: rest => (finger.axis axis).live = true ∧ (finger.axis axis).Keeps rest

/-- The HUD listens to the report, and the kernel still has the finger. -/
structure Reported (tUnblank : Nat) (finger : Finger) (report : Report) : Prop where
  listens : ¬Mirroring.justOn tUnblank report.env.now
  keeps : finger.Keeps report.axes
  there : ∀ kernel, report.env.slots = some kernel → 0 ≤ kernel.id finger.slot

/-- The HUD listens to the report, and the finger has gone. -/
structure Lifts (tUnblank : Nat) (finger : Finger) (report : Report) : Prop where
  listens : ¬Mirroring.justOn tUnblank report.env.now
  gone : match report.env.slots with
    | some kernel => kernel.id finger.slot < 0
    | none => (report.axes.foldl axis finger).live = false

/-- The finger stays during the reports of a drag and lifts with the last one. -/
def Drags (dev : Dev) (H : Int) (tUnblank : Nat) (lift : Report) : Finger → List DragMark → Prop
  | finger, [] => finger.Lifts tUnblank lift
  | finger, .report report :: rest =>
      finger.Reported tUnblank report ∧
        Drags dev H tUnblank lift ((report.axes.foldl axis finger).synced dev H).1 rest
  | finger, .frame :: rest => Drags dev H tUnblank lift finger rest

end Finger

/-! ## The drag of the HUD -/

/-- The events of a report. -/
def Report.events (dev : Dev) (report : Report) : List Event :=
  report.axes.map (fun axis => .input ⟨dev, .abs axis.1 axis.2, report.env⟩) ++
    [.input ⟨dev, .syn, report.env⟩]

/-- A drag, the report in which the finger lifts, and some frames. -/
def session (dev : Dev) (lift : Report) (frames : Nat) :
    Stream' Animation → List DragMark → List Event
  | animations, [] => lift.events dev ++ (animations.take frames).map .animate
  | animations, .report report :: rest =>
      report.events dev ++ session dev lift frames animations rest
  | animations, .frame :: rest =>
      .animate animations.head :: session dev lift frames animations.tail rest

namespace Hud

/-- The lowest position of the list. -/
def listMin (h : Hud) : Int :=
  let vis := (h.sheetCardH - 240).tdiv listRowH
  let vis := if vis < 1 then 1 else vis
  let nap : Int := h.scan.aps.length
  if vis < nap then -(nap - vis) * listRowH else 0

/-- The clamp of a frame does not apply. -/
def Unclamped (h : Hud) : Event → Prop
  | .animate _ => h.listMin ≤ h.ui.listScrollTgt ∧ h.ui.listScrollTgt ≤ 0
  | _ => True

/-- The HUD follows the finger of a drag on the list sheet. -/
structure Scrolls (finger : Finger) (h : Hud) : Prop where
  on : h.screen.screenOff = false
  list : h.ui.sheetTgt = .list
  bl : h.light.draggingBl = false
  free : h.osk.held = false
  cur : h.touch.mtCur = finger.cur
  moved : h.touch.mtGotPos = finger.moved
  bound : h.touch.bindSlot = some finger.slot
  counted : finger.slot.val < h.touch.mtNslots
  slotId : 0 ≤ h.touch.slotId
  armed : h.touch.contactArmed = true
  live : 0 ≤ (h.touch.slots finger.slot).id ↔ finger.live = true
  downY : h.touch.downY = finger.downY
  dragging : h.touch.dragging = finger.dragging

/-- The finger is there, and the slot table shows its place. -/
structure Shows (finger : Finger) (h : Hud) : Prop where
  live : finger.live = true
  haveY : (h.touch.slots finger.slot).haveY = true
  y : (h.touch.slots finger.slot).y = finger.y

/-- What no report but a movement step changes. -/
def scrollView (h : Hud) : Int × Int × Int × Nat :=
  (h.ui.listScroll, h.ui.listScrollTgt, h.ui.H, h.screen.tUnblank)

variable {dev : Dev} {h : Hud} {finger : Finger}

/-! ## Reports -/

/-- What an axis event other than the selection of a slot enters. -/
theorem axis_enter {code : AbsCode} (other : code ≠ .mtSlot) (value : Int) (finger : Finger) :
    finger.axis (code, value) = { finger with
      live := if code = .mtTrackingId ∧ finger.cur = finger.slot then 0 ≤ value else finger.live
      y := if code = .mtPositionY ∧ finger.cur = finger.slot then value else finger.y
      moved := finger.moved || code = .mtPositionX || code = .mtPositionY } := by
  cases code with
  | mtSlot => exact absurd rfl other
  | _ => simp [Finger.axis]

/-- Whether a finger is in the slot afterwards, and the height that is known of it. -/
theorem enter_scrolls (code : AbsCode) (value : Int) (slot : Slot) :
    (0 ≤ (slot.enter code value).id ↔ if code = .mtTrackingId then 0 ≤ value else 0 ≤ slot.id) ∧
      ((code = .mtTrackingId → 0 ≤ value) → slot.haveY = true →
        (slot.enter code value).haveY = true ∧
          (slot.enter code value).y = if code = .mtPositionY then value else slot.y) := by
  cases code with
  | mtTrackingId =>
      unfold Slot.enter
      by_cases gone : value < 0
      · simp [gone]
      · simp [gone, not_lt.mp gone]
  | _ => simp [Slot.enter]

/-- **An axis event on the list sheet** tells of the finger and scrolls nothing. -/
theorem handleAbs_scrolls (slots : dev.hasMt = true) (scrolls : h.Scrolls finger)
    (axis : AbsCode × Int) :
    (h.handleAbs dev axis.1 axis.2).Scrolls (finger.axis axis) ∧
      (h.handleAbs dev axis.1 axis.2).scrollView = h.scrollView := by
  obtain ⟨code, value⟩ := axis
  by_cases select : code = .mtSlot
  · subst select
    simp only [Finger.axis]
    rw [handleAbs_select slots]
    split
    · exact ⟨{ scrolls with cur := rfl }, rfl⟩
    · exact ⟨scrolls, rfl⟩
  rw [handleAbs_enter slots h select, axis_enter select]
  refine ⟨{ scrolls with moved := ?_, live := ?_ }, rfl⟩
  · simp only [scrolls.moved]
  · change 0 ≤ (Function.update h.touch.slots h.touch.mtCur _ finger.slot).id ↔ _
    rw [scrolls.cur]
    by_cases here : finger.cur = finger.slot
    · rw [here, Function.update_self, (enter_scrolls code value _).1, scrolls.live]
      by_cases tracking : code = .mtTrackingId <;> simp [tracking]
    · rw [Function.update_of_ne (Ne.symm here), scrolls.live]
      simp [here]

/-- It keeps what is known of the finger's place. -/
theorem handleAbs_shows (slots : dev.hasMt = true) (scrolls : h.Scrolls finger)
    (shows : h.Shows finger) {axis : AbsCode × Int} (stays : (finger.axis axis).live = true) :
    (h.handleAbs dev axis.1 axis.2).Shows (finger.axis axis) := by
  obtain ⟨code, value⟩ := axis
  by_cases select : code = .mtSlot
  · subst select
    simp only [Finger.axis]
    rw [handleAbs_select slots]
    split
    · exact { shows with }
    · exact shows
  rw [axis_enter select] at stays
  rw [handleAbs_enter slots h select, axis_enter select]
  have entered : (Function.update h.touch.slots h.touch.mtCur
        ((h.touch.slots h.touch.mtCur).enter code value) finger.slot).haveY = true ∧
      (Function.update h.touch.slots h.touch.mtCur
        ((h.touch.slots h.touch.mtCur).enter code value) finger.slot).y =
          if code = .mtPositionY ∧ finger.cur = finger.slot then value else finger.y := by
    rw [scrolls.cur]
    by_cases here : finger.cur = finger.slot
    · rw [here, Function.update_self]
      have kept := (enter_scrolls code value (h.touch.slots finger.slot)).2 ?_ shows.haveY
      · rw [shows.y] at kept
        simpa using kept
      · rintro rfl
        simpa [here] using stays
    · rw [Function.update_of_ne (Ne.symm here), if_neg fun both => here both.2]
      exact ⟨shows.haveY, shows.y⟩
  exact ⟨stays, entered.1, entered.2⟩

/-- The axis events of a report. -/
theorem axes_scrolls (touch : dev.isTouch = true) (slots : dev.hasMt = true) {env : EvEnv}
    (scrolls : h.Scrolls finger) (listens : ¬Mirroring.justOn h.screen.tUnblank env.now)
    (axes : List (AbsCode × Int)) {g : Hud}
    (sent : run step h (axes.map fun axis => .input ⟨dev, .abs axis.1 axis.2, env⟩) = g) :
    g.Scrolls (axes.foldl Finger.axis finger) ∧ g.scrollView = h.scrollView ∧
      (h.Shows finger → finger.Keeps axes → g.Shows (axes.foldl Finger.axis finger)) := by
  induction axes generalizing h finger with
  | nil =>
      subst sent
      exact ⟨scrolls, rfl, fun shows _ => shows⟩
  | cons axis axes ih =>
      rw [List.map_cons, run_cons] at sent
      have event : h.step (.input ⟨dev, .abs axis.1 axis.2, env⟩) =
          ({ h with screen.tUser := env.now } : Hud).handleAbs dev axis.1 axis.2 :=
        handleEv_abs touch scrolls.on listens axis.1 axis.2
      have noted : ({ h with screen.tUser := env.now } : Hud).Scrolls finger := { scrolls with }
      obtain ⟨next, view⟩ := handleAbs_scrolls slots noted axis
      rw [event] at sent
      have later : ¬Mirroring.justOn (({ h with screen.tUser := env.now } : Hud).handleAbs dev
          axis.1 axis.2).screen.tUnblank env.now := by
        rw [handleAbs_screen]
        exact listens
      obtain ⟨last, views, showing⟩ := ih next later sent
      refine ⟨last, views.trans view, fun shows keeps => showing ?_ keeps.2⟩
      exact handleAbs_shows slots noted { shows with } keeps.1

/-- The comparison with the kernel's table leaves a finger that is there where it is. -/
theorem mtSync_scrolls {kernel : Option MtSlots} (scrolls : h.Scrolls finger)
    (shows : h.Shows finger) (there : ∀ k, kernel = some k → 0 ≤ k.id finger.slot) :
    (h.mtSyncFromKernel kernel).Scrolls finger ∧ (h.mtSyncFromKernel kernel).Shows finger := by
  cases kernel with
  | none => exact ⟨scrolls, shows⟩
  | some k =>
      have here := there k rfl
      have id := mtSync_id scrolls.counted k
      have slot : (h.mtSyncFromKernel (some k)).touch.slots finger.slot =
          syncSlot (h.touch.slots finger.slot) (k.id finger.slot) (k.x finger.slot)
            (k.y finger.slot) (k.major finger.slot) (k.z finger.slot) :=
        if_pos (slotCount_of_counted scrolls.counted)
      refine ⟨{ scrolls with live := ?_ }, ⟨shows.live, ?_, ?_⟩⟩
      · rw [id]
        exact iff_of_true here shows.live
      · rw [slot, syncSlot_haveY, if_neg (not_lt.mpr here), shows.haveY, if_pos rfl]
      · rw [slot, syncSlot_y, shows.haveY, if_pos rfl, shows.y]

/-- A move on the list sheet: a new start, a movement step or at most another highlighted row. -/
theorem synDrag_list (x y : Int) (list : h.ui.sheetTgt = .list)
    (bl : h.light.draggingBl = false) :
    ∃ hover : Option Nat, h.synDrag dev x y =
      let dy := h.touch.slotY - h.touch.downY
      if h.touch.dragging = false ∧ dev.rangeY.tdiv 4 < (dy.natAbs : Int) then
        { h with touch.downX := h.touch.slotX, touch.downY := h.touch.slotY }
      else if 64 < (dy.natAbs : Int) then
        { h with
          scan.hoverAp := hover
          touch.dragging := true
          ui.listScrollTgt := h.ui.listScroll + (dy * h.ui.H).tdiv dev.rangeY
          touch.downY := h.touch.slotY }
      else { h with scan.hoverAp := hover } := by
  have unstarted : h.startBlDrag dev x y = h := by
    unfold startBlDrag
    simp only
    rw [if_neg]
    rintro ⟨-, -, none, -⟩
    rw [list] at none
    cases none
  have hovered (g : Hud) : ∃ hover : Option Nat,
      g.hoverFromPoint x y = { g with scan.hoverAp := hover } := by
    unfold hoverFromPoint
    simp only
    split
    · exact ⟨g.scan.hoverAp, rfl⟩
    · split
      · exact ⟨_, rfl⟩
      · exact ⟨g.scan.hoverAp, rfl⟩
  have light : ∃ hover : Option Nat,
      (if h.touch.dragging then h.hoverFromPoint x y else h) =
        { h with scan.hoverAp := hover } := by
    split
    · exact hovered h
    · exact ⟨h.scan.hoverAp, rfl⟩
  obtain ⟨hover, light⟩ := light
  refine ⟨hover, ?_⟩
  unfold synDrag
  simp only [unstarted, bl, list, light, true_and, Bool.false_eq_true, if_false]
  rfl

/-- Forgetting what is new in the table does not matter to the finger. -/
theorem clearFresh_scrolls (scrolls : h.Scrolls finger) : h.mtClearFresh.Scrolls finger :=
  { scrolls with }

theorem clearFresh_shows (shows : h.Shows finger) : h.mtClearFresh.Shows finger := { shows with }

/-- A report of the followed finger: a movement step sets the target from where the list is. -/
theorem synMove_scrolls (scrolls : h.Scrolls finger) (shows : h.Shows finger)
    (place : h.touch.slotY = finger.y) :
    (h.synMove dev).Scrolls (finger.synced dev h.ui.H).1 ∧
      (h.synMove dev).Shows (finger.synced dev h.ui.H).1 ∧
      (h.synMove dev).scrollView = (h.ui.listScroll,
        ((finger.synced dev h.ui.H).2.map (h.ui.listScroll + ·)).getD h.ui.listScrollTgt,
        h.ui.H, h.screen.tUnblank) := by
  unfold synMove Finger.synced
  simp only
  by_cases still : finger.moved = false
  · rw [if_pos (scrolls.moved.trans still), if_pos still]
    exact ⟨clearFresh_scrolls scrolls, clearFresh_shows shows, rfl⟩
  have going : ¬h.touch.mtGotPos = false := by
    rw [scrolls.moved]
    exact still
  have other : ¬(h.ui.sheetTgt = .pass ∧ h.light.draggingBl = false) := by
    rw [scrolls.list]
    exact fun both => nomatch both.1
  rw [if_neg going, if_neg still, if_neg other]
  generalize xy : ({ h with touch.mtGotPos := false } : Hud).mapTouch dev = point
  obtain ⟨hover, dragged⟩ := @synDrag_list dev { h with touch.mtGotPos := false }
    point.1 point.2 scrolls.list scrolls.bl
  rw [dragged]
  simp only [place, scrolls.downY, scrolls.dragging]
  by_cases jump : finger.dragging = false ∧
      dev.rangeY.tdiv 4 < ((finger.y - finger.downY).natAbs : Int)
  · rw [if_pos jump, if_pos jump]
    exact ⟨clearFresh_scrolls { scrolls with moved := rfl, downY := rfl, dragging := rfl },
      clearFresh_shows { shows with }, rfl⟩
  rw [if_neg jump, if_neg jump]
  by_cases far : 64 < ((finger.y - finger.downY).natAbs : Int)
  · rw [if_pos far, if_pos far]
    exact ⟨clearFresh_scrolls { scrolls with moved := rfl, downY := rfl, dragging := rfl },
      clearFresh_shows { shows with }, rfl⟩
  · rw [if_neg far, if_neg far]
    exact ⟨clearFresh_scrolls { scrolls with moved := rfl, downY := rfl, dragging := rfl },
      clearFresh_shows { shows with }, rfl⟩

/-- **The end of a report of a drag on the list sheet.** -/
theorem handleEv_syn_scrolls (touch : dev.isTouch = true) {env : EvEnv}
    (scrolls : h.Scrolls finger) (shows : h.Shows finger)
    (listens : ¬Mirroring.justOn h.screen.tUnblank env.now)
    (there : ∀ k, env.slots = some k → 0 ≤ k.id finger.slot) {g : Hud}
    (handled : h.handleEv dev .syn env = g) :
    g.Scrolls (finger.synced dev h.ui.H).1 ∧ g.Shows (finger.synced dev h.ui.H).1 ∧
      g.scrollView = (h.ui.listScroll,
        ((finger.synced dev h.ui.H).2.map (h.ui.listScroll + ·)).getD h.ui.listScrollTgt,
        h.ui.H, h.screen.tUnblank) := by
  have noted : ({ h with screen.tUser := env.now } : Hud).Scrolls finger := { scrolls with }
  obtain ⟨here, table⟩ := mtSync_scrolls noted { shows with } there
  have view : (({ h with screen.tUser := env.now } : Hud).mtSyncFromKernel env.slots).scrollView =
      h.scrollView := by
    unfold mtSyncFromKernel
    cases env.slots <;> rfl
  have moves : ({ h with screen.tUser := env.now } : Hud).handleSyn dev env = _ :=
    handleSyn_goes rfl here.armed here.bound here.counted (here.live.mpr table.live) table.haveY
  rw [handleEv_syn touch scrolls.on listens, moves] at handled
  generalize ({ h with screen.tUser := env.now } : Hud).mtSyncFromKernel env.slots = k
    at here table view handled
  subst handled
  have bound : (k.bindTo (some finger.slot)).Scrolls finger :=
    { here with bound := rfl, slotId := here.live.mpr table.live }
  obtain ⟨next, shown, last⟩ := @synMove_scrolls dev _ _ bound { table with } table.y
  obtain ⟨scroll, tgt, height, unblank⟩ : k.ui.listScroll = h.ui.listScroll ∧
      k.ui.listScrollTgt = h.ui.listScrollTgt ∧ k.ui.H = h.ui.H ∧
      k.screen.tUnblank = h.screen.tUnblank := by
    simpa [scrollView] using view
  simp only [bindTo, scroll, tgt, height, unblank] at next shown last ⊢
  exact ⟨next, shown, last⟩

/-- A whole report of a drag on the list sheet. -/
theorem report_scrolls (touch : dev.isTouch = true) (slots : dev.hasMt = true)
    {report : Report} (scrolls : h.Scrolls finger) (shows : h.Shows finger)
    (reported : finger.Reported h.screen.tUnblank report) {g : Hud}
    (sent : run step h (report.events dev) = g) :
    g.Scrolls ((report.axes.foldl Finger.axis finger).synced dev h.ui.H).1 ∧
      g.Shows ((report.axes.foldl Finger.axis finger).synced dev h.ui.H).1 ∧
      g.scrollView = (h.ui.listScroll,
        (((report.axes.foldl Finger.axis finger).synced dev h.ui.H).2.map
          (h.ui.listScroll + ·)).getD h.ui.listScrollTgt,
        h.ui.H, h.screen.tUnblank) := by
  rw [Report.events, run_append] at sent
  obtain ⟨here, view, showing⟩ := axes_scrolls touch slots scrolls reported.listens report.axes rfl
  have there := showing shows reported.keeps
  generalize run step h (report.axes.map fun axis =>
    .input ⟨dev, .abs axis.1 axis.2, report.env⟩) = k at here view there sent
  have slot := Finger.foldl_slot report.axes finger
  obtain ⟨scroll, tgt, height, unblank⟩ : k.ui.listScroll = h.ui.listScroll ∧
      k.ui.listScrollTgt = h.ui.listScrollTgt ∧ k.ui.H = h.ui.H ∧
      k.screen.tUnblank = h.screen.tUnblank := by
    simpa [scrollView] using view
  have last := handleEv_syn_scrolls touch here there (unblank ▸ reported.listens)
    (slot ▸ reported.there) sent
  rwa [scroll, tgt, height, unblank] at last

/-! ## The lift -/

/-- Where the list is and where it goes. -/
def listView (h : Hud) : Int × Int := (h.ui.listScroll, h.ui.listScrollTgt)

/-- A scan that is asked for does not scroll. -/
theorem wifiScan_listView (sys : Sys) (h : Hud) : (h.wifiScan sys).listView = h.listView := by
  have started (argv : List Text) :
      (startNmcli .scan argv sys.spawn h).1.listView = h.listView := by
    rcases startNmcli_cases .scan argv sys.spawn h with ⟨pid, -, same⟩ | ⟨line, same⟩ <;>
      rw [same] <;> rfl
  unfold wifiScan startReport
  simp only
  split
  · exact started _
  · exact started _

/-- A tap on the list does not. -/
theorem tapList_listView (x y y0 : Int) (sys : Sys) (h : Hud) :
    (h.tapList x y y0 sys).listView = h.listView := by
  have scanned := wifiScan_listView sys h
  unfold tapList
  simp only
  repeat' split
  all_goals first
    | rfl
    | exact scanned
    | skip
  next i row =>
    obtain ⟨scan, same, -⟩ := selectApIdx_frame h i
    unfold tapSelect
    simp only [same]
    split <;> rfl

/-- Nor does one on the home sheet. -/
theorem tapHome_listView (x y : Int) (sys : Sys) (h : Hud) :
    (h.tapHome x y sys).listView = h.listView := by
  have opened := wifiScan_listView sys { h with ui.sheetTgt := .list }
  unfold tapHome
  simp only
  repeat' split
  all_goals first
    | rfl
    | exact opened

/-- A tap on the list sheet does not scroll. -/
theorem tap_listView (x y : Int) (sys : Sys) (list : h.ui.sheetTgt = .list) :
    (h.tap x y sys).listView = h.listView := by
  have there : (h.observe (.tap x y)).ui.sheetTgt = .list := list
  have seen : (h.observe (.tap x y)).listView = h.listView := rfl
  have lang (g : Hud) : g.tapLang.listView = g.listView := by
    unfold tapLang
    simp only
    split <;> rfl
  unfold tap
  simp only [there, reduceCtorEq, and_false, if_false]
  repeat' split
  · exact (lang _).trans seen
  · exact (tapList_listView _ _ _ _ _).trans seen
  · exact (tapHome_listView _ _ _ _).trans seen

/-- The end of a contact on the list sheet does not scroll. -/
theorem synLift_listView (prev : Int) (env : EvEnv) (list : h.ui.sheetTgt = .list)
    (bl : h.light.draggingBl = false) (free : h.osk.held = false) :
    (h.synLift dev prev env).listView = h.listView := by
  have up : (h.contactUp dev h.touch.contactArmed env).listView = h.listView := by
    unfold contactUp
    simp only [bl, free, Bool.false_eq_true, if_false]
    split
    · exact tap_listView _ _ _ list
    · rfl
  unfold synLift
  simp only
  split
  · exact up
  · rfl

/-- The report in which the finger lifts. -/
theorem lift_listView (touch : dev.isTouch = true) (slots : dev.hasMt = true)
    {lift : Report} (scrolls : h.Scrolls finger)
    (lifts : finger.Lifts h.screen.tUnblank lift) :
    (run step h (lift.events dev)).listView = h.listView := by
  rw [Report.events, run_append]
  obtain ⟨here, view, -⟩ := axes_scrolls touch slots scrolls lifts.listens lift.axes rfl
  generalize run step h (lift.axes.map fun axis =>
    .input ⟨dev, .abs axis.1 axis.2, lift.env⟩) = k at here view
  have slot := Finger.foldl_slot lift.axes finger
  obtain ⟨scroll, tgt, -, unblank⟩ : k.ui.listScroll = h.ui.listScroll ∧
      k.ui.listScrollTgt = h.ui.listScrollTgt ∧ k.ui.H = h.ui.H ∧
      k.screen.tUnblank = h.screen.tUnblank := by
    simpa [scrollView] using view
  have listens : ¬Mirroring.justOn k.screen.tUnblank lift.env.now := unblank ▸ lifts.listens
  have empty : ∃ table,
      ({ k with screen.tUser := lift.env.now } : Hud).mtSyncFromKernel lift.env.slots =
        { k with screen.tUser := lift.env.now, touch.slots := table } ∧
      (table finger.slot).id < 0 := by
    have gone := lifts.gone
    cases kernel : lift.env.slots with
    | none =>
        rw [kernel] at gone
        have dead := here.live.not.mpr (by simp [gone])
        rw [slot] at dead
        exact ⟨_, rfl, not_le.mp dead⟩
    | some table =>
        rw [kernel] at gone
        have counted := here.counted
        rw [slot] at counted
        exact ⟨_, rfl, (mtSync_id counted table).symm ▸ gone⟩
  obtain ⟨table, synced, gone⟩ := empty
  have bound := here.bound
  have counted := here.counted
  rw [slot] at bound counted
  change (k.handleEv dev .syn lift.env).listView = h.listView
  rw [handleEv_syn touch here.on listens,
    handleSyn_ends synced here.armed bound counted (.inl gone)]
  refine (synLift_listView _ _ ?_ ?_ ?_).trans ?_
  · exact here.list
  · exact here.bl
  · exact here.free
  · change (k.ui.listScroll, k.ui.listScrollTgt) = _
    rw [scroll, tgt, listView]

/-! ## Frames -/

/-- A frame that does not clamp moves the list by what it covers of the distance. -/
theorem animate_scrolls {animation : Animation} (unclamped : h.Unclamped (.animate animation)) :
    (h.step (.animate animation)).listView = (h.ui.listScroll +
        (h.ui.listScrollTgt - h.ui.listScroll -
          leftAfter animation.smooth (h.ui.listScrollTgt - h.ui.listScroll)),
      h.ui.listScrollTgt) := by
  have sheet : ∃ sheetT sheet, h.animateSheet animation =
      { h with ui.sheetT := sheetT, ui.sheet := sheet } := by
    unfold animateSheet
    split
    · exact ⟨_, _, rfl⟩
    · exact ⟨_, h.ui.sheet, rfl⟩
  obtain ⟨sheetT, sheet, same⟩ := sheet
  have clamp : clampi h.ui.listScrollTgt h.listMin 0 = h.ui.listScrollTgt := by
    unfold clampi
    rw [if_neg (not_lt.mpr unclamped.1), if_neg (not_lt.mpr unclamped.2)]
  change ((h.animateSheet animation).animateList animation.smooth).listView = _
  rw [same]
  have moved : ({ h with ui.sheetT := sheetT, ui.sheet := sheet } : Hud).animateList
      animation.smooth =
        let scroll := h.ui.listScroll +
          ratTrunc (((clampi h.ui.listScrollTgt h.listMin 0 - h.ui.listScroll : Int) : ℚ) *
            animation.smooth)
        { h with
          ui.sheetT := sheetT
          ui.sheet := sheet
          ui.listScrollTgt := clampi h.ui.listScrollTgt h.listMin 0
          ui.listScroll := if (clampi h.ui.listScrollTgt h.listMin 0 - scroll).natAbs ≤ 1 then
            clampi h.ui.listScrollTgt h.listMin 0 else scroll } := rfl
  rw [moved, clamp]
  refine Prod.ext ?_ rfl
  unfold leftAfter listView
  simp only
  split <;> split <;> omega

/-- A frame keeps up with the finger and leaves what its next movement needs. -/
theorem animate_follows {animation : Animation} (scrolls : h.Scrolls finger)
    (shows : h.Shows finger) :
    (h.step (.animate animation)).Scrolls finger ∧ (h.step (.animate animation)).Shows finger ∧
      (h.step (.animate animation)).ui.H = h.ui.H ∧
      (h.step (.animate animation)).screen.tUnblank = h.screen.tUnblank := by
  have frame : ∃ ui : Ui, h.step (.animate animation) = { h with ui := ui } ∧
      ui.H = h.ui.H ∧ ui.sheetTgt = h.ui.sheetTgt := by
    change ∃ ui : Ui, (h.animateSheet animation).animateList animation.smooth = _ ∧ _
    unfold animateSheet
    split
    · exact ⟨_, rfl, rfl, rfl⟩
    · exact ⟨_, rfl, rfl, rfl⟩
  obtain ⟨ui, same, height, list⟩ := frame
  rw [same]
  exact ⟨{ scrolls with list := list.trans scrolls.list }, { shows with }, height, rfl⟩

/-- A frame leaves of the distance what the chase leaves. -/
theorem left_of_frame (scroll tgt : Int) (animation : Animation) :
    tgt - (scroll + (tgt - scroll - leftAfter animation.smooth (tgt - scroll))) =
      scrollChase.left animation (tgt - scroll) := by
  change _ = leftAfter animation.smooth (tgt - scroll)
  omega

/-- The frames after the lift. -/
theorem frames_scroll {animations : Stream' Animation} {frames : Nat}
    (unclamped : EachStep step Unclamped h ((animations.take frames).map .animate)) :
    (run step h ((animations.take frames).map .animate)).ui.listScroll = h.ui.listScroll +
      scrollChase.travel animations (h.ui.listScrollTgt - h.ui.listScroll)
        (.replicate frames .frame) := by
  induction frames generalizing h animations with
  | zero => exact (add_zero _).symm
  | succ frames ih =>
      rw [Stream'.take_succ, List.map_cons] at unclamped ⊢
      obtain ⟨first, rest⟩ := unclamped
      obtain ⟨scroll, tgt⟩ := Prod.ext_iff.mp (animate_scrolls first)
      simp only [listView] at scroll tgt
      rw [run_cons, ih rest, scroll, tgt, List.replicate_succ, Chase.travel, left_of_frame,
        add_assoc]
      rfl

/-! ## Drags -/

/-- **A drag is a chase.** Where the list is some frames after the lift. -/
theorem session_scroll (touch : dev.isTouch = true) (slots : dev.hasMt = true)
    {marks : List DragMark} {lift : Report} (scrolls : h.Scrolls finger) (shows : h.Shows finger)
    (drags : finger.Drags dev h.ui.H h.screen.tUnblank lift marks)
    {frames : Nat} {animations : Stream' Animation}
    (unclamped : EachStep step Unclamped h (session dev lift frames animations marks)) :
    (run step h (session dev lift frames animations marks)).ui.listScroll =
      h.ui.listScroll + scrollChase.travel animations (h.ui.listScrollTgt - h.ui.listScroll)
        (finger.marks dev h.ui.H marks ++ .replicate frames .frame) := by
  induction marks generalizing h finger animations with
  | nil =>
      rw [session] at unclamped ⊢
      rw [eachStep_append] at unclamped
      obtain ⟨scroll, tgt⟩ := Prod.ext_iff.mp (lift_listView touch slots scrolls drags)
      simp only [listView] at scroll tgt
      rw [run_append, frames_scroll unclamped.2, scroll, tgt]
      rfl
  | cons mark marks ih =>
      cases mark with
      | report report =>
          obtain ⟨reported, drags⟩ := drags
          rw [session] at unclamped ⊢
          rw [eachStep_append] at unclamped
          obtain ⟨here, there, view⟩ := report_scrolls touch slots scrolls shows reported rfl
          rw [run_append]
          generalize run step h (report.events dev) = g at here there view unclamped ⊢
          simp only [scrollView, Prod.mk.injEq] at view
          obtain ⟨scroll, tgt, height, unblank⟩ := view
          rw [ih here there (by rwa [height, unblank]) unclamped.2, scroll, tgt, height,
            Finger.marks_report]
          cases stepped : ((report.axes.foldl Finger.axis finger).synced dev h.ui.H).2 with
          | none => rfl
          | some d =>
              have target : h.ui.listScroll + d - h.ui.listScroll = d := by omega
              rw [Option.map_some, Option.getD_some, target]
              rfl
      | frame =>
          rw [session] at unclamped ⊢
          obtain ⟨first, rest⟩ := unclamped
          obtain ⟨here, there, height, unblank⟩ :=
            @animate_follows h finger animations.head scrolls shows
          obtain ⟨scroll, tgt⟩ := Prod.ext_iff.mp (animate_scrolls first)
          simp only [listView] at scroll tgt
          rw [run_cons, ih here there (by rwa [height, unblank]) rest, scroll, tgt, height,
            left_of_frame, Finger.marks, List.cons_append, Chase.travel, add_assoc]
          rfl

/-- No frame of the drag or after it clamps the target. -/
def NeverClamps (dev : Dev) (lift : Report) (marks : List DragMark) (h : Hud)
    (animations : Stream' Animation) : Prop :=
  ∀ frames, EachStep step Unclamped h (session dev lift frames animations marks)

/-- **Following the finger**: at all rates at which nothing is clamped, the list reaches the
place to which the movement steps of the drag add up in finitely many frames, and stays. -/
def ListFollows (dev : Dev) (lift : Report) (marks : List DragMark) (finger : Finger)
    (h : Hud) : Prop :=
  ∀ animations, Animation.Gradual animations → NeverClamps dev lift marks h animations →
    ∃ n, ∀ frames ≥ n, (run step h (session dev lift frames animations marks)).ui.listScroll =
      h.ui.listScroll + Chase.aimed (finger.marks dev h.ui.H marks)

section Follows

variable {marks : List DragMark} {lift : Report} (touch : dev.isTouch = true)
  (slots : dev.hasMt = true) (scrolls : h.Scrolls finger) (shows : h.Shows finger)
  (drags : finger.Drags dev h.ui.H h.screen.tUnblank lift marks)

include touch slots scrolls shows drags

/-- A chase that catches up is a list that follows. -/
theorem listFollows_of_catchesUp
    (catches : Chase.CatchesUp (h.ui.listScrollTgt - h.ui.listScroll)
      (finger.marks dev h.ui.H marks)) : ListFollows dev lift marks finger h := by
  intro animations gradual unclamped
  obtain ⟨n, ends⟩ := (@Chase.settles_iff _ scrollChase _ _ _).mpr catches animations gradual
  refine ⟨n, fun frames late => ?_⟩
  rw [session_scroll touch slots scrolls shows drags (unclamped frames), ends frames late]

/-- A list that follows is a chase that catches up, when no clamp applies. -/
theorem catchesUp_of_listFollows
    (free : ∀ animations, Animation.Gradual animations → NeverClamps dev lift marks h animations)
    (follows : ListFollows dev lift marks finger h) :
    Chase.CatchesUp (h.ui.listScrollTgt - h.ui.listScroll) (finger.marks dev h.ui.H marks) := by
  refine (@Chase.settles_iff _ scrollChase _ _ _).mp fun animations gradual => ?_
  obtain ⟨n, ends⟩ := follows animations gradual (free animations gradual)
  refine ⟨n, fun frames late => ?_⟩
  have there := ends frames late
  rw [session_scroll touch slots scrolls shows drags (free animations gradual frames)] at there
  omega

/-- Where every movement step is three pixels or more, the list follows no drag with one. -/
theorem not_listFollows_of_tall
    (free : ∀ animations, Animation.Gradual animations → NeverClamps dev lift marks h animations)
    (tall : 3 * dev.rangeY ≤ 65 * h.ui.H) {d : Int}
    (stepped : .aim d ∈ finger.marks dev h.ui.H marks) : ¬ListFollows dev lift marks finger h := by
  intro follows
  have catches := catchesUp_of_listFollows touch slots scrolls shows drags free follows
  exact Chase.not_catchesUp_of_far (fun _ => Finger.marks_far tall) stepped _ catches

/-- **When the list follows the finger.** If no clamp applies, the list ends where the movement
steps of the drag add up to, at all rates, exactly when no frame finds it three pixels or more
from its target, and the distances of at most one pixel that frames find add up to the same. -/
theorem listFollows_iff :
    (Chase.CatchesUp (h.ui.listScrollTgt - h.ui.listScroll) (finger.marks dev h.ui.H marks) →
      ListFollows dev lift marks finger h) ∧
    ((∀ animations, Animation.Gradual animations → NeverClamps dev lift marks h animations) →
      (ListFollows dev lift marks finger h ↔
        Chase.CatchesUp (h.ui.listScrollTgt - h.ui.listScroll)
          (finger.marks dev h.ui.H marks))) := by
  have enough := listFollows_of_catchesUp touch slots scrolls shows drags
  refine ⟨enough, fun free => ⟨fun follows => ?_, enough⟩⟩
  exact catchesUp_of_listFollows touch slots scrolls shows drags free follows

end Follows

/-! ## A list of two dozen networks -/

/-- Frames that find a target which they do not clamp leave it so. -/
theorem eachStep_frames (animations : List Animation) {h : Hud}
    (inside : h.listMin ≤ h.ui.listScrollTgt ∧ h.ui.listScrollTgt ≤ 0) :
    EachStep step Unclamped h (animations.map .animate) := by
  induction animations generalizing h with
  | nil => trivial
  | cons animation animations ih =>
      refine ⟨inside, ih ?_⟩
      have tgt := (Prod.ext_iff.mp (@animate_scrolls h animation inside)).2
      have low : (h.step (.animate animation)).listMin = h.listMin := by
        change ((h.animateSheet animation).animateList animation.smooth).listMin = _
        unfold animateSheet
        split <;> rfl
      simp only [listView] at tgt
      rw [low, tgt]
      exact inside

/-- A list of two dozen networks, with a finger in the middle of it. -/
def twoDozen : Hud where
  scan := { aps := List.replicate 24 ⟨.empty 96, .empty 40, .empty 24, 60, true, false⟩ }
  ui := { W := 1080, H := 2400, sheetTgt := .list, sheetT := 1 }
  touch := {
    slots := fun s => if s = 0 then ⟨5, 500, 1200, true, true, 0, 0, false⟩ else {}
    bindSlot := some 0
    slotX := 500
    slotY := 1200
    slotId := 5
    downX := 500
    downY := 1200
    contactArmed := true }

/-- The finger that has landed on it. -/
def landedFinger : Finger := ⟨0, 0, true, 1200, 1200, false, false⟩

/-- A report in which the finger is somewhere else. -/
def moveTo (y : Int) : Report := ⟨[(.mtPositionY, y)], ⟨0, none, forks⟩⟩

/-- The report in which it lifts. -/
def liftReport : Report := ⟨[(.mtTrackingId, -1)], ⟨0, none, forks⟩⟩

/-- The list is followed. -/
theorem twoDozen_scrolls : twoDozen.Scrolls landedFinger := by
  constructor <;> decide

/-- The table shows the finger. -/
theorem twoDozen_shows : twoDozen.Shows landedFinger := by
  constructor <;> decide

/-- With one report, only what it leaves has to be inside the list. -/
theorem neverClamps_of_one {report lift : Report} {h : Hud}
    (inside : (run step h (report.events dev ++ lift.events dev)).listMin ≤
        (run step h (report.events dev ++ lift.events dev)).ui.listScrollTgt ∧
      (run step h (report.events dev ++ lift.events dev)).ui.listScrollTgt ≤ 0)
    (animations : Stream' Animation) :
    NeverClamps dev lift [.report report] h animations := by
  have quiet (report : Report) (g : Hud) : EachStep step Unclamped g (report.events dev) := by
    have inputs : ∀ event ∈ report.events dev, ∃ input, event = .input input := by
      intro event sent
      rw [Report.events, List.mem_append, List.mem_map, List.mem_singleton] at sent
      rcases sent with ⟨axis, -, rfl⟩ | rfl
      · exact ⟨_, rfl⟩
      · exact ⟨_, rfl⟩
    refine (eachStep_of_forall inputs g).mono fun state event => ?_
    rintro ⟨input, rfl⟩
    trivial
  intro frames
  rw [run_append] at inside
  rw [session, session, eachStep_append, eachStep_append]
  exact ⟨quiet _ _, quiet _ _, eachStep_frames _ inside⟩

/-- A touch device with 160000 units to the height of the screen: 67 of them are a pixel. -/
def fineTouch : Dev := .slotted 1080 160000

/-- The list with a finger in the middle of such a device. -/
def fineDozen : Hud :=
  { twoDozen with
    touch := { twoDozen.touch with
      slots := fun s => if s = 0 then ⟨5, 500, 80000, true, true, 0, 0, false⟩ else {}
      slotY := 80000
      downY := 80000 } }

/-- The finger on the fine device. -/
def fineFinger : Finger := ⟨0, 0, true, 80000, 80000, false, false⟩

/-- That list is followed too. -/
theorem fineDozen_scrolls : fineDozen.Scrolls fineFinger := by
  constructor <;> decide

theorem fineDozen_shows : fineDozen.Shows fineFinger := by
  constructor <;> decide

/-- Two steps of a pixel, each with a frame after it, are followed. One of six pixels is not. -/
theorem listFollows_iff_nudge :
    ListFollows fineTouch liftReport
        [.report (moveTo 79920), .frame, .report (moveTo 79840), .frame] fineFinger fineDozen ∧
      ¬ListFollows fineTouch liftReport [.report (moveTo 79600)] fineFinger fineDozen := by
  constructor
  · have drags : fineFinger.Drags fineTouch fineDozen.ui.H fineDozen.screen.tUnblank liftReport
        [.report (moveTo 79920), .frame, .report (moveTo 79840), .frame] :=
      ⟨⟨by decide, ⟨rfl, trivial⟩, nofun⟩, ⟨by decide, ⟨rfl, trivial⟩, nofun⟩, by decide, rfl⟩
    exact (listFollows_iff rfl rfl fineDozen_scrolls fineDozen_shows drags).1 (by decide)
  · have drags : fineFinger.Drags fineTouch fineDozen.ui.H fineDozen.screen.tUnblank liftReport
        [.report (moveTo 79600)] :=
      ⟨⟨by decide, ⟨rfl, trivial⟩, nofun⟩, by decide, rfl⟩
    have free (animations : Stream' Animation) (_ : Animation.Gradual animations) :
        NeverClamps fineTouch liftReport [.report (moveTo 79600)] fineDozen animations :=
      neverClamps_of_one (by decide +kernel) animations
    intro follows
    have catches := ((listFollows_iff rfl rfl fineDozen_scrolls fineDozen_shows drags).2 free).mp
      follows
    exact absurd catches (by decide)

/-- A drag whose one step is of many pixels may end two pixels short. -/
theorem twoDozen_not_followed :
    ¬∀ (dev : Dev) (h : Hud) (finger : Finger) (marks : List DragMark) (lift : Report)
      (animations : Stream' Animation), dev.isTouch = true → dev.hasMt = true →
      h.Scrolls finger → h.Shows finger →
      finger.Drags dev h.ui.H h.screen.tUnblank lift marks → Animation.Gradual animations →
      NeverClamps dev lift marks h animations →
      ∃ n, ∀ frames ≥ n, (run step h (session dev lift frames animations marks)).ui.listScroll =
        h.ui.listScroll + Chase.aimed (finger.marks dev h.ui.H marks) := by
  intro always
  have drags : landedFinger.Drags (.slotted 1080 2400) twoDozen.ui.H twoDozen.screen.tUnblank
      liftReport [.report (moveTo 1100)] :=
    ⟨⟨by decide, ⟨rfl, trivial⟩, nofun⟩, by decide, rfl⟩
  have free (animations : Stream' Animation) (_ : Animation.Gradual animations) :
      NeverClamps (.slotted 1080 2400) liftReport [.report (moveTo 1100)] twoDozen animations :=
    neverClamps_of_one (by decide +kernel) animations
  refine not_listFollows_of_tall rfl rfl twoDozen_scrolls twoDozen_shows drags free
    (d := -100) (by decide) (by decide) fun animations gradual unclamped => ?_
  exact always _ _ _ _ _ _ rfl rfl twoDozen_scrolls twoDozen_shows drags gradual unclamped

end Hud

end Ginkgo
