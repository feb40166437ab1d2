import Ginkgo.Display.Panel
import Ginkgo.Transition.Run

/-!
# Whether the panel is asleep

The flag of the driver says whether the panel shows a picture, and a write to
`panel_sleep` that asks for what the flag says is skipped. The flag tells the truth
throughout a run exactly when no resume that finds it set fails to switch the display on
(`Ginkgo.DsiPanel.asleep_truthful_iff`): `enable` clears it whether or not the command gets
through (`Ginkgo.DsiPanel.resume_lies`).
-/

namespace Ginkgo

open Transition

namespace DsiPanel

/-- A write to `panel_sleep` finds that there is nothing to do. -/
def Skips (p : DsiPanel) (sleep : Bool) : Prop := sleep = p.asleep

/-- **The flag tells the truth**, and so does every write that is skipped. -/
structure Truthful (p : DsiPanel) : Prop where
  asleep : p.inited = true → (p.asleep = true ↔ p.shown = some .off)
  skipped : p.inited = true → ∀ sleep, p.Skips sleep → (sleep = true ↔ p.shown = some .off)

/-- What `asleep` should say, once the panel has its initial commands. -/
theorem truthful_iff (p : DsiPanel) :
    p.Truthful ↔ (p.inited = true → (p.asleep = true ↔ p.shown = some .off)) := by
  constructor
  · exact Truthful.asleep
  · intro asleep
    refine ⟨asleep, ?_⟩
    rintro inited sleep rfl
    exact asleep inited

/-- A resume that finds the panel asleep switches the display on. -/
def Wakes (p : DsiPanel) : PanelCall → Prop
  | .enable answers => p.inited = true → p.asleep = true → 0 ≤ answers 0
  | _ => True

/-! ## What a call does -/

section Calls

variable {p : DsiPanel}

/-- A display that has not heard that it goes on stays as it is. -/
theorem setDisplayOn_fails {answer : Int} (fails : answer < 0) :
    p.setDisplayOn answer = (p, answer) := if_pos fails

/-- One that has heard it goes on. -/
theorem setDisplayOn_succeeds {answer : Int} (succeeds : 0 ≤ answer) :
    p.setDisplayOn answer = ({ p with wire := [mipiDcsSetDisplayOn] :: p.wire }, answer) :=
  if_neg (Int.not_lt.mpr succeeds)

/-- A display that has not heard that it goes off stays as it is. -/
theorem setDisplayOff_fails {answer : Int} (fails : answer < 0) :
    p.setDisplayOff answer = (p, answer) := if_pos fails

/-- One that has heard it goes off. -/
theorem setDisplayOff_succeeds {answer : Int} (succeeds : 0 ≤ answer) :
    p.setDisplayOff answer = ({ p with wire := [mipiDcsSetDisplayOff] :: p.wire }, answer) :=
  if_neg (Int.not_lt.mpr succeeds)

/-- A sequence that gets through has been received in whole, and changes nothing else. -/
theorem sendCmds_succeeds {answers : Nat → Int} {cmds : List DcsCmd} {i : Nat}
    (succeeds : 0 ≤ (p.sendCmds answers i cmds).2) :
    (p.sendCmds answers i cmds).1 =
      { p with wire := (cmds.map DcsCmd.data).reverse ++ p.wire } := by
  induction cmds generalizing p i with
  | nil => rfl
  | cons cmd cmds ih =>
      unfold sendCmds transfer at succeeds ⊢
      by_cases fails : answers i < 0
      · simp only [fails, if_true] at succeeds
        omega
      · simp only [fails, if_false] at succeeds ⊢
        rw [ih succeeds]
        simp

/-- Sending commands does not make a panel initialised. -/
theorem sendCmds_inited {answers : Nat → Int} {cmds : List DcsCmd} {i : Nat} :
    (p.sendCmds answers i cmds).1.inited = p.inited := by
  induction cmds generalizing p i with
  | nil => rfl
  | cons cmd cmds ih =>
      unfold sendCmds transfer
      by_cases fails : answers i < 0
      · simp only [fails, if_true]
      · simp only [fails, if_false]
        exact ih

/-- After the initial commands the display is on. -/
theorem shown_onCmds (driver : PanelDriver) (wire : List (List UInt8)) :
    ((driver.onCmds.map DcsCmd.data).reverse ++ wire).findSome? powerOf = some .on := by
  have leaves := driver.leavesOn
  rw [← List.map_reverse, List.findSome?_append, List.findSome?_map]
  change (driver.onCmds.reverse.findSome? fun cmd => powerOf cmd.data).or _ = _
  rw [leaves]
  rfl

end Calls

/-! ## One call -/

section Step

variable {driver : PanelDriver} {p : DsiPanel}

/-- A resume switches the display on or leaves it as it is, and clears the flag. -/
theorem enable_resumes (truthful : p.Truthful) (inited : p.inited = true)
    (answers : Nat → Int) :
    (p.enable driver answers).1.Truthful ↔ (p.asleep = true → 0 ≤ answers 0) := by
  have told := truthful.asleep inited
  unfold enable
  rw [if_pos inited, truthful_iff]
  by_cases fails : answers 0 < 0
  · rw [setDisplayOn_fails fails]
    simp only [inited, true_implies, Bool.false_eq_true, false_iff]
    constructor
    · intro awake asleep
      exact absurd (told.mp asleep) awake
    · intro wakes off
      have answered := wakes (told.mpr off)
      omega
  · have answered : 0 ≤ answers 0 := Int.not_lt.mp fails
    rw [setDisplayOn_succeeds answered]
    have on : powerOf [mipiDcsSetDisplayOn] = some .on := rfl
    simp [shown, on, answered]

/-- The first `enable` leaves the display on, and one that fails leaves the driver
without its initial commands. -/
theorem enable_inits (fresh : p.inited = false) (answers : Nat → Int) :
    (p.enable driver answers).1.Truthful := by
  unfold enable
  rw [if_neg (by simp [fresh]), truthful_iff]
  intro inited
  by_cases fails : (p.sendCmds answers 0 driver.onCmds).2 < 0
  · simp only [fails, if_true, sendCmds_inited, fresh] at inited
    cases inited
  · simp only [fails, if_false]
    rw [sendCmds_succeeds (Int.not_lt.mp fails), shown, shown_onCmds]
    simp

/-- `disable` says the truth. -/
theorem disable_truthful (truthful : p.Truthful) (answer : Int) :
    (p.disable answer).1.Truthful := by
  unfold disable
  by_cases fails : answer < 0
  · rw [setDisplayOff_fails fails]
    simp only [fails, if_true]
    exact truthful
  · rw [setDisplayOff_succeeds (Int.not_lt.mp fails), truthful_iff]
    simp only [fails, if_false]
    have off : powerOf [mipiDcsSetDisplayOff] = some .off := rfl
    simp [shown, off]

/-- So does a write to `panel_sleep`, whether or not its transfer succeeds. -/
theorem panelSleepStore_truthful (truthful : p.Truthful) (sleep : Option Bool) (answer : Int) :
    (p.panelSleepStore sleep answer).Truthful := by
  unfold panelSleepStore
  cases sleep with
  | none => exact truthful
  | some sleep =>
      by_cases skipped : sleep = p.asleep
      · simp only [skipped, if_true]
        exact truthful
      · simp only [skipped, if_false]
        by_cases fails : answer < 0
        · rw [setDisplayOff_fails fails, setDisplayOn_fails fails, ite_self]
          simp only [fails, if_true]
          exact truthful
        · have answered := Int.not_lt.mp fails
          rw [setDisplayOff_succeeds answered, setDisplayOn_succeeds answered, truthful_iff]
          have on : powerOf [mipiDcsSetDisplayOn] = some .on := rfl
          have off : powerOf [mipiDcsSetDisplayOff] = some .off := rfl
          cases sleep <;> simp [shown, on, off, fails]

/-- **One call** keeps the flag truthful exactly when it wakes a panel that it resumes. -/
theorem step_truthful_iff (truthful : p.Truthful) (call : PanelCall) :
    (p.step driver call).Truthful ↔ p.Wakes call := by
  cases call with
  | prepare regulators =>
      have kept : (p.prepare regulators).1 = p := by
        unfold prepare
        split_ifs <;> rfl
      change (p.prepare regulators).1.Truthful ↔ True
      rw [kept]
      exact iff_true_intro truthful
  | enable answers =>
      change (p.enable driver answers).1.Truthful ↔ (p.inited = true → _)
      cases inited : p.inited with
      | true => simp only [true_implies, enable_resumes truthful inited]
      | false =>
          simp only [Bool.false_eq_true, false_implies, iff_true]
          exact enable_inits inited answers
  | disable answer => exact iff_true_intro (disable_truthful truthful answer)
  | unprepare => exact iff_true_intro truthful
  | store sleep answer => exact iff_true_intro (panelSleepStore_truthful truthful sleep answer)

end Step

/-! ## Runs -/

/-- **When the flag tells the truth.** For every sequence of callbacks and writes, whichever
transfers fail, the flag and every skipped write tell the truth after each call exactly when
every resume of a panel that is asleep gets its command through. -/
theorem asleep_truthful_iff (driver : PanelDriver) (calls : List PanelCall) :
    Always (step driver) Truthful {} calls ↔ EachStep (step driver) Wakes {} calls := by
  have initial : Truthful {} := (truthful_iff _).mpr nofun
  refine always_iff_eachStep (fun _ => True) (fun _ _ _ _ => trivial) ?_ trivial initial calls
  intro p call _ truthful
  exact step_truthful_iff truthful call

/-- The panel comes up, is switched off and does not come up again. -/
def failedResume : List PanelCall :=
  [.prepare 0, .enable fun _ => 0, .disable 0, .unprepare, .prepare 0, .enable fun _ => -110]

/-- **A resume that fails lies.** The display is off and the flag is not set, so that a write
of `0` to `panel_sleep` is skipped. -/
theorem resume_lies :
    PanelCore.ordered .huaxing {} {} failedResume = true ∧
      ¬Always (step .huaxing) Truthful {} failedResume ∧
      (run (step .huaxing) {} failedResume).inited = true ∧
      (run (step .huaxing) {} failedResume).asleep = false ∧
      (run (step .huaxing) {} failedResume).shown = some .off ∧
      (run (step .huaxing) {} failedResume).Skips false := by
  have inited : (run (step .huaxing) {} failedResume).inited = true := by decide
  have asleep : (run (step .huaxing) {} failedResume).asleep = false := by decide
  have off : (run (step .huaxing) {} failedResume).shown = some .off := by decide
  refine ⟨by decide, ?_, inited, asleep, off, asleep.symm⟩
  intro always
  have told := always.last.asleep inited
  rw [asleep, off] at told
  simp at told

end DsiPanel

end Ginkgo
