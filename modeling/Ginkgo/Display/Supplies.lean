import Ginkgo.Display.Panel
import Ginkgo.Transition.Run

/-!
# The supplies of the panel

`prepare` of the Huaxing panel enables the supplies until the panel has been initialised, and
nothing disables them: `unprepare` has a path for a panel that has not come up, but does nothing
on it. The supplies stay balanced exactly when no such panel is unprepared
(`Ginkgo.Modeset.supplies_balanced_iff`); otherwise every further attempt enables them once more
(`Ginkgo.Modeset.supplies_leak`).
-/

namespace Ginkgo

open Transition

/-- The Huaxing panel and its supplies: the calls of `regulator_bulk_enable` that have succeeded
and have not been undone. -/
structure SuppliedPanel where
  panel : DsiPanel := {}
  supplied : Nat := 0
  deriving DecidableEq

namespace SuppliedPanel

/-- `regulator_bulk_enable`, which leaves nothing enabled when it fails. -/
def regulatorBulkEnable (answer : Int) (p : SuppliedPanel) : SuppliedPanel × Int :=
  if answer < 0 then (p, answer) else ({ p with supplied := p.supplied + 1 }, answer)

/-- The reset line is not part of the state. -/
def prepare (regulators : Int) (p : SuppliedPanel) : SuppliedPanel × Int :=
  if p.panel.inited then (p, 0)
  else
    match p.regulatorBulkEnable regulators with
    | (p, ret) => if ret < 0 then (p, ret) else (p, 0)

/-- The second path is for a first boot that has failed. -/
def unprepare (p : SuppliedPanel) : SuppliedPanel × Int :=
  if p.panel.inited then (p, 0) else (p, 0)

/-- The other callbacks and writes to `panel_sleep` do not touch the supplies. -/
def call (p : SuppliedPanel) : PanelCall → SuppliedPanel × Int
  | .prepare regulators => p.prepare regulators
  | .unprepare => p.unprepare
  | call =>
      match p.panel.call .huaxing call with
      | (panel, err) => ({ p with panel }, err)

/-- But for the supplies, this is the driver. -/
theorem call_panel (p : SuppliedPanel) (call : PanelCall) :
    ((p.call call).1.panel, (p.call call).2) = p.panel.call .huaxing call := by
  cases call with
  | prepare regulators =>
      unfold SuppliedPanel.call prepare regulatorBulkEnable DsiPanel.call DsiPanel.prepare
      simp only
      split
      · rfl
      · by_cases fails : regulators < 0
        · simp only [fails, if_true]
        · simp only [fails, if_false]
  | unprepare => exact congrArg (fun q : SuppliedPanel × Int => (q.1.panel, q.2)) (ite_self _)
  | _ => rfl

/-- A panel that has been initialised stays so. -/
theorem call_inited {p : SuppliedPanel} (inited : p.panel.inited = true) (call : PanelCall) :
    (p.call call).1.panel.inited = true := by
  have same : (p.call call).1.panel = (p.panel.call .huaxing call).1 :=
    congrArg Prod.fst (p.call_panel call)
  have transferred (data : List UInt8) (answer : Int) :
      (p.panel.transfer data answer).1.inited = true := by
    unfold DsiPanel.transfer
    split <;> exact inited
  rw [same]
  cases call with
  | prepare regulators =>
      unfold DsiPanel.call DsiPanel.prepare
      simp only [inited, if_true]
  | enable answers =>
      unfold DsiPanel.call DsiPanel.enable
      simp only [inited, if_true]
      exact transferred _ _
  | disable answer =>
      unfold DsiPanel.call DsiPanel.disable
      simp only
      split <;> exact transferred _ _
  | unprepare => exact inited
  | store sleep answer =>
      unfold DsiPanel.call DsiPanel.panelSleepStore
      cases sleep with
      | none => exact inited
      | some sleep =>
          simp only
          split
          · exact inited
          · cases sleep
            all_goals
              simp only [Bool.false_eq_true, if_true, if_false]
              split <;> exact transferred _ _

end SuppliedPanel

/-! ## The calls of the DRM core -/

/-- The panel and what the DRM core knows of it. -/
structure Modeset where
  core : PanelCore := {}
  device : SuppliedPanel := {}

namespace Modeset

/-- A call of the core, which notes it if it has not returned an error. -/
def step (s : Modeset) (call : PanelCall) : Modeset :=
  match s.device.call call with
  | (device, err) => { core := if err < 0 then s.core else s.core.after call, device }

/-- **The core pairs its calls**: a panel is unprepared after a `prepare` that has succeeded, and
disabled after an `enable` that has succeeded. -/
def Paired (s : Modeset) : PanelCall → Prop
  | .prepare _ => s.core.prepared = false
  | .enable _ => s.core.enabled = false
  | .disable _ => s.core.enabled = true
  | .unprepare => s.core.prepared = true
  | .store _ _ => True

/-- **The supplies are balanced** after a call: they are enabled once at most, and not at all after
an `unprepare` while the panel has never been initialised. -/
structure Balanced (s : Modeset) (call : PanelCall) : Prop where
  once : (s.step call).device.supplied ≤ 1
  undone : call = .unprepare → (s.step call).device.panel.inited = false →
    (s.step call).device.supplied = 0

/-- A panel is unprepared only when it has been initialised. -/
def Inited (s : Modeset) : PanelCall → Prop
  | .unprepare => s.device.panel.inited = true
  | _ => True

instance (s : Modeset) : (call : PanelCall) → Decidable (s.Paired call)
  | .prepare _ | .enable _ | .disable _ | .unprepare => inferInstanceAs (Decidable (_ = _))
  | .store _ _ => .isTrue trivial

instance (s : Modeset) : (call : PanelCall) → Decidable (s.Inited call)
  | .unprepare => inferInstanceAs (Decidable (_ = _))
  | .prepare _ | .enable _ | .disable _ | .store _ _ => .isTrue trivial

/-- Until the panel is initialised, the supplies are enabled while it is prepared. -/
structure Tallied (s : Modeset) : Prop where
  once : s.device.supplied ≤ 1
  prepared : s.device.panel.inited = false →
    s.device.supplied = if s.core.prepared then 1 else 0

/-- A call whose supplies and whose `prepare` are what they were keeps the tally. -/
theorem Tallied.kept {s : Modeset} (tallied : s.Tallied) {call : PanelCall}
    (supplied : (s.step call).device.supplied = s.device.supplied)
    (prepared : (s.step call).core.prepared = s.core.prepared) : (s.step call).Tallied where
  once := supplied ▸ tallied.once
  prepared fresh := by
    rw [supplied, prepared]
    apply tallied.prepared
    cases inited : s.device.panel.inited with
    | false => rfl
    | true =>
        have still := SuppliedPanel.call_inited inited call
        rw [show (s.device.call call).1.panel.inited = false from fresh] at still
        cases still

/-- `prepare` keeps the tally. -/
theorem prepare_tallied {s : Modeset} (tallied : s.Tallied) (regulators : Int)
    (paired : s.core.prepared = false) : (s.step (.prepare regulators)).Tallied := by
  unfold step SuppliedPanel.call SuppliedPanel.prepare SuppliedPanel.regulatorBulkEnable
  cases inited : s.device.panel.inited with
  | true =>
      simp only [if_true]
      refine ⟨tallied.once, fun fresh => ?_⟩
      rw [inited] at fresh
      cases fresh
  | false =>
      have none : s.device.supplied = 0 := by
        have tally := tallied.prepared inited
        rwa [paired] at tally
      by_cases fails : regulators < 0
      · simp only [fails, Bool.false_eq_true, if_true, if_false]
        exact tallied
      · simp only [fails, Bool.false_eq_true, if_false]
        refine ⟨?_, fun _ => ?_⟩
        · exact Nat.le_of_eq (congrArg (· + 1) none)
        · rw [none]
          rfl

/-- **One call** of a panel that is tallied. -/
theorem step_balanced_iff {s : Modeset} (tallied : s.Tallied) {call : PanelCall}
    (paired : s.Paired call) :
    (s.Balanced call ↔ s.Inited call) ∧ (s.Balanced call → (s.step call).Tallied) := by
  have balanced (other : call ≠ .unprepare) (next : (s.step call).Tallied) : s.Balanced call :=
    ⟨next.once, fun unprepare => absurd unprepare other⟩
  cases call with
  | prepare regulators =>
      have next := prepare_tallied tallied regulators paired
      exact ⟨iff_of_true (balanced nofun next) trivial, fun _ => next⟩
  | unprepare =>
      have device : (s.step .unprepare).device = s.device :=
        congrArg Prod.fst (ite_self (s.device, (0 : Int)))
      cases inited : s.device.panel.inited with
      | true =>
          have fresh : ¬(s.step .unprepare).device.panel.inited = false := by
            rw [device, inited]
            decide
          refine ⟨iff_of_true ⟨device ▸ tallied.once, fun _ => (absurd · fresh)⟩ inited, fun _ => ?_⟩
          exact ⟨device ▸ tallied.once, (absurd · fresh)⟩
      | false =>
          have one : s.device.supplied = 1 := by
            have tally := tallied.prepared inited
            rwa [show s.core.prepared = true from paired] at tally
          have leaks : ¬s.Balanced .unprepare := by
            intro balanced
            have undone := balanced.undone rfl (by rw [device, inited])
            rw [device, one] at undone
            cases undone
          refine ⟨iff_of_false leaks ?_, fun balanced => absurd balanced leaks⟩
          intro unprepares
          rw [show s.device.panel.inited = true from unprepares] at inited
          cases inited
  | enable answers =>
      have next : (s.step (.enable answers)).Tallied :=
        tallied.kept rfl (by unfold step; simp only; split <;> rfl)
      exact ⟨iff_of_true (balanced nofun next) trivial, fun _ => next⟩
  | disable answer =>
      have next : (s.step (.disable answer)).Tallied :=
        tallied.kept rfl (by unfold step; simp only; split <;> rfl)
      exact ⟨iff_of_true (balanced nofun next) trivial, fun _ => next⟩
  | store sleep answer =>
      have next : (s.step (.store sleep answer)).Tallied :=
        tallied.kept rfl (by unfold step; simp only; split <;> rfl)
      exact ⟨iff_of_true (balanced nofun next) trivial, fun _ => next⟩

/-- **When the supplies are balanced.** For every sequence of calls that the core pairs, whichever
regulators and transfers fail, the supplies are balanced after each call exactly when no panel is
unprepared that has not been initialised. -/
theorem supplies_balanced_iff {calls : List PanelCall} (paired : EachStep step Paired {} calls) :
    EachStep step Balanced {} calls ↔ EachStep step Inited {} calls := by
  have initial : Tallied {} := ⟨Nat.zero_le 1, fun _ => rfl⟩
  refine eachStep_congr_of_invariant ?_ ?_ initial paired
  · exact fun s call tallied paired => (step_balanced_iff tallied paired).1
  · exact fun s call tallied paired => (step_balanced_iff tallied paired).2

/-- The panel comes up, is switched off and comes up again. -/
def twice : List PanelCall :=
  [.prepare 0, .enable fun _ => 0, .disable 0, .unprepare, .prepare 0, .enable fun _ => 0]

/-- The supplies are balanced then. -/
theorem supplies_balanced_twice : EachStep step Balanced {} twice :=
  (supplies_balanced_iff (by decide)).mpr (by decide)

/-- The fourth initial command fails, and the core tries again. -/
def retried : List PanelCall :=
  [.prepare 0, .enable fun i => if i = 3 then -110 else 0, .unprepare, .prepare 0]

/-- **A first boot that fails leaks the supplies.** -/
theorem supplies_leak :
    EachStep step Paired {} retried ∧ ¬EachStep step Balanced {} retried ∧
      (run step {} retried).device.panel.inited = false ∧
      (run step {} retried).device.supplied = 2 := by
  refine ⟨by decide, ?_, by decide, by decide⟩
  intro balanced
  have undone := balanced.2.2.1.undone rfl (by decide)
  revert undone
  decide

end Modeset

end Ginkgo
