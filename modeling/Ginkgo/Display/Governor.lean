import Ginkgo.CText.Basic
import Ginkgo.Display.CpuLoad

/-!
# The governors

When the screen goes off, `cpu_idle_blank` notes the governor of every core and sets it to
`powersave`; when it comes back, it sets what it has noted. The kernel has one governor for all
cores of a policy.

So the governor of a policy with several cores is noted again after it has been set, and stays
`powersave` from then on (`Ginkgo.Cpufreq.restored_iff`).
-/

namespace Ginkgo

open CText

/-- The policies of the cores that have one, and the governors of the kernel. -/
structure Cpufreq where
  policy : Nat → Option Nat
  known : Text → Bool

/-- The governor of each policy, and `gov`. -/
structure Governors where
  governor : Nat → Text
  saved : Nat → Option Text

namespace Cpufreq

variable (c : Cpufreq)

/-- `scaling_governor` of a core is read, up to the size of the array. -/
def read (i : Nat) (g : Governors) : Option Text :=
  (c.policy i).map fun p => (g.governor p ++ [newline]).take 31

/-- A governor is written to a core: its policy takes it, when the kernel knows it. -/
def writeSysfs (i : Nat) (t : Text) (g : Governors) : Governors :=
  match c.policy i with
  | none => g
  | some p =>
      let name := t.takeWhile (· ≠ newline)
      if c.known name then { g with governor := Function.update g.governor p name } else g

/-- The line ends at the end are cut off. -/
def trimEnd (t : Text) : Text := (t.reverse.dropWhile fun c => c = newline ∨ c = carriageReturn).reverse

/-- `cpu_idle_blank(1)` notes the governor of a core. -/
def saveCore (i : Nat) (g : Governors) : Governors :=
  match c.read i g with
  | none => g
  | some t => if t = [] then g else { g with saved := Function.update g.saved i (some (trimEnd t)) }

/-- It notes the governor and writes `powersave`. -/
def blankCore (i : Nat) (g : Governors) : Governors :=
  c.writeSysfs i (txt "powersave\n") (c.saveCore i g)

/-- `cpu_idle_blank(0)` writes what has been noted, or `schedutil`. -/
def unblankCore (i : Nat) (g : Governors) : Governors :=
  match g.saved i with
  | none => c.writeSysfs i (txt "schedutil\n") g
  | some t => if t ≠ [] then c.writeSysfs i t g else c.writeSysfs i (txt "schedutil\n") g

/-- `cpu_idle_blank(1)` for the first cores. -/
def blank : Nat → Governors → Governors
  | 0, g => g
  | n + 1, g => c.blankCore n (blank n g)

/-- `cpu_idle_blank(0)` for the first cores. -/
def unblank : Nat → Governors → Governors
  | 0, g => g
  | n + 1, g => c.unblankCore n (unblank n g)

/-- The number of cores that are looked at. -/
def cores (ncpu : Int) : Nat :=
  let n := if 0 < ncpu then ncpu.toNat else 8
  if maxCpu < n then maxCpu else n

/-- The screen goes off and comes back again and again. -/
def cycles (ncpu : Int) : Nat → Governors → Governors
  | 0, g => g
  | k + 1, g => c.unblank (cores ncpu) (c.blank (cores ncpu) (cycles ncpu k g))

/-! ## Names -/

/-- The name of a governor of the kernel. -/
structure Name (t : Text) : Prop where
  known : c.known t = true
  nonempty : t ≠ []
  line : newline ∉ t ∧ carriageReturn ∉ t
  short : t.length ≤ 30

/-- The governor of a screen that is off. -/
def powersave : Text := txt "powersave"

variable {c} {g : Governors} {i p n : Nat}

/-- A name ends where its line does. -/
theorem takeWhile_name {t : Text} (line : newline ∉ t) : t.takeWhile (· ≠ newline) = t := by
  rw [List.takeWhile_eq_self_iff]
  intro byte member
  simp only [ne_eq, decide_eq_true_eq]
  rintro rfl
  exact line member

/-- A name is read back without its line end. -/
theorem trimEnd_name {t : Text} (name : c.Name t) : trimEnd (t ++ [newline]) = t := by
  have kept : t.reverse.dropWhile (fun b => b = newline ∨ b = carriageReturn) = t.reverse := by
    rw [List.dropWhile_eq_self_iff]
    intro nonempty same
    have member := List.mem_reverse.mp (List.getElem_mem nonempty)
    simp only [Bool.decide_or, Bool.or_eq_true, decide_eq_true_eq] at same
    rcases same with same | same
    · exact name.line.1 (same ▸ member)
    · exact name.line.2 (same ▸ member)
  rw [trimEnd, List.reverse_append]
  change ((newline :: t.reverse).dropWhile _).reverse = t
  rw [List.dropWhile_cons_of_pos (by simp), kept, List.reverse_reverse]

/-- What is read of a core whose governor has a name. -/
theorem saveCore_of_policy (core : c.policy i = some p) (name : c.Name (g.governor p)) :
    c.saveCore i g = { g with saved := Function.update g.saved i (some (g.governor p)) } := by
  have whole : (g.governor p ++ [newline]).take 31 = g.governor p ++ [newline] :=
    List.take_of_length_le ((List.length_append ..).trans_le (Nat.succ_le_succ name.short))
  rw [saveCore, read, core, Option.map_some, whole]
  simp only [List.append_eq_nil_iff, List.cons_ne_nil, and_false, if_false]
  rw [trimEnd_name name]

/-- A name that is written to a core with a policy is its governor. -/
theorem writeSysfs_of_policy {t : Text} (core : c.policy i = some p) (name : c.Name t)
    (g : Governors) :
    c.writeSysfs i t g = { g with governor := Function.update g.governor p t } := by
  rw [writeSysfs, core]
  simp only [takeWhile_name name.line.1, name.known, if_true]

/-- `powersave` is. -/
theorem writeSysfs_powersave (core : c.policy i = some p) (name : c.Name powersave)
    (g : Governors) : c.writeSysfs i (txt "powersave\n") g =
      { g with governor := Function.update g.governor p powersave } := by
  have cut : (txt "powersave\n").takeWhile (· ≠ newline) = powersave := by decide +kernel
  rw [writeSysfs, core]
  simp only [cut, name.known, if_true]

/-- A core without a policy has no governor. -/
theorem writeSysfs_of_none {t : Text} (none : c.policy i = none) (g : Governors) :
    c.writeSysfs i t g = g := by
  rw [writeSysfs, none]

/-! ## Off -/

/-- A core below has the policy. -/
def Below (c : Cpufreq) (n p : Nat) : Prop := ∃ i < n, c.policy i = some p

/-- The cores below the next one. -/
theorem below_succ (n p : Nat) : c.Below (n + 1) p ↔ c.Below n p ∨ c.policy n = some p := by
  constructor
  · rintro ⟨i, inside, core⟩
    rcases Nat.lt_succ_iff_lt_or_eq.mp inside with less | rfl
    · exact .inl ⟨i, less, core⟩
    · exact .inr core
  · rintro (⟨i, inside, core⟩ | core)
    · exact ⟨i, Nat.lt_succ_of_lt inside, core⟩
    · exact ⟨n, Nat.lt_succ_self n, core⟩

/-- After the screen has gone off. -/
structure Blanked (c : Cpufreq) (g : Governors) (n : Nat) (g' : Governors) : Prop where
  set : ∀ p, c.Below n p → g'.governor p = powersave
  kept : ∀ p, ¬c.Below n p → g'.governor p = g.governor p
  first : ∀ i < n, ∀ p, c.policy i = some p → ¬c.Below i p → g'.saved i = some (g.governor p)
  later : ∀ i < n, ∀ p, c.policy i = some p → c.Below i p → g'.saved i = some powersave

/-- **What `cpu_idle_blank(1)` leaves.** -/
theorem blanked (names : ∀ p, c.Name (g.governor p)) (off : c.Name powersave) (n : Nat) :
    c.Blanked g n (c.blank n g) := by
  induction n with
  | zero =>
      refine ⟨?_, fun _ _ => rfl, ?_, ?_⟩
      · rintro p ⟨i, inside, -⟩
        exact absurd inside (Nat.not_lt_zero i)
      · exact fun i inside => absurd inside (Nat.not_lt_zero i)
      · exact fun i inside => absurd inside (Nat.not_lt_zero i)
  | succ n ih =>
      have named (p : Nat) : c.Name ((c.blank n g).governor p) := by
        by_cases below : c.Below n p
        · rw [ih.set p below]
          exact off
        · rw [ih.kept p below]
          exact names p
      cases core : c.policy n with
      | none =>
          have same : c.blank (n + 1) g = c.blank n g := by
            rw [blank, blankCore, writeSysfs_of_none core, saveCore, read, core, Option.map_none]
          have below (p : Nat) : c.Below (n + 1) p ↔ c.Below n p := by
            rw [below_succ, core]
            simp
          rw [same]
          refine ⟨fun p known => ih.set p ((below p).mp known),
            fun p unknown => ih.kept p (unknown ∘ (below p).mpr), fun i inside p policy => ?_,
            fun i inside p policy => ?_⟩
          · exact ih.first i (Nat.lt_of_le_of_ne (Nat.le_of_lt_succ inside)
              fun same => by rw [same, core] at policy; cases policy) p policy
          · exact ih.later i (Nat.lt_of_le_of_ne (Nat.le_of_lt_succ inside)
              fun same => by rw [same, core] at policy; cases policy) p policy
      | some q =>
          have after : c.blank (n + 1) g =
              { governor := Function.update (c.blank n g).governor q powersave
                saved := Function.update (c.blank n g).saved n (some ((c.blank n g).governor q)) } := by
            rw [blank, blankCore, saveCore_of_policy core (named q), writeSysfs_powersave core off]
          rw [after]
          refine ⟨fun p known => ?_, fun p unknown => ?_, fun i inside p policy fresh => ?_,
            fun i inside p policy again => ?_⟩
          · by_cases same : p = q
            · rw [same]
              exact Function.update_self ..
            · refine (Function.update_of_ne same ..).trans (ih.set p ?_)
              rcases (below_succ n p).mp known with below | own
              · exact below
              · exact absurd (Option.some_inj.mp (own.symm.trans core)) same
          · have other : p ≠ q := fun same => unknown ((below_succ n p).mpr (.inr (same ▸ core)))
            exact (Function.update_of_ne other ..).trans
              (ih.kept p fun below => unknown ((below_succ n p).mpr (.inl below)))
          · rcases Nat.lt_succ_iff_lt_or_eq.mp inside with less | rfl
            · exact (Function.update_of_ne less.ne ..).trans (ih.first i less p policy fresh)
            · obtain rfl : q = p := Option.some_inj.mp (core.symm.trans policy)
              exact (Function.update_self ..).trans (congrArg some (ih.kept q fresh))
          · rcases Nat.lt_succ_iff_lt_or_eq.mp inside with less | rfl
            · exact (Function.update_of_ne less.ne ..).trans (ih.later i less p policy again)
            · obtain rfl : q = p := Option.some_inj.mp (core.symm.trans policy)
              exact (Function.update_self ..).trans (congrArg some (ih.set q again))

/-! ## On -/

/-- After the screen has come back: each policy has what its last core has noted. -/
structure Unblanked (c : Cpufreq) (g : Governors) (n : Nat) (g' : Governors) : Prop where
  saved : g'.saved = g.saved
  kept : ∀ p, ¬c.Below n p → g'.governor p = g.governor p
  last : ∀ i < n, ∀ p, c.policy i = some p → (∀ j, i < j → j < n → c.policy j ≠ some p) →
    g.saved i = some (g'.governor p)

/-- **What `cpu_idle_blank(0)` leaves**, when every core has noted a governor. -/
theorem unblanked {n : Nat}
    (noted : ∀ i < n, ∀ p, c.policy i = some p → ∃ t, g.saved i = some t ∧ c.Name t) :
    c.Unblanked g n (c.unblank n g) := by
  induction n with
  | zero => exact ⟨rfl, fun _ _ => rfl, fun i inside => absurd inside (Nat.not_lt_zero i)⟩
  | succ n ih =>
      have before := ih fun i inside => noted i (Nat.lt_succ_of_lt inside)
      cases core : c.policy n with
      | none =>
          have same : c.unblank (n + 1) g = c.unblank n g := by
            rw [unblank, unblankCore]
            split
            · exact writeSysfs_of_none core _
            · split <;> exact writeSysfs_of_none core _
          rw [same]
          refine ⟨before.saved, fun p unknown => before.kept p fun below =>
            unknown ((below_succ n p).mpr (.inl below)), fun i inside p policy alone => ?_⟩
          refine before.last i (Nat.lt_of_le_of_ne (Nat.le_of_lt_succ inside) ?_) p policy
            fun j after below => alone j after (Nat.lt_succ_of_lt below)
          rintro rfl
          rw [core] at policy
          cases policy
      | some q =>
          obtain ⟨t, saved, name⟩ := noted n (Nat.lt_succ_self n) q core
          have after : c.unblank (n + 1) g = { c.unblank n g with
              governor := Function.update (c.unblank n g).governor q t } := by
            rw [unblank, unblankCore, before.saved, saved]
            exact (if_pos name.nonempty).trans (writeSysfs_of_policy core name _)
          rw [after]
          refine ⟨before.saved, fun p unknown => ?_, fun i inside p policy alone => ?_⟩
          · have other : p ≠ q := fun same => unknown ((below_succ n p).mpr (.inr (same ▸ core)))
            exact (Function.update_of_ne other ..).trans
              (before.kept p fun below => unknown ((below_succ n p).mpr (.inl below)))
          · rcases Nat.lt_succ_iff_lt_or_eq.mp inside with less | rfl
            · have other : p ≠ q := fun same => alone n less (Nat.lt_succ_self n) (same ▸ core)
              rw [before.last i less p policy fun j after below =>
                alone j after (Nat.lt_succ_of_lt below)]
              exact congrArg some (Function.update_of_ne other ..).symm
            · obtain rfl : q = p := Option.some_inj.mp (core.symm.trans policy)
              have own : Function.update (c.unblank i g).governor q t q = t := Function.update_self ..
              rw [saved]
              exact congrArg some own.symm

/-! ## Off and on -/

/-- Two of the cores have the policy. -/
def Shared (c : Cpufreq) (n p : Nat) : Prop := ∃ j < n, c.policy j = some p ∧ c.Below j p

/-- A policy of some core has a last one. -/
theorem last_core (below : c.Below n p) : ∃ i < n, c.policy i = some p ∧
    ∀ j, i < j → j < n → c.policy j ≠ some p := by
  induction n with
  | zero =>
      obtain ⟨i, inside, -⟩ := below
      exact absurd inside (Nat.not_lt_zero i)
  | succ n ih =>
      by_cases own : c.policy n = some p
      · exact ⟨n, Nat.lt_succ_self n, own, fun j after before =>
          absurd after (Nat.not_lt_of_le (Nat.le_of_lt_succ before))⟩
      · obtain ⟨i, inside, core, alone⟩ :=
          ih (((below_succ n p).mp below).resolve_right own)
        refine ⟨i, Nat.lt_succ_of_lt inside, core, fun j after before => ?_⟩
        rcases Nat.lt_succ_iff_lt_or_eq.mp before with less | rfl
        · exact alone j after less
        · exact own

section Cycle

variable (names : ∀ p, c.Name (g.governor p)) (off : c.Name powersave)

include names off

/-- The screen goes off and comes back. -/
theorem cycle_governor (n p : Nat) :
    (c.Shared n p → (c.unblank n (c.blank n g)).governor p = powersave) ∧
      (¬c.Shared n p → (c.unblank n (c.blank n g)).governor p = g.governor p) := by
  have dark := blanked names off n
  have light := @unblanked c (c.blank n g) n fun i inside q core => by
    by_cases below : c.Below i q
    · exact ⟨powersave, dark.later i inside q core below, off⟩
    · exact ⟨g.governor q, dark.first i inside q core below, names q⟩
  by_cases below : c.Below n p
  · obtain ⟨i, inside, core, alone⟩ := last_core below
    have noted := light.last i inside p core alone
    constructor
    · rintro ⟨j, inside', core', earlier, before, core''⟩
      have again : c.Below i p := by
        by_cases less : i < j
        · exact absurd core' (alone j less inside')
        · exact ⟨earlier, Nat.lt_of_lt_of_le before (Nat.not_lt.mp less), core''⟩
      rw [dark.later i inside p core again] at noted
      exact (Option.some_inj.mp noted).symm
    · intro single
      rw [dark.first i inside p core fun again => single ⟨i, inside, core, again⟩] at noted
      exact (Option.some_inj.mp noted).symm
  · constructor
    · rintro ⟨j, inside, core, -⟩
      exact absurd ⟨j, inside, core⟩ below
    · exact fun _ => (light.kept p below).trans (dark.kept p below)

/-- What is left after any number of rounds: a policy that is shared stays with `powersave`. -/
theorem cycles_governor (ncpu : Int) (k p : Nat) :
    (c.Shared (cores ncpu) p → (c.cycles ncpu (k + 1) g).governor p = powersave) ∧
      (¬c.Shared (cores ncpu) p → (c.cycles ncpu (k + 1) g).governor p = g.governor p) := by
  induction k generalizing p with
  | zero => exact cycle_governor names off _ p
  | succ k ih =>
      have named (q : Nat) : c.Name ((c.cycles ncpu (k + 1) g).governor q) := by
        by_cases shared : c.Shared (cores ncpu) q
        · rw [(ih q).1 shared]
          exact off
        · rw [(ih q).2 shared]
          exact names q
      have once := cycle_governor named off (cores ncpu) p
      exact ⟨once.1, fun single => (once.2 single).trans ((ih p).2 single)⟩

/-- **A governor comes back only when no two cores share it.** However often the screen goes off
and comes back, a policy has its governor again exactly when at most one of the cores has it, or it
was `powersave` in the first place. -/
theorem restored_iff (ncpu : Int) (k p : Nat) :
    (c.cycles ncpu (k + 1) g).governor p = g.governor p ↔
      ¬c.Shared (cores ncpu) p ∨ g.governor p = powersave := by
  by_cases shared : c.Shared (cores ncpu) p
  · rw [(cycles_governor names off ncpu k p).1 shared]
    exact ⟨fun same => .inr same.symm, fun either => (either.resolve_left (absurd shared ·)).symm⟩
  · exact iff_of_true ((cycles_governor names off ncpu k p).2 shared) (.inl shared)

end Cycle

/-- Two clusters of four cores. -/
def twoClusters : Cpufreq where
  policy i := if i < 4 then some 0 else if i < 8 then some 4 else none
  known t := t = powersave ∨ t = txt "schedutil"

/-- `schedutil` is a governor of the kernel with the two clusters. -/
theorem schedutil_name : twoClusters.Name (txt "schedutil") :=
  ⟨by decide +kernel, by decide +kernel, by decide +kernel, by decide +kernel⟩

theorem powersave_name : twoClusters.Name powersave :=
  ⟨by decide +kernel, by decide +kernel, by decide +kernel, by decide +kernel⟩

/-- The governor of the first cluster does not come back. -/
theorem restored_iff_twoClusters :
    (twoClusters.cycles 8 1 ⟨fun _ => txt "schedutil", fun _ => none⟩).governor 0 = txt "schedutil" ↔
      ¬twoClusters.Shared (cores 8) 0 ∨ txt "schedutil" = powersave :=
  restored_iff (fun _ => schedutil_name) powersave_name 8 0 0

end Cpufreq

end Ginkgo
