import Ginkgo.Hud.State

/-!
# The job slot

One child process runs at a time. `Ginkgo.Hud.startNmcli` starts it; the start fails
when a child is running, when `nmcli` is missing and when `pipe` or `fork` fails.
-/

namespace Ginkgo

open CText

/-- What the system answers when a child is to be started. -/
inductive Spawn where
  | noNmcli
  | noPipe
  | noFork
  | child (pid : Nat)
  deriving DecidableEq

namespace Hud

/-- The slot is free again. -/
def closeJob (h : Hud) : Hud :=
  { h with job.pid := none, job.argv := [], job.buf := .empty 16384 }

/-- Kill the running child and wait for it. -/
def abortJob (h : Hud) : Hud := if h.job.pid = none then h else h.closeJob

/-- Start a child; whether it was started. -/
def startNmcli (kind : JobKind) (argv : List Text) (spawn : Spawn) (h : Hud) : Hud × Bool :=
  if h.job.pid ≠ none then (h.observe (.start kind argv false), false)
  else match spawn with
    | .noNmcli =>
        ((h.setStatus (h.T "未找到 nmcli" "nmcli not found")).observe (.start kind argv false), false)
    | .noPipe => (h.observe (.start kind argv false), false)
    | .noFork => ({ h with job.pid := none }.observe (.start kind argv false), false)
    | .child pid =>
        ({ h with job := { pid := some pid, kind := kind, argv := argv } }.observe
          (.start kind argv true), true)

/-- A connect job is in flight. -/
def connectInFlight (h : Hud) : Prop := h.job.pid ≠ none ∧ h.job.kind = .connect

instance (h : Hud) : Decidable h.connectInFlight := inferInstanceAs (Decidable (_ ∧ _))

/-- A forget job is in flight. -/
def forgetInFlight (h : Hud) : Prop := h.job.pid ≠ none ∧ h.job.kind = .forget

instance (h : Hud) : Decidable h.forgetInFlight := inferInstanceAs (Decidable (_ ∧ _))

/-- What a start does: a child runs and nothing else but the history changes, or the
start fails and only the message and the history can change. -/
theorem startNmcli_cases (kind : JobKind) (argv : List Text) (spawn : Spawn) (h : Hud) :
    (∃ pid, h.job.pid = none ∧ startNmcli kind argv spawn h =
        ({ h with
            job := { pid := some pid, kind := kind, argv := argv }
            trace := .start kind argv true :: h.trace }, true)) ∨
      ∃ line, startNmcli kind argv spawn h =
        ({ h with ui.statusLine := line, trace := .start kind argv false :: h.trace }, false) := by
  unfold startNmcli
  by_cases free : h.job.pid = none
  · rw [if_neg (not_not.mpr free)]
    cases spawn with
    | noNmcli => exact .inr ⟨_, rfl⟩
    | noPipe => exact .inr ⟨h.ui.statusLine, rfl⟩
    | noFork =>
        refine .inr ⟨h.ui.statusLine, ?_⟩
        obtain ⟨_, _, _, _, _, job, _, _, _, _, _, _, _, _, _⟩ := h
        cases job
        simp only at free
        subst free
        rfl
    | child pid => exact .inl ⟨pid, free, rfl⟩
  · rw [if_pos free]
    exact .inr ⟨h.ui.statusLine, rfl⟩

/-- A start that fails says so in the history. -/
theorem startNmcli_snd {kind : JobKind} {argv : List Text} {spawn : Spawn} {h : Hud} :
    (startNmcli kind argv spawn h).1.trace =
      .start kind argv (startNmcli kind argv spawn h).2 :: h.trace := by
  rcases startNmcli_cases kind argv spawn h with ⟨pid, -, same⟩ | ⟨line, same⟩ <;> rw [same]

/-- After an abort no child runs. -/
theorem abortJob_pid (h : Hud) : h.abortJob.job.pid = none := by
  unfold abortJob
  split
  · assumption
  · rfl

end Hud

end Ginkgo
