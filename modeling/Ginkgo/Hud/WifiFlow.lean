import Ginkgo.CText.Basic

/-!
# The pure Wi-Fi flow

The decision functions of `ginkgo-wifi-flow.h`. The header's null checks are
left out: every caller passes an array or a literal.
-/

namespace Ginkgo

open CText

/-- The decisions taken when a connect job has ended. -/
inductive ConnectAct where
  | success
  | openPass
  | wrongPass
  | retryPsk
  | waitPending
  | fail
  deriving DecidableEq

/-- The reasons a failed join is reported with. -/
inductive FailKind where
  | unknown
  | wrongPw
  | needPw
  | notFound
  | timeout
  | noDevice
  | dhcp
  deriving DecidableEq

/-- What `gw_on_connect_job` reads. -/
structure ConnectIn where
  rc : Nat
  out : Text
  connected : Bool
  liveSsid : Text
  connectSsid : Text
  leftHome : Bool
  wantConnect : Bool
  pendSsid : Text
  pendHasPass : Bool
  usedPass : Bool
  haveSessionPsk : Bool

/-- Equality of two names, neither of them empty. -/
def gwSsidEq (a b : Text) : Bool := a ≠ [] ∧ b ≠ [] ∧ a = b

/-- `gw_already_on` -/
def gwAlreadyOn (connected : Bool) (live want : Text) : Bool := connected && gwSsidEq live want

/-- `gw_display_ssid` -/
def gwDisplaySsid (joining : Bool) (want live : Text) : Text :=
  if joining ∧ want ≠ [] then want
  else if live ≠ [] then live
  else []

/-- `gw_join_fell_back` -/
def gwJoinFellBack (connected : Bool) (live want : Text) : Bool :=
  connected ∧ live ≠ [] ∧ want ≠ [] ∧ gwSsidEq live want = false

/-- `gw_join_confirm_ok` -/
def gwJoinConfirmOk (connected : Bool) (live want : Text) : Bool := gwAlreadyOn connected live want

/-- `gw_join_confirm_fail` -/
def gwJoinConfirmFail (timedOut connected : Bool) (live want : Text) : Bool :=
  if timedOut = false then false else !gwAlreadyOn connected live want

/-- After a forget, a report that does not name another network keeps the hold. -/
def gwForgetHoldConnected (forgotten : Text) (nmUp : Bool) (live : Text) : Bool :=
  if forgotten = [] then false
  else if nmUp = false then false
  else live = [] ∨ gwSsidEq forgotten live

/-- `gw_allow_join` -/
def gwAllowJoin (connecting forgetting alreadyOn : Bool) : Bool :=
  !connecting && !forgetting && !alreadyOn

/-- `gw_forget_can_start` -/
def gwForgetCanStart (_forgetting jobRunning jobIsForget : Bool) : Bool :=
  if jobRunning ∧ jobIsForget then false
  else if jobRunning = false then true
  else !jobIsForget

/-- `gw_drop_pending` -/
def gwDropPending (ok : Bool) (doneSsid pendSsid : Text) : Bool := ok && gwSsidEq doneSsid pendSsid

/-- `gw_job_ok` -/
def gwJobOk (rc : Nat) (out : Text) : Bool :=
  if rc = 0 then true else has out (txt "已连接")

/-- `gw_job_need_pw` -/
def gwJobNeedPw (rc : Nat) (out : Text) : Bool :=
  if gwJobOk rc out then false
  else if rc = 3 then false
  else if rc = 2 then true
  else has out (txt "NEED_PASSWORD")

/-- `gw_job_wrong_pw` -/
def gwJobWrongPw (rc : Nat) (out : Text) : Bool :=
  if gwJobOk rc out then false
  else if rc = 3 then true
  else has out (txt "密码不对") || has out (txt "WRONG_PASSWORD") || has out (txt "psk mismatch")

/-- `gw_classify_fail` -/
def gwClassifyFail (out : Text) : FailKind :=
  if out = [] then .unknown
  else if has out (txt "已连接") then .unknown
  else if has out (txt "密码不对") || has out (txt "WRONG_PASSWORD") ||
      has out (txt "psk mismatch") || has out (txt "4-way handshake") ||
      has out (txt "handshake timeout") || has out (txt "bad password") then .wrongPw
  else if has out (txt "NEED_PASSWORD") then .needPw
  else if has out (txt "secrets were required") || has out (txt "Secrets were required") then
    .wrongPw
  else if has out (txt "could not be found") ||
      has out (txt "The Wi-Fi network could not be found") || has out (txt "找不到") then .notFound
  else if has out (txt "Timeout expired") || has out (txt "timeout expired") ||
      has out (txt "连接超时") then .timeout
  else if has out (txt "No suitable device") || has out (txt "mismatching interface") ||
      has out (txt "网卡不匹配") then .noDevice
  else if has out (txt "IP configuration") || has out (txt "dhcp") ||
      has out (txt "没拿到地址") then .dhcp
  else .unknown

/-- `gw_open_pass` -/
def gwOpenPass (needPw alreadyOn leftHome pendingHasPass : Bool) : Bool :=
  if needPw = false ∨ alreadyOn ∨ leftHome then false
  else if pendingHasPass then false
  else true

/-- Keep a queued password rather than replace it by an empty probe of the same name. -/
def gwKeepPendingPsk (queuingEmpty wantConnect : Bool) (pendSsid pendPass ssid : Text) : Bool :=
  queuingEmpty ∧ wantConnect ∧ pendPass ≠ [] ∧ gwSsidEq pendSsid ssid

/-- `gw_join_use_session_psk` -/
def gwJoinUseSessionPsk (ssid knownSsid knownPsk : Text) : Bool :=
  gwSsidEq ssid knownSsid ∧ knownPsk ≠ []

/-- The decision after a connect job. -/
def gwOnConnectJob (job : ConnectIn) : ConnectAct :=
  let already := gwAlreadyOn job.connected job.liveSsid job.connectSsid
  let needPw := gwJobNeedPw job.rc job.out
  let wrong := gwJobWrongPw job.rc job.out
  let pendPw := job.wantConnect && job.pendHasPass && gwSsidEq job.pendSsid job.connectSsid
  if gwJobOk job.rc job.out || ((needPw || wrong) && already) then .success
  else if (needPw || wrong) && pendPw then .waitPending
  else if needPw && !wrong && !job.usedPass && job.haveSessionPsk then .retryPsk
  else if wrong || (job.usedPass && needPw) then .wrongPass
  else if gwOpenPass needPw already job.leftHome false then .openPass
  else .fail

/-- Two names are equal when they are one name that is not empty. -/
theorem gwSsidEq_iff {a b : Text} : gwSsidEq a b ↔ a ≠ [] ∧ a = b := by
  simp only [gwSsidEq, decide_eq_true_eq]
  constructor
  · rintro ⟨nonempty, -, same⟩
    exact ⟨nonempty, same⟩
  · rintro ⟨nonempty, rfl⟩
    exact ⟨nonempty, nonempty, rfl⟩

@[simp] theorem gwSsidEq_nil_left (b : Text) : gwSsidEq [] b = false := by simp [gwSsidEq]

@[simp] theorem gwSsidEq_nil_right (a : Text) : gwSsidEq a [] = false := by simp [gwSsidEq]

/-- A job waits for the pending request only when that request is for the joined network. -/
theorem gwOnConnectJob_waitPending {job : ConnectIn} (waits : gwOnConnectJob job = .waitPending) :
    job.wantConnect ∧ gwSsidEq job.pendSsid job.connectSsid := by
  unfold gwOnConnectJob at waits
  simp only at waits
  split at waits
  · cases waits
  · split at waits
    · next pending =>
        simp only [Bool.and_eq_true] at pending
        exact ⟨pending.2.1.1, pending.2.2⟩
    · split at waits
      · cases waits
      · split at waits
        · cases waits
        · split at waits <;> cases waits

/-- A join is retried only when it has been given no password and one is remembered for its
network. -/
theorem gwOnConnectJob_retries {job : ConnectIn} (retries : gwOnConnectJob job = .retryPsk) :
    job.usedPass = false ∧ job.haveSessionPsk := by
  unfold gwOnConnectJob at retries
  simp only at retries
  split at retries
  · cases retries
  · split at retries
    · cases retries
    · split at retries
      · next retrying =>
          simp only [Bool.and_eq_true, Bool.not_eq_true'] at retrying
          exact ⟨retrying.1.2, retrying.2⟩
      · split at retries
        · cases retries
        · split at retries <;> cases retries

/-- What is retried has a remembered password. -/
theorem gwOnConnectJob_retryPsk {job : ConnectIn} (retries : gwOnConnectJob job = .retryPsk) :
    job.haveSessionPsk := (gwOnConnectJob_retries retries).2

end Ginkgo
