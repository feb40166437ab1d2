import Ginkgo.Hud.Connect
import Ginkgo.Hud.Reports

/-!
# The end of a job

`Ginkgo.Hud.pollJob` collects the output of the running child and, when the child has
ended, acts on it according to the kind of the job and starts the next queued one. A
connect job is judged by `gw_on_connect_job`; a join it reports as successful waits for
the reports to confirm it (`Ginkgo.Hud.maybeConfirmJoin`).
-/

namespace Ginkgo

open CText

/-- How a child ended. -/
inductive Exit where
  | status (code : Nat)
  | signal
  deriving DecidableEq

/-- `WIFEXITED(st) ? WEXITSTATUS(st) : 1`. -/
def Exit.rc : Exit → Nat
  | .status code => code
  | .signal => 1

/-- What `poll_job` gets from the system: the bytes of the first read, how the child
ended if it has, the bytes read after that, the clock and the answers to the starts. -/
structure Poll where
  first : Text := []
  exit : Option Exit
  rest : Text := []
  now : Nat := 0
  retry : Sys
  kick : Sys

/-- The limit of the wait for a confirmation, in nanoseconds. -/
def joinWaitLimit : Nat := 12000000000

namespace Hud

/-- The wait for a confirmation is over. -/
def joinOver (failed : Bool) (h : Hud) : Hud :=
  { h with
    join.joinWaitLive := false
    join.connecting := false
    wifi.busy := false
    join.connectFail := failed }

/-- The join is up. -/
def joinConfirmed (h : Hud) : Hud :=
  let h := h.joinOver false
  let h := h.markApActive h.bufs.connectSsid.text
  let h := { h with ui.sheetTgt := .none }
  { h.setStatus (h.T "已连接" "Connected") with want.scan := true }

/-- The join was not confirmed in time. -/
def joinTimedOut (h : Hud) : Hud :=
  let h := h.joinOver true
  let kind := if h.join.lastFailKind = .unknown then .timeout else h.join.lastFailKind
  let h := { h with join.lastFailKind := kind }
  let h := h.fillFailStatus kind
    (if gwJoinFellBack h.wifi.connected h.wifi.ssid.text h.bufs.connectSsid.text then
      h.wifi.ssid.text else [])
  if h.ui.sheetTgt = .none then { h with ui.sheetTgt := .detail } else h

/-- `maybe_confirm_join` -/
def maybeConfirmJoin (now : Nat) (h : Hud) : Hud :=
  if h.join.joinWaitLive = false ∨ h.bufs.connectSsid.text = [] then h
  else if gwJoinConfirmOk h.wifi.connected h.wifi.ssid.text h.bufs.connectSsid.text then
    h.joinConfirmed
  else
    let timedOut : Bool := h.join.tJoinWait ≠ 0 ∧ joinWaitLimit < now - h.join.tJoinWait
    if gwJoinConfirmFail timedOut h.wifi.connected h.wifi.ssid.text h.bufs.connectSsid.text = false
    then h
    else h.joinTimedOut

/-! ## The kinds of job -/

/-- The end of the radio job asks for the reports. -/
def radioDone (h : Hud) : Hud := { h with want.info := true, want.scan := true }

/-- The end of a device list. -/
def infoDone (now : Nat) (out : Text) (h : Hud) : Hud :=
  let h := h.parseInfo now out
  let h := if h.wifi.connected ∨ h.wifi.busy ∨ h.join.joinWaitLive then
      { h with want.link := true } else h
  h.maybeConfirmJoin now

/-- The end of a scan. -/
def scanDone (now : Nat) (out : Text) (h : Hud) : Hud :=
  let h := h.parseScan out
  let h :=
    if h.scan.aps = [] ∧ h.ui.statusLine.text = [] ∧ h.join.connectFail = false ∧
        h.join.joinWaitLive = false then
      h.setStatus (h.T "没有扫描到网络，请再点刷新" "No networks found, tap Refresh")
    else if h.scan.aps ≠ [] ∧ h.join.connectFail = false ∧ h.join.joinWaitLive = false then
      h.setStatus (h.T "找到 " "Found " ++ decimal h.scan.aps.length ++ h.T " 个网络" " networks")
    else h
  h.maybeConfirmJoin now

/-- The end of a link report. -/
def linkDone (now : Nat) (out : Text) (h : Hud) : Hud :=
  let h := (h.parseLink out).maybeConfirmJoin now
  if h.join.joinWaitLive then { h with want.info := true } else h

/-- What `gw_on_connect_job` is given. -/
def connectIn (rc : Nat) (out : Text) (h : Hud) : ConnectIn where
  rc := rc
  out := out
  connected := h.wifi.connected
  liveSsid := h.wifi.ssid.text
  connectSsid := h.bufs.connectSsid.text
  leftHome := h.ui.sheetTgt = .none
  wantConnect := h.join.wantConnect
  pendSsid := h.bufs.pendSsid.text
  pendHasPass := h.bufs.pendPass.text ≠ []
  usedPass := h.join.connectNeedPass
  haveSessionPsk :=
    gwJoinUseSessionPsk h.bufs.connectSsid.text h.bufs.knownPskSsid.text h.bufs.knownPsk.text

/-- Select the network of the join. -/
def selectJoined (h : Hud) : Hud :=
  if h.bufs.connectSsid.text ≠ [] then
    { h with scan.selectedSsid := .print 96 h.bufs.connectSsid.text }.syncSelectedAp
  else h

/-- The script reports success: wait for the reports to confirm it. -/
def awaitLive (now : Nat) (h : Hud) : Hud :=
  let h := { h with
    join.connectFail := false
    join.joinWaitLive := true
    join.tJoinWait := now
    join.connecting := true
    wifi.busy := true
    join.wantConnect :=
      if gwDropPending true h.bufs.connectSsid.text h.bufs.pendSsid.text then false
      else h.join.wantConnect }
  let h := h.setStatus (h.T "正在确认连接…" "Confirming…")
  { h with
    ui.sheetTgt := if h.ui.sheetTgt = .pass then .detail else h.ui.sheetTgt
    want.info := true
    want.link := true }

/-- A success is waited for, and may be confirmed at once. -/
def connectSucceeded (now : Nat) (h : Hud) : Hud := (h.awaitLive now).maybeConfirmJoin now

/-- Before the retry, an empty probe queued for the same network is dropped. -/
def dropProbe (h : Hud) : Hud :=
  { h with
    join.connectFail := false
    join.wantConnect :=
      if gwSsidEq h.bufs.pendSsid.text h.bufs.connectSsid.text ∧ h.bufs.pendPass.text = [] then
        false else h.join.wantConnect }

/-- The join is tried again with the password that is remembered. -/
def connectRetryPsk (sys : Sys) (h : Hud) : Hud :=
  let h := h.dropProbe
  h.wifiConnect (.var .connectSsid) (.var .knownPsk) h.pickedSec sys

/-- The password was wrong: it is dropped, and the sheet opens for another. -/
def connectWrongPass (h : Hud) : Hud :=
  let h := h.forgetPsk h.bufs.connectSsid.text
  let h := { h with join.connectFail := true }
  let h := h.fillFailStatus .wrongPw []
  let h := h.selectJoined
  { h with ui.sheetTgt := .pass }

/-- The network needs a password: the sheet opens. -/
def connectOpenPass (out : Text) (h : Hud) : Hud :=
  let h := { h with join.connectFail := h.join.connectNeedPass }
  let h := h.setConnectStatus (if out ≠ [] then out else txt "NEED_PASSWORD")
  let h := h.selectJoined
  let h := { h with ui.sheetTgt := .pass }
  if h.join.connectNeedPass = false ∧ h.osk.pwLen = 0 then
    { h with
      osk.pwLen := 0
      osk.password := h.osk.password.store 0 0
      osk.shiftOn := false
      osk.symOn := false
      osk.oskSym2 := false
      osk.typed := [] }
  else h

/-- Say why the join failed and which network the radio is back on. -/
def showFailure (h : Hud) : Hud :=
  let h := { h with join.connectFail := true }
  h.fillFailStatus h.join.lastFailKind
    (if gwJoinFellBack h.wifi.connected h.wifi.ssid.text h.bufs.connectSsid.text then
      h.wifi.ssid.text else [])

/-- The join has failed: the network's own sheet opens, unless the user has gone home. -/
def connectFailed (leftHome : Bool) (h : Hud) : Hud :=
  let h := h.showFailure
  if leftHome then h
  else { h with ui.sheetTgt := if h.join.connectNeedPass then .pass else .detail }

/-- What every end of a connect job does first. -/
def endConnect (out : Text) (h : Hud) : Hud :=
  { h with
    join.lastFailRaw := .print 192 out
    join.lastFailKind := gwClassifyFail out
    join.connecting := false
    wifi.busy := false }

/-- The end of a connect job. -/
def connectDone (now : Nat) (retry : Sys) (rc : Nat) (out : Text) (h : Hud) : Hud :=
  let job := h.connectIn rc out
  let h := h.endConnect out
  match gwOnConnectJob job with
  | .success => h.connectSucceeded now
  | .retryPsk => h.connectRetryPsk retry
  | .wrongPass => h.connectWrongPass
  | .openPass => h.connectOpenPass out
  | .waitPending => { h with join.connectFail := false }
  | .fail => h.connectFailed job.leftHome

/-- Stop showing the live network when it is the forgotten one. -/
def dropForgotten (forgot selected : Text) (h : Hud) : Hud :=
  if gwSsidEq h.wifi.ssid.text selected || gwSsidEq h.wifi.ssid.text forgot ||
      gwForgetHoldConnected forgot true h.wifi.ssid.text then
    { h with
      wifi.connected := false
      wifi.ssid := .empty 96
      wifi.ip := .empty 64
      wifi.gw := .empty 64
      tAssoc := 0 }
  else h

/-- The end of a forget job. -/
def forgetDone (rc : Nat) (out : Text) (h : Hud) : Hud :=
  let h := { h with forget.forgetting := false }
  if rc = 0 then
    let forgot := h.forget.forgetSsid.text
    let selected := h.scan.selectedSsid.text
    let h := h.markApInactive (if forgot ≠ [] then forgot else selected)
    let h := (h.dropForgotten forgot selected).forgetPsk selected
    let h := h.setStatus (h.T "已忘记此网络" "Forgot this network")
    { h with ui.sheetTgt := .list, want.info := true, want.scan := true }
  else
    let h := h.setConnectStatus (if out ≠ [] then out else h.T "忘记失败" "Forget failed")
    { h with ui.sheetTgt := .detail }

/-- A forgotten live network is no longer shown. -/
theorem dropForgotten_writes (h : Hud) (forgot selected : Text) :
    ∃ wifi tAssoc, h.dropForgotten forgot selected = { h with wifi := wifi, tAssoc := tAssoc } ∧
      (wifi.ssid = h.wifi.ssid ∨ wifi.ssid = .empty 96) := by
  unfold dropForgotten
  split
  · exact ⟨_, _, rfl, .inr rfl⟩
  · exact ⟨_, _, rfl, .inl rfl⟩

/-- **What the end of a forget job writes**: the flag is taken back, the rows of a name may be
marked inactive, and the live name and the remembered password may be dropped. -/
theorem forgetDone_writes (h : Hud) (rc : Nat) (out : Text) :
    ∃ wifi tAssoc aps active ssid psk sheet line want,
      h.forgetDone rc out = { h with
        forget.forgetting := false
        wifi := wifi
        tAssoc := tAssoc
        scan.aps := aps
        scan.selectedActive := active
        bufs.knownPskSsid := ssid
        bufs.knownPsk := psk
        ui.sheetTgt := sheet
        ui.statusLine := line
        want := want } ∧
      (wifi.ssid = h.wifi.ssid ∨ wifi.ssid = .empty 96) ∧
      (aps = h.scan.aps ∨ ∃ name, aps = (h.markApInactive name).scan.aps) ∧
      (ssid = h.bufs.knownPskSsid ∧ psk = h.bufs.knownPsk ∨ psk = .empty 64) := by
  by_cases ended : rc = 0
  · let forgot := h.forget.forgetSsid.text
    let selected := h.scan.selectedSsid.text
    let name := if forgot ≠ [] then forgot else selected
    let marked := { h with forget.forgetting := false }.markApInactive name
    have done : h.forgetDone rc out =
        let g := (marked.dropForgotten forgot selected).forgetPsk selected
        { g.setStatus (g.T "已忘记此网络" "Forgot this network") with
          ui.sheetTgt := .list, want.info := true, want.scan := true } := if_pos ended
    obtain ⟨wifi, tAssoc, dropped, live⟩ := marked.dropForgotten_writes forgot selected
    rw [done, dropped]
    unfold forgetPsk
    split
    · exact ⟨_, _, _, _, _, _, _, _, _, rfl, live, .inr ⟨name, rfl⟩, .inl ⟨rfl, rfl⟩⟩
    · exact ⟨_, _, _, _, _, _, _, _, _, rfl, live, .inr ⟨name, rfl⟩, .inr rfl⟩
  · let freed := { h with forget.forgetting := false }
    let raw := if out ≠ [] then out else freed.T "忘记失败" "Forget failed"
    have failed : h.forgetDone rc out =
        { freed.setConnectStatus raw with ui.sheetTgt := .detail } := if_neg ended
    obtain ⟨line, told⟩ := freed.setConnectStatus_line raw
    rw [failed, told]
    exact ⟨_, _, _, _, _, _, _, _, _, rfl, .inl rfl, .inl rfl, .inl ⟨rfl, rfl⟩⟩

/-- Append what a read returned; a full array reads nothing. -/
def readJob (bytes : Text) (h : Hud) : Hud :=
  { h with job.buf := .print 16384 (h.job.buf.text ++ bytes) }

/-- Act on an ended child. -/
def jobDone (poll : Poll) (exit : Exit) (kind : JobKind) (out : Text) (h : Hud) : Hud :=
  match kind with
  | .radio => h.radioDone
  | .info => h.infoDone poll.now out
  | .scan => h.scanDone poll.now out
  | .connect => h.connectDone poll.now poll.retry exit.rc out
  | .link => h.linkDone poll.now out
  | .forget => h.forgetDone exit.rc out

/-- `poll_job` -/
def pollJob (poll : Poll) (h : Hud) : Hud :=
  if h.job.pid = none then h
  else
    let h := h.readJob poll.first
    match poll.exit with
    | none => h
    | some exit =>
        let h := h.readJob poll.rest
        (h.closeJob.jobDone poll exit h.job.kind (cstr h.job.buf.text)).kickPending poll.kick

end Hud

end Ginkgo
