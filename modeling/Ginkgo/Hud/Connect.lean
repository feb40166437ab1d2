import Ginkgo.Hud.Job
import Ginkgo.Hud.Selection

/-!
# Starting jobs

The functions that start a child or queue a request for one. `Ginkgo.Hud.wifiConnect`
receives pointers: it overwrites `connect_ssid` and the queue before it reads its
arguments for the script, so what it passes on depends on where they point.
-/

namespace Ginkgo

open CText

/-- What the system answers when a job is started: the result of the start and
whether `iw` is installed. -/
structure Sys where
  spawn : Spawn
  iw : Bool := true
  deriving DecidableEq

/-- The arguments of a join, as `wifi_connect` builds them. -/
def connectArgv (ssid : Buf 96) (pass : Buf 64) (iface : Buf 32) (sec : Buf 40) : List Text :=
  [txt "/bin/sh", txt "/usr/local/sbin/ginkgo-wifi-connect.sh",
    ssid.text, pass.text, iface.text, sec.text]

/-- The arguments of a forget, as `wifi_forget` builds them. -/
def forgetArgv (ssid : Buf 96) (iface : Buf 32) : List Text :=
  [txt "/bin/sh", txt "/usr/local/sbin/ginkgo-wifi-connect.sh", txt "forget",
    ssid.text, iface.text]

namespace Hud

/-- Start a report; when the start fails, ask for it again later. -/
def startReport (kind : JobKind) (argv : List Text) (retry : Hud → Hud) (sys : Sys) (h : Hud) :
    Hud :=
  match startNmcli kind argv sys.spawn h with
  | (h, started) => if started then h else retry h

/-- `wifi_radio` -/
def wifiRadio (sys : Sys) (h : Hud) : Hud :=
  h.startReport .radio [txt "nmcli", txt "-c", txt "no", txt "radio", txt "wifi", txt "on"]
    (fun h => { h with want.info := true }) sys

/-- `wifi_info` -/
def wifiInfo (sys : Sys) (h : Hud) : Hud :=
  h.startReport .info
    [txt "nmcli", txt "-c", txt "no", txt "-t", txt "-f", txt "DEVICE,TYPE,STATE,CONNECTION",
      txt "device"]
    (fun h => { h with want.info := true }) sys

/-- `wifi_scan` -/
def wifiScan (sys : Sys) (h : Hud) : Hud :=
  h.startReport .scan
    [txt "nmcli", txt "-c", txt "no", txt "-w", txt "25", txt "-t", txt "-f",
      txt "SSID,SIGNAL,SECURITY,FREQ,ACTIVE", txt "device", txt "wifi", txt "list",
      txt "--rescan", txt "yes"]
    (fun h => { h with want.scan := true }) sys

/-- `wifi_link` -/
def wifiLink (sys : Sys) (h : Hud) : Hud :=
  h.startReport .link
    (if h.wifi.iface.text ≠ [] ∧ sys.iw then
      [txt "iw", txt "dev", h.wifi.iface.text, txt "link"]
    else
      [txt "nmcli", txt "-c", txt "no", txt "-t", txt "-f", txt "IN-USE,SIGNAL,FREQ,SSID",
        txt "device", txt "wifi", txt "list", txt "--rescan", txt "no"])
    (fun h => { h with want.link := true }) sys

/-- `remember_psk` -/
def rememberPsk (ssid pass : Text) (h : Hud) : Hud :=
  if ssid = [] ∨ pass = [] then h
  else { h with bufs.knownPskSsid := .print 96 ssid, bufs.knownPsk := .print 64 pass }

/-- `forget_psk` -/
def forgetPsk (ssid : Text) (h : Hud) : Hud :=
  if gwSsidEq h.bufs.knownPskSsid.text ssid = false then h
  else { h with bufs.knownPskSsid := .empty 96, bufs.knownPsk := .empty 64 }

/-- The flags that every join sets first. -/
def joinFlags (h : Hud) : Hud :=
  { h with
    forget.forgetSsid := .empty 96
    join.connecting := true
    join.connectFail := false
    join.joinWaitLive := false
    wifi.busy := true }

/-- Put a join into the queue. -/
def queueConnect (ssid pass sec : Arg) (h : Hud) : Hud :=
  let h := h.snprintf .pendSsid ssid
  let h := h.snprintf .pendPass pass
  let h := h.snprintf .pendSec sec
  { h with join.wantConnect := true }

/-- Fill the static arrays that hold the arguments of the script. -/
def fillArgv (ssid pass sec : Arg) (h : Hud) : Hud :=
  let h := h.snprintf .s1 ssid
  let h := h.snprintf .s2 pass
  let h := h.snprintf .s3 (.var .iface)
  h.snprintf .s4 sec

/-- The part of `wifi_connect` before the slot is looked at. -/
def beginConnect (ssid : Arg) (h : Hud) : Hud :=
  let h := h.joinFlags
  let h := h.snprintf .connectSsid ssid
  let h := h.setStatus (h.T "正在连接…" "Connecting…")
  if h.job.pid ≠ none ∧ h.job.kind ≠ .connect then h.abortJob else h

/-- `wifi_connect` -/
def wifiConnect (ssid pass sec : Arg) (sys : Sys) (h : Hud) : Hud :=
  if h.load ssid = [] then h
  else
    let call (outcome : ConnectOutcome) : Obs := .connect
      { ssid, pass, sec, outcome
        ssidText := h.load ssid, passText := h.load pass, secText := h.load sec }
    let h := h.beginConnect ssid
    if h.job.pid ≠ none then
      if gwKeepPendingPsk (h.load pass = []) h.join.wantConnect h.bufs.pendSsid.text
          h.bufs.pendPass.text (h.load ssid) then
        h.observe (call .kept)
      else
        let h := h.queueConnect ssid pass sec
        h.observe (call (.queued h.bufs.pendSsid.text h.bufs.pendPass.text h.bufs.pendSec.text))
    else
      let h := h.fillArgv ssid pass sec
      let h := h.observe (call (.argv h.bufs.s1.text h.bufs.s2.text h.bufs.s4.text))
      (startNmcli .connect (connectArgv h.bufs.s1 h.bufs.s2 h.bufs.s3 h.bufs.s4) sys.spawn h).1

/-- `wifi_submit_pass` -/
def wifiSubmitPass (sys : Sys) (h : Hud) : Hud :=
  let ssid := h.gwPassSsid
  let sec := h.pickedSec
  if h.load ssid = [] ∨ h.forget.forgetting then h
  else if wifiSecEnterprise (h.load sec) then
    { h with join.connectFail := true }.setStatus
      (h.T "暂不支持企业级网络" "Enterprise Wi-Fi is not supported")
  else if h.osk.pwLen < 8 then
    { h with join.connectFail := true }.setStatus
      (h.T "密码至少 8 位" "Password needs 8+ characters")
  else
    let h := { h with join.connectNeedPass := true }
    let h := h.rememberPsk (h.load ssid) h.osk.password.text
    if h.join.connecting then h.queueConnect ssid (.var .password) sec
    else h.wifiConnect ssid (.var .password) sec sys

/-- The part of `wifi_forget` before the slot is looked at. -/
def beginForget (ssid : Text) (h : Hud) : Hud :=
  let h := { h with
    join.joinWaitLive := false
    join.connecting := false
    wifi.busy := false
    join.wantConnect := false
    want.scan := false
    want.info := false
    want.link := false
    forget.forgetting := true
    forget.forgetSsid := .print 96 ssid }
  let h := h.markApInactive ssid
  let h := if gwSsidEq h.wifi.ssid.text ssid then h.clearLive else h
  h.setStatus (h.T "正在忘记…" "Forgetting…")

/-- `wifi_forget` -/
def wifiForget (ssid : Text) (sys : Sys) (h : Hud) : Hud :=
  if ssid = [] then h
  else if gwForgetCanStart h.forget.forgetting (h.job.pid ≠ none) (h.job.kind = .forget) = false then
    h
  else
    let h := h.beginForget ssid
    let h := if h.job.pid ≠ none ∧ h.job.kind ≠ .forget then h.abortJob else h
    if h.job.pid ≠ none then h
    else match startNmcli .forget (forgetArgv (.print 96 ssid) (.print 32 h.wifi.iface.text))
        sys.spawn h with
      | (h, started) => if started then h else { h with forget.forgetting := false }

/-- `wifi_join_picked` -/
def wifiJoinPicked (sys : Sys) (h : Hud) : Hud :=
  let ssid := h.scan.selectedSsid.text
  let sec := h.pickedSec
  if ssid = [] ∨ h.join.connecting ∨ h.forget.forgetting then h
  else if gwAllowJoin h.join.connecting h.forget.forgetting (h.apIsCurrent ssid) = false then h
  else if wifiSecEnterprise (h.load sec) then
    h.setStatus (h.T "暂不支持企业级网络" "Enterprise Wi-Fi is not supported")
  else if gwJoinUseSessionPsk ssid h.bufs.knownPskSsid.text h.bufs.knownPsk.text then
    { h with join.connectNeedPass := true }.wifiConnect (.var .selectedSsid) (.var .knownPsk) sec sys
  else
    { h with join.connectNeedPass := false }.wifiConnect (.var .selectedSsid) (.lit []) sec sys

/-- Start the most urgent of the queued requests when the slot is free. -/
def kickPending (sys : Sys) (h : Hud) : Hud :=
  if h.job.pid ≠ none then h
  else if h.forget.wantForget then
    { h with forget.wantForget := false }.wifiForget h.forget.pendForget.text sys
  else if h.join.wantConnect then
    { h with join.wantConnect := false }.wifiConnect (.var .pendSsid) (.var .pendPass)
      (.var .pendSec) sys
  else if h.want.scan then { h with want.scan := false }.wifiScan sys
  else if h.want.link then { h with want.link := false }.wifiLink sys
  else if h.want.info then { h with want.info := false }.wifiInfo sys
  else h

end Hud

end Ginkgo
