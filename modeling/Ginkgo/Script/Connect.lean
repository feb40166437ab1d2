import Ginkgo.Script.Arguments
import Ginkgo.Script.Commands

/-!
# The connect script

`ginkgo-wifi-connect.sh` from its first check to its last `exit`, as a session over the commands of
`Ginkgo.Script.Call`. The functions stand in the order of the script and under its names.
`GEMINI_WIFI_WAIT` is `tries`, and every end of the script is an `exit`.
-/

namespace Ginkgo

open CText Calls

namespace Script.Connect

/-- `SSID`, `PASS`, `IFACE` and `SEC`. -/
structure Wanted where
  ssid : Text
  pass : Text
  iface : Text
  sec : Text
  deriving DecidableEq

variable (host : Host) (tries : Nat) (want : Wanted)

/-- The commands that come before the attempt file is made. -/
def setup : Sh Unit := do
  let _ ← quiet .radioOn
  let _ ← quiet .networkingOn
  if want.iface ≠ [] then do
    let _ ← quiet (.setManaged want.iface)
    let _ ← quiet (.setAutoconnect want.iface)
  else pure ()

/-- `is_open` -/
def isOpen : Bool :=
  want.sec = [] ∨ want.sec = txt "--" ∨ want.sec = txt "none" ∨ want.sec = txt "None" ∨
    want.sec = txt "OPEN" ∨ want.sec = txt "Open"

/-- `is_enterprise` -/
def isEnterprise : Bool :=
  has want.sec (txt "802.1") || has want.sec (txt "EAP") || has want.sec (txt "Enterprise") ||
    has want.sec (txt "enterprise")

/-- `key_mgmt` -/
def keyMgmt : Text :=
  if has want.sec (txt "SAE") || has want.sec (txt "WPA3") then
    if has want.sec (txt "WPA2") || has want.sec (txt "WPA1") || has want.sec (txt "PSK") then
      txt "wpa-psk"
    else txt "sae"
  else txt "wpa-psk"

/-- The profiles whose stored SSID is the wanted one. -/
def ownUuids : List Text → Sh Text
  | [] => pure []
  | line :: rest => do
      let (uuid, type) := read2 line
      if uuid = [] ∨ !isWifiType type then ownUuids rest
      else do
        let s ← ask (.ssidOf uuid)
        let others ← ownUuids rest
        pure ((if substitute s = want.ssid then host.echo uuid else []) ++ others)

/-- Leftover names from older HUD builds. -/
def leftoverUuids (lines : List Text) : Text :=
  lines.flatMap fun line =>
    let (name, uuid, type) := read3 line
    if !isWifiType type then []
    else if name = txt "gemini-" ++ want.ssid then host.echo uuid
    else []

/-- `uuids_for_ssid` -/
def uuidsForSsid : Sh Text := do
  let kinds ← connections .kinds
  let own ← ownUuids host want (records (printed (kinds.map Listed.kind)))
  let lines ← connections .lines
  pure (own ++ leftoverUuids host want (records (printed (lines.map Listed.line))))

/-- The loop that deletes connections, one by one. -/
def deleteUuids : List Text → Sh Unit
  | [] => pure ()
  | uuid :: rest => do
      let _ ← run (.delete uuid)
      deleteUuids rest

/-- `delete_ssid_profiles` -/
def deleteSsidProfiles : Sh Unit := do
  let out ← uuidsForSsid host want
  deleteUuids ((records (printed (distinct out))).map trim)

/-- `up_uuid` and `up_name`. -/
def up (id : Text) : Sh Bool := run (.up id want.iface none)

/-- `write_psk_file` -/
def writePskFile (psk : Text) : Sh Unit :=
  Session.modify fun shell => { shell with
    pskFile := some (txt "802-11-wireless-security.psk:" ++ psk ++ [newline]) }

/-- `up_with_psk` -/
def upWithPsk (id psk : Text) : Sh Bool :=
  if psk ≠ [] then do
    Session.modify fun shell => { shell with gavePsk := true }
    writePskFile psk
    let shell ← Session.get
    run (.up id want.iface shell.pskFile)
  else up want id

/-- `stored_psk` -/
def storedPsk (id : Text) : Sh Text := do
  let out ← ask (.pskOf id)
  pure (substitute out)

/-- `is_wrong_pw` -/
def isWrongPw (shell : Shell) : Bool :=
  mentions ["psk mismatch", "wrong password", "bad password", "handshake timeout",
      "4-way handshake"] (shell.attempt.getD []) ||
    (shell.gavePsk && mentions ["secrets were required"] (shell.attempt.getD []))

/-- `echo`, the removal of the temporary files and `exit`. -/
def finish {α : Type} (out : Text) (code : Nat) : Sh α := do
  Session.modify fun shell => { shell with attempt := none, pskFile := none }
  Session.exit ⟨code, out⟩

/-- `finish_ok` -/
def finishOk {α : Type} : Sh α := finish (host.echo (txt "已连接 " ++ want.ssid)) 0

/-- `fail_wrong_pw` -/
def failWrongPw {α : Type} : Sh α := finish (txt "密码不对，请再试一次\n") 3

/-- `fail_need_pw` -/
def failNeedPw {α : Type} : Sh α := finish (txt "NEED_PASSWORD\n") 2

/-- `fail_explain` -/
def failExplain {α : Type} : Sh α := do
  let shell ← Session.get
  let attempt := shell.attempt.getD []
  if isWrongPw shell then failWrongPw
  else if mentions ["could not be found", "network could not"] attempt then
    finish (txt "找不到这个网络\n") 1
  else if mentions ["timeout expired"] attempt then finish (txt "连接超时\n") 1
  else if mentions ["no suitable device", "mismatching interface"] attempt then
    finish (txt "网卡不匹配\n") 1
  else if mentions ["ip configuration", "dhcp"] attempt then finish (txt "没拿到地址\n") 1
  else finish (txt "未能加入此网络\n") 1

/-- Fully associated to the wanted network. -/
def liveOk : Sh Bool := do
  let status ← ask .deviceStatus
  if stateOf host.awk status want.iface = txt "connected" then do
    let rows ← ask .wifiList
    pure (usesNetwork host.awk rows want.ssid)
  else pure false

/-- The loop of `wait_live`, with the number of tries that are left. -/
def waitLive : Nat → Sh Bool
  | 0 => liveOk host want
  | n + 1 => do
      let live ← liveOk host want
      if live then pure true
      else do
        let _ ← quiet .sleep
        waitLive n

/-- `up_… && wait_live`. -/
def upAndWait (started : Sh Bool) : Sh Bool := do
  let begun ← started
  if begun then waitLive host want tries else pure false

/-! ## Without a password -/

/-- A command that fails because of the password ends the script. -/
def orWrongPw (done : Bool) : Sh Bool :=
  if done then pure true
  else do
    let shell ← Session.get
    if isWrongPw shell then failWrongPw else pure false

/-- A saved connection is brought up: without a password, or with the one that is stored. -/
def trySaved (uuid : Text) : Sh Bool := do
  let km ← ask (.keyMgmtOf uuid)
  let flags ← ask (.pskFlagsOf uuid)
  let psk ← storedPsk uuid
  let km := substitute km
  let flags := substitute flags
  if km = [] ∨ km = txt "none" ∨ km = txt "None" then upAndWait host tries want (up want uuid)
  else if psk ≠ [] then do
    -- nmcli does not use the stored password unless it is passed once more
    let done ← upAndWait host tries want (upWithPsk want uuid psk)
    orWrongPw done
  else if flags = txt "1" ∨ flags = txt "0x1" ∨ flags = txt "2" ∨ flags = txt "0x2" then pure false
  else do
    let done ← upAndWait host tries want (up want uuid)
    orWrongPw done

/-- The loop over the saved profiles, which ends with the first one that goes live. -/
def joinSaved : List Text → Sh Bool
  | [] => pure false
  | uuid :: rest => do
      let done ← trySaved host tries want uuid
      if done then pure true else joinSaved rest

/-- `${IFACE:-*}` -/
def ifadd : Text := if want.iface ≠ [] then want.iface else txt "*"

/-- The join of an open network. -/
def joinOpen : Sh Unit := do
  deleteSsidProfiles host want
  let _ ← run (.add want.ssid (ifadd want) none)
  let live ← upAndWait host tries want (up want want.ssid)
  if live then finishOk host want else finish (txt "加入开放网络失败\n") 1

/-- The join when no password has been given. -/
def joinWithout : Sh Unit := do
  let out ← uuidsForSsid host want
  let done ← joinSaved host tries want (words (printed (distinct out)))
  if done then finishOk host want
  else do
    let live ← liveOk host want
    if live then finishOk host want
    else if isOpen want then joinOpen host tries want
    else failNeedPw

/-! ## With a password -/

/-- The saved profile gets the password and is brought up; the script goes on only when that
fails for another reason than the password. -/
def joinExisting (existed : Text) : Sh Unit := do
  let _ ← run (.modify existed (some (keyMgmt want)) want.pass)
  let begun ← upWithPsk want existed want.pass
  if begun then do
    let live ← waitLive host want tries
    if live then finishOk host want else failExplain
  else do
    let shell ← Session.get
    if isWrongPw shell then failWrongPw else pure ()

/-- The last way in, without a profile of the script's. -/
def joinDirect : Sh Unit := do
  let _ ← run (.wifiConnect want.ssid want.pass want.iface)
  let live ← waitLive host want tries
  if live then finishOk host want
  else do
    let shell ← Session.get
    if isWrongPw shell then failWrongPw else failExplain

/-- The second chance of a new connection: another kind of key, or another way in. -/
def joinRetried : Sh Unit :=
  if keyMgmt want = txt "sae" then do
    let _ ← run (.modify want.ssid (some (txt "wpa-psk")) want.pass)
    let live ← upAndWait host tries want (upWithPsk want want.ssid want.pass)
    if live then finishOk host want else joinDirect host tries want
  else joinDirect host tries want

/-- The join with a connection that is made for it. -/
def joinNew : Sh Unit := do
  deleteSsidProfiles host want
  let _ ← run (.add want.ssid (ifadd want) (some (keyMgmt want, want.pass)))
  let _ ← run (.modify want.ssid none want.pass)
  let live ← upAndWait host tries want (upWithPsk want want.ssid want.pass)
  if live then finishOk host want else joinRetried host tries want

/-- The join with a password. -/
def joinWith : Sh Unit := do
  Session.modify fun shell => { shell with gavePsk := true }
  let out ← uuidsForSsid host want
  let existed := substitute <|
    match distinct out with
    | [] => []
    | line :: _ => line ++ [newline]
  if existed ≠ [] then do
    joinExisting host tries want existed
    joinNew host tries want
  else joinNew host tries want

/-- The script for a join. -/
def join : Sh Unit := do
  setup want
  Session.modify fun shell => { shell with attempt := some [] }
  if isEnterprise want then finish (txt "暂不支持企业级网络\n") 1
  else do
    let live ← liveOk host want
    if live then finishOk host want
    else if want.pass = [] then joinWithout host tries want
    else joinWith host tries want

/-! ## Forgetting -/

/-- The profiles that a forget action deletes one by one. -/
def forgetUuids (ssid : Text) : List Text → Sh Unit
  | [] => pure ()
  | line :: rest => do
      let (uuid, type, name) := read3 line
      if !isWifiType type then forgetUuids ssid rest
      else do
        let s ← ask (.ssidOf uuid)
        if substitute s = ssid ∨ name = ssid ∨ name = txt "gemini-" ++ ssid then do
          let _ ← quiet (.deleteUuid uuid)
          forgetUuids ssid rest
        else forgetUuids ssid rest

/-- The loop that disconnects devices. -/
def disconnectAll : List Text → Sh Unit
  | [] => pure ()
  | device :: rest =>
      if device = [] then disconnectAll rest
      else do
        let _ ← quiet (.disconnect device)
        disconnectAll rest

/-- `inuse` -/
def inUse (list : Text) : Text :=
  substitute <|
    match (awkRecords list).find? saysInUse with
    | none => []
    | some line => field 1 line ++ [newline]

/-- The devices that are read when no one is given. -/
def wifiNames (kinds : Text) : List Text :=
  let names := ((awkRecords kinds).filter fun line => field 1 line = txt "wifi").map (field 0)
  (records (printed names)).map trim

/-- The end of a forget: the devices leave the network when it is in use. -/
def leaveNetwork (ssid iface : Text) : Sh Unit := do
  let list ← ask .wifiList
  if inUse list = ssid then
    if iface ≠ [] then do
      let _ ← quiet (.disconnect iface)
      Session.exit ⟨0, host.echo (txt "已忘记 " ++ ssid)⟩
    else do
      let kinds ← ask .deviceKinds
      disconnectAll (wifiNames kinds)
      Session.exit ⟨0, host.echo (txt "已忘记 " ++ ssid)⟩
  else Session.exit ⟨0, host.echo (txt "已忘记 " ++ ssid)⟩

/-- The script for a forget. -/
def forget (ssid iface : Text) : Sh Unit := do
  let _ ← quiet (.deleteId ssid)
  let _ ← quiet (.deleteId (txt "gemini-" ++ ssid))
  let rows ← connections .names
  forgetUuids ssid (records (printed (rows.map Listed.full)))
  leaveNetwork host ssid iface

/-- The script; whether there is an `nmcli`. -/
def script (nmcli : Bool) (request : Request) : Sh Unit :=
  let named (ssid : Text) (rest : Sh Unit) : Sh Unit :=
    if ssid = [] then Session.exit ⟨1, txt "未指定网络名称\n"⟩
    else if nmcli = false then Session.exit ⟨1, txt "未找到 nmcli\n"⟩
    else rest
  match request with
  | .forget ssid iface => named ssid (forget host ssid iface)
  | .join ssid pass iface sec => named ssid (join host tries ⟨ssid, pass, iface, sec⟩)

end Script.Connect

end Ginkgo
