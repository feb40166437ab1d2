import Ginkgo.Script.Nmcli

/-!
# Which networks the script recognises

The script compares the name that it is given with what `nmcli` prints. What is printed is
escaped and the name is not, and `awk` compares texts that look like numbers as numbers. The
script recognises a network exactly when its name has no colon and no backslash and neither
the name nor the interface looks like a number (`Ginkgo.Script.recognises_iff`).
-/

namespace Ginkgo

open CText

namespace Script

/-- What the script is given: a name that is not empty, since the script exits at once for an
empty one, and the name of an interface or nothing. -/
structure Target where
  ssid : Text
  iface : Text
  named : ssid ≠ []
  ssidLine : newline ∉ ssid
  ifaceWord : Word iface
  ifaceSolid : ∀ c ∈ iface, isBlank c = false

/-! ## The script -/

/-- The types that the script takes for a wifi connection's. -/
def isWifiType (type : Text) : Bool := type = txt "802-11-wireless" ∨ type = txt "wifi"

/-- `uuids_for_ssid` -/
def uuidsForSsid (manager : Manager) (ssid : Text) : List Text :=
  ((records manager.profileKinds).filterMap fun line =>
    let (uuid, type) := read2 line
    if uuid = [] ∨ !isWifiType type then none
    else if substitute (manager.storedSsid uuid) = ssid then some uuid
    else none) ++
  (records manager.profileLines).filterMap fun line =>
    -- leftover names from older HUD builds
    let (name, uuid, type) := read3 line
    if !isWifiType type then none
    else if name = txt "gemini-" ++ ssid then some uuid
    else none

/-- `$1=="*" || $1=="yes" || $1=="Yes"` -/
def saysInUse (line : Text) : Bool :=
  field 0 line = txt "*" ∨ field 0 line = txt "yes" ∨ field 0 line = txt "Yes"

/-- The devices that the forget action disconnects. -/
def forgetDisconnects (manager : Manager) (ssid iface : Text) : List Text :=
  let inuse := substitute <|
    match (records manager.wifiList).find? saysInUse with
    | none => []
    | some line => field 1 line ++ [newline]
  if inuse = ssid then
    if iface ≠ [] then [iface]
    else
      let names := ((records manager.deviceKinds).filter fun line => field 1 line = txt "wifi").map
        (field 0)
      ((records (printed names)).map trim).filter (· ≠ [])
  else []

/-- `st` of `live_ok`. -/
def deviceState (awk : Awk) (manager : Manager) (iface : Text) : Text :=
  let ifc := awk.assign iface
  let row := (records manager.deviceStatus).find? fun line =>
    field 1 line = txt "wifi" ∧ (ifc = [] ∨ awk.same (field 0 line) ifc)
  substitute <|
    match row with
    | none => []
    | some line => field 2 line ++ [newline]

/-- `live_ok` -/
def liveOk (awk : Awk) (manager : Manager) (ssid iface : Text) : Bool :=
  if deviceState awk manager iface = txt "connected" then
    (records manager.wifiList).any fun line =>
      saysInUse line && awk.same (field 1 line) (awk.assign ssid)
  else false

/-! ## What it should find -/

namespace Manager

variable (manager : Manager)

/-- The wifi device: the one of the given name, or the first one. -/
def wifiDevice (iface : Text) : Option Device :=
  manager.devices.find? fun device =>
    device.type = txt "wifi" ∧ (iface = [] ∨ device.name = iface)

/-- The name of the network in use. -/
def joined : Option Text := (manager.networks.find? Network.inUse).map Network.ssid

end Manager

/-- The script recognises a network: whatever NetworkManager knows, it is live when the
device is connected and the network in use, forgetting it disconnects the device when the
network is in use, and its profiles are found. -/
structure Recognises (awk : Awk) (target : Target) : Prop where
  live : ∀ manager : Manager, liveOk awk manager target.ssid target.iface = true ↔
    (∃ device, manager.wifiDevice target.iface = some device ∧
      device.state = txt "connected") ∧ manager.joined = some target.ssid
  forgets : ∀ (manager : Manager) (name : Text),
    name ∈ forgetDisconnects manager target.ssid target.iface ↔
      manager.joined = some target.ssid ∧
        if target.iface = [] then
          ∃ device ∈ manager.devices, device.type = txt "wifi" ∧ device.name = name
        else name = target.iface
  profiles : ∀ (manager : Manager) (uuid : Text),
    uuid ∈ uuidsForSsid manager target.ssid ↔
      ∃ profile ∈ manager.profiles, profile.uuid = uuid ∧ isWifiType profile.type ∧
        (profile.ssid = target.ssid ∨ profile.name = txt "gemini-" ++ target.ssid)

/-! ## Reading the lists -/

section Fields

variable (device : Device) (network : Network) (profile : Profile)

/-- The fields of a device's status. -/
theorem Device.field_status :
    field 0 device.status = device.name ∧ field 1 device.status = device.type ∧
      field 2 device.status = device.state := by
  rw [status, device.nameWord.escape_eq, device.typeWord.escape_eq, device.stateWord.escape_eq]
  refine ⟨field_zero_append device.nameWord.colon_notMem _, ?_, ?_⟩
  · rw [field_succ_append device.nameWord.colon_notMem,
      field_zero_append device.typeWord.colon_notMem]
  · rw [field_succ_append device.nameWord.colon_notMem,
      field_succ_append device.typeWord.colon_notMem,
      field_zero_append device.stateWord.colon_notMem]

/-- The fields of its kind. -/
theorem Device.field_kind :
    field 0 device.kind = device.name ∧ field 1 device.kind = device.type := by
  rw [kind, device.nameWord.escape_eq, device.typeWord.escape_eq]
  refine ⟨field_zero_append device.nameWord.colon_notMem _, ?_⟩
  rw [field_succ_append device.nameWord.colon_notMem]
  exact cutAt_of_notMem device.typeWord.colon_notMem

/-- The name of a network as `awk` splits it: up to the first colon of what is printed. -/
theorem Network.field_line : field 1 network.line = cutAt colon (escape network.ssid) := by
  have mark : colon ∉ if network.inUse then txt "*" else txt " " := by
    split <;> decide +kernel
  rw [line, field_succ_append mark]
  rfl

/-- Whether a row says that its network is in use. -/
theorem Network.saysInUse_line : saysInUse network.line = network.inUse := by
  have mark : colon ∉ if network.inUse then txt "*" else txt " " := by
    split <;> decide +kernel
  rw [saysInUse, line, field_zero_append mark]
  cases network.inUse <;> decide +kernel

/-- The kind of a connection is read back. -/
theorem Profile.read2_kind : read2 profile.kind = (profile.uuid, profile.type) := by
  rw [kind, profile.uuidWord.escape_eq, profile.typeWord.escape_eq,
    read2_append profile.uuidWord.colon_notMem, lastField_of_notMem profile.typeWord.colon_notMem]

/-- So is its name, if it is plain. -/
theorem Profile.read3_line (plain : ∀ c ∈ profile.name, c ≠ colon ∧ c ≠ backslash) :
    read3 profile.line = (profile.name, profile.uuid, profile.type) := by
  rw [line, escape_of_plain plain, profile.uuidWord.escape_eq, profile.typeWord.escape_eq,
    read3_append (fun member => (plain _ member).1 rfl) profile.uuidWord.colon_notMem,
    lastField_of_notMem profile.typeWord.colon_notMem]

end Fields

/-- The records of the devices. -/
theorem records_deviceStatus (manager : Manager) :
    records manager.deviceStatus = manager.devices.map Device.status :=
  records_printed_map Device.newline_notMem_status _

/-- The records of the networks. -/
theorem records_wifiList (manager : Manager) :
    records manager.wifiList = manager.networks.map Network.line :=
  records_printed_map Network.newline_notMem_line _

/-- The network in use is the one that some row in use names. -/
theorem Manager.joined_eq_some_iff (manager : Manager) (ssid : Text) :
    manager.joined = some ssid ↔ ∃ n ∈ manager.networks, n.inUse ∧ n.ssid = ssid := by
  unfold joined
  constructor
  · intro found
    obtain ⟨n, first, same⟩ := Option.map_eq_some_iff.mp found
    exact ⟨n, List.mem_of_find?_eq_some first, List.find?_some first, same⟩
  · rintro ⟨n, member, inUse, rfl⟩
    cases first : manager.networks.find? Network.inUse with
    | none => exact absurd inUse (List.find?_eq_none.mp first n member)
    | some m =>
        have same := manager.oneInUse m (List.mem_of_find?_eq_some first) n member
          (List.find?_some first) inUse
        rw [Option.map_some, same]

/-! ## The live network -/

section Live

variable {awk : Awk} {manager : Manager} {ssid iface : Text}

/-- The network in use is recognised by a plain name that is no number. -/
theorem any_wifiList (plain : ∀ c ∈ ssid, c ≠ colon ∧ c ≠ backslash)
    (text : awk.number ssid = none) :
    ((records manager.wifiList).any fun line =>
        saysInUse line && awk.same (field 1 line) (awk.assign ssid)) = true ↔
      manager.joined = some ssid := by
  rw [records_wifiList, awk.assign_name plain, List.any_map, List.any_eq_true, manager.joined_eq_some_iff]
  refine exists_congr fun network => and_congr_right fun _ => ?_
  simp only [Function.comp_apply, Network.saysInUse_line, Network.field_line, Bool.and_eq_true,
    awk.same_of_not_number text, decide_eq_true_eq, cutAt_escape_eq_iff plain]

/-- The state of the wifi device is read. -/
theorem deviceState_eq (word : Word iface) (text : awk.number iface = none) :
    deviceState awk manager iface = ((manager.wifiDevice iface).map Device.state).getD [] := by
  have row : (records manager.deviceStatus).find? (fun line =>
        decide (field 1 line = txt "wifi" ∧ (iface = [] ∨ awk.same (field 0 line) iface))) =
      (manager.wifiDevice iface).map Device.status := by
    rw [records_deviceStatus, List.find?_map, Manager.wifiDevice]
    refine congrArg (Option.map Device.status) (congrArg (List.find? · manager.devices) ?_)
    funext device
    simp only [Function.comp_apply, device.field_status, awk.same_of_not_number text,
      decide_eq_true_eq]
  unfold deviceState
  simp only [awk.assign_word word, row]
  cases manager.wifiDevice iface with
  | none => rfl
  | some device =>
      simp only [Option.map_some, Option.getD_some, device.field_status]
      exact substitute_line device.stateWord.newline_notMem

/-- **When the script finds a plain network live.** -/
theorem liveOk_iff (plain : ∀ c ∈ ssid, c ≠ colon ∧ c ≠ backslash)
    (text : awk.number ssid = none) (word : Word iface) (ifaceText : awk.number iface = none) :
    liveOk awk manager ssid iface = true ↔
      (∃ device, manager.wifiDevice iface = some device ∧ device.state = txt "connected") ∧
        manager.joined = some ssid := by
  have connected : deviceState awk manager iface = txt "connected" ↔
      ∃ device, manager.wifiDevice iface = some device ∧ device.state = txt "connected" := by
    rw [deviceState_eq word ifaceText]
    cases manager.wifiDevice iface with
    | none => simpa using (by decide +kernel : ([] : Text) ≠ txt "connected")
    | some device => simp
  unfold liveOk
  rw [← connected, ← any_wifiList plain text]
  split
  · next is => simp only [is, true_and]
  · next is => simp only [is, false_and, Bool.false_eq_true]

end Live

/-! ## The network to forget -/

section Forget

variable {manager : Manager} {ssid iface : Text}

/-- The network in use is found by a plain name. -/
theorem inuse_eq_iff (plain : ∀ c ∈ ssid, c ≠ colon ∧ c ≠ backslash) (named : ssid ≠ []) :
    substitute (match (records manager.wifiList).find? saysInUse with
      | none => []
      | some line => field 1 line ++ [newline]) = ssid ↔ manager.joined = some ssid := by
  have found : (records manager.wifiList).find? saysInUse =
      (manager.networks.find? Network.inUse).map Network.line := by
    rw [records_wifiList, List.find?_map]
    refine congrArg (Option.map Network.line) (congrArg (List.find? · manager.networks) ?_)
    funext network
    exact network.saysInUse_line
  rw [found, Manager.joined]
  cases manager.networks.find? Network.inUse with
  | none => simpa [substitute] using named.symm
  | some network =>
      have line : newline ∉ cutAt colon (escape network.ssid) := fun member =>
        notMem_escape network.ssidLine (by decide) ((List.takeWhile_prefix _).mem member)
      simp only [Option.map_some, Network.field_line, substitute_line line, Option.some.injEq,
        cutAt_escape_eq_iff plain]

/-- The wifi devices of the kinds that are printed. -/
theorem names_deviceKinds :
    ((records manager.deviceKinds).filter fun line => field 1 line = txt "wifi").map (field 0) =
      (manager.devices.filter fun device => device.type = txt "wifi").map Device.name := by
  rw [Manager.deviceKinds, records_printed_map Device.newline_notMem_kind, List.filter_map,
    List.map_map]
  have types : ((fun line => decide (field 1 line = txt "wifi")) ∘ Device.kind) =
      fun device => decide (device.type = txt "wifi") := by
    funext device
    simp only [Function.comp_apply, device.field_kind]
  have names : field 0 ∘ Device.kind = Device.name := by
    funext device
    exact device.field_kind.1
  rw [types, names]

/-- Which devices a forget of a plain network disconnects. -/
theorem mem_forgetDisconnects_iff (plain : ∀ c ∈ ssid, c ≠ colon ∧ c ≠ backslash)
    (named : ssid ≠ []) (name : Text) :
    name ∈ forgetDisconnects manager ssid iface ↔
      manager.joined = some ssid ∧
        if iface = [] then
          ∃ device ∈ manager.devices, device.type = txt "wifi" ∧ device.name = name
        else name = iface := by
  have clean : ∀ row ∈ (manager.devices.filter fun device => device.type = txt "wifi").map
      Device.name, newline ∉ row := by
    intro row member
    obtain ⟨device, -, rfl⟩ := List.mem_map.mp member
    exact device.nameWord.newline_notMem
  have read : trim ∘ Device.name = Device.name :=
    funext fun device => trim_of_notBlank device.nameSolid
  unfold forgetDisconnects
  simp only [inuse_eq_iff plain named, names_deviceKinds, records_printed clean, List.map_map, read]
  by_cases joined : manager.joined = some ssid
  · rw [if_pos joined]
    by_cases given : iface = []
    · simp only [given, ne_eq, not_true_eq_false, if_false, if_true, joined, true_and,
        List.mem_filter, List.mem_map, decide_eq_true_eq]
      constructor
      · rintro ⟨⟨device, ⟨member, wifi⟩, same⟩, -⟩
        exact ⟨device, member, wifi, same⟩
      · rintro ⟨device, member, wifi, same⟩
        exact ⟨⟨device, ⟨member, wifi⟩, same⟩, same ▸ device.named⟩
    · simp [given, joined]
  · simp [joined]

end Forget

/-! ## The profiles -/

section Profiles

variable {manager : Manager} {ssid : Text}

/-- The profiles that store the SSID, whatever text the script takes for it. -/
theorem mem_profileKinds_iff (uuid : Text) :
    (uuid ∈ (records manager.profileKinds).filterMap fun line =>
      let (uuid, type) := read2 line
      if uuid = [] ∨ !isWifiType type then none
      else if substitute (manager.storedSsid uuid) = ssid then some uuid
      else none) ↔
      ∃ profile ∈ manager.profiles, profile.uuid = uuid ∧ isWifiType profile.type ∧
        escape profile.ssid = ssid := by
  rw [Manager.profileKinds, records_printed_map Profile.newline_notMem_kind, List.mem_filterMap]
  simp only [List.mem_map, exists_exists_and_eq_and, Profile.read2_kind]
  refine exists_congr fun profile => and_congr_right fun member => ?_
  have line : newline ∉ escape profile.ssid := notMem_escape profile.ssidLine (by decide)
  rw [manager.storedSsid_of_mem member, substitute_line line]
  simp only [profile.identified, false_or]
  by_cases wifi : isWifiType profile.type
  · by_cases same : escape profile.ssid = ssid <;> simp [wifi, same]
  · simp [wifi]

/-- The name that older builds gave a profile is as plain as the network's. -/
theorem gemini_plain (plain : ∀ c ∈ ssid, c ≠ colon ∧ c ≠ backslash) :
    ∀ c ∈ txt "gemini-" ++ ssid, c ≠ colon ∧ c ≠ backslash := by
  intro c member
  rcases List.mem_append.mp member with front | inside
  · exact (by decide +kernel : ∀ c ∈ txt "gemini-", c ≠ colon ∧ c ≠ backslash) c front
  · exact plain c inside

/-- A name that is plain is found among the names of the profiles. -/
theorem mem_profileLines_iff (plain : ∀ c ∈ ssid, c ≠ colon ∧ c ≠ backslash) (uuid : Text) :
    (uuid ∈ (records manager.profileLines).filterMap fun line =>
      let (name, uuid, type) := read3 line
      if !isWifiType type then none
      else if name = txt "gemini-" ++ ssid then some uuid
      else none) ↔
      ∃ profile ∈ manager.profiles, profile.uuid = uuid ∧ isWifiType profile.type ∧
        profile.name = txt "gemini-" ++ ssid := by
  have whole := gemini_plain plain
  rw [Manager.profileLines, records_printed_map Profile.newline_notMem_line, List.mem_filterMap]
  simp only [List.mem_map, exists_exists_and_eq_and]
  refine exists_congr fun profile => and_congr_right fun _ => ?_
  have first : (read3 profile.line).1 = cutAt colon (escape profile.name ++ colon ::
      (escape profile.uuid ++ colon :: escape profile.type)) := rfl
  by_cases named : profile.name = txt "gemini-" ++ ssid
  · simp only [profile.read3_line (named ▸ whole), named]
    by_cases wifi : isWifiType profile.type <;> simp [wifi]
  · have other : (read3 profile.line).1 ≠ txt "gemini-" ++ ssid := by
      intro same
      rw [first, cutAt_append_cons, cutAt_escape_eq_iff whole] at same
      exact named same
    simp only [named, other, and_false, iff_false]
    split <;> simp

end Profiles

/-! ## Names that are not recognised -/

section Missed

variable {awk : Awk} {target : Target}

/-- NetworkManager has stored one profile, of another name, for the network. -/
def storing (target : Target) : Manager where
  devices := []
  networks := []
  profiles := [{
    name := txt "saved"
    uuid := txt "5f1c"
    type := txt "802-11-wireless"
    ssid := target.ssid
    identified := by decide +kernel
    nameLine := by decide +kernel
    uuidWord := by decide +kernel
    typeWord := by decide +kernel
    ssidLine := target.ssidLine }]
  oneInUse := nofun
  distinct := List.nodup_singleton _

/-- The profile of a network whose name is escaped is not found. -/
theorem not_mem_uuidsForSsid (special : ∃ c ∈ target.ssid, c = colon ∨ c = backslash) :
    txt "5f1c" ∉ uuidsForSsid (storing target) target.ssid := by
  unfold uuidsForSsid
  rw [List.mem_append, not_or]
  constructor
  · rw [mem_profileKinds_iff]
    rintro ⟨profile, member, -, -, same⟩
    rw [List.mem_singleton.mp member] at same
    exact escape_ne_self special same
  · rw [Manager.profileLines, records_printed_map Profile.newline_notMem_line, List.mem_filterMap]
    rintro ⟨line, member, found⟩
    obtain ⟨profile, stored, rfl⟩ := List.mem_map.mp member
    have saved : profile.name = txt "saved" := by rw [List.mem_singleton.mp stored]
    rw [profile.read3_line (by rw [saved]; decide +kernel)] at found
    have other : profile.name ≠ txt "gemini-" ++ target.ssid := by
      intro same
      have head := congrArg List.head? (saved.symm.trans same)
      rw [List.head?_append_of_ne_nil _ (by decide +kernel)] at head
      exact absurd head (by decide +kernel)
    simp only [other, if_false, ite_self, reduceCtorEq] at found

/-- The state of the first wifi device is read when its name is taken for the interface. -/
theorem deviceState_head {manager : Manager} {device : Device} {rest : List Device}
    {iface : Text} (word : Word iface) (devices : manager.devices = device :: rest)
    (wifi : device.type = txt "wifi")
    (taken : iface = [] ∨ awk.same device.name iface = true) :
    deviceState awk manager iface = device.state := by
  have row : (records manager.deviceStatus).find? (fun line =>
      decide (field 1 line = txt "wifi" ∧ (iface = [] ∨ awk.same (field 0 line) iface))) =
      some device.status := by
    rw [records_deviceStatus, devices, List.map_cons]
    refine List.find?_cons_of_pos ?_
    simpa only [device.field_status, decide_eq_true_eq] using ⟨wifi, taken⟩
  unfold deviceState
  simp only [awk.assign_word word, row, device.field_status]
  exact substitute_line device.stateWord.newline_notMem

/-- A wifi device. -/
def wifi (name : Text) (named : name ≠ []) (word : Word name)
    (solid : ∀ c ∈ name, isBlank c = false) (state : Text) (stateWord : Word state) : Device where
  name := name
  type := txt "wifi"
  state := state
  connection := []
  named := named
  nameWord := word
  nameSolid := solid
  typeWord := by decide +kernel
  stateWord := stateWord
  connectionLine := nofun

/-- NetworkManager uses one network. -/
def joinedTo (devices : List Device) (ssid : Text) (line : newline ∉ ssid) : Manager where
  devices := devices
  networks := [⟨true, ssid, line⟩]
  profiles := []
  oneInUse n member m member' _ _ := by
    rw [List.mem_singleton.mp member, List.mem_singleton.mp member']
  distinct := List.nodup_nil

/-- What the list says of one network in use. -/
theorem saysInUse_joinedTo (devices : List Device) (ssid : Text) (line : newline ∉ ssid) :
    (records (joinedTo devices ssid line).wifiList).any (fun row =>
      saysInUse row && awk.same (field 1 row) (awk.assign target.ssid)) =
      awk.same (cutAt colon (escape ssid)) (awk.assign target.ssid) := by
  rw [records_wifiList]
  simp only [joinedTo, List.map_cons, List.map_nil, List.any_cons, List.any_nil, Bool.or_false,
    Network.saysInUse_line, Network.field_line, Bool.true_and]

/-- A network whose name differs from a number in a blank passes for it. -/
theorem not_recognises_of_number (plain : ∀ c ∈ target.ssid, c ≠ colon ∧ c ≠ backslash)
    (numeric : awk.number target.ssid ≠ none) : ¬Recognises awk target := by
  intro recognises
  have blankLine : newline ∉ space :: target.ssid := by
    simpa [show newline ≠ space by decide] using target.ssidLine
  have blankPlain : ∀ c ∈ space :: target.ssid, c ≠ colon ∧ c ≠ backslash := by
    intro c member
    rcases List.mem_cons.mp member with rfl | inside
    · decide
    · exact plain c inside
  -- The device has the name that the script is given, if it is given one.
  obtain ⟨name, named, word, solid, taken⟩ : ∃ name : Text, name ≠ [] ∧ Word name ∧
      (∀ c ∈ name, isBlank c = false) ∧ (target.iface = [] ∨ name = target.iface) := by
    by_cases given : target.iface = []
    · exact ⟨txt "wlan0", by decide +kernel, by decide +kernel, by decide +kernel, .inl given⟩
    · exact ⟨target.iface, given, target.ifaceWord, target.ifaceSolid, .inr rfl⟩
  let device := wifi name named word solid (txt "connected") (by decide +kernel)
  let manager := joinedTo [device] (space :: target.ssid) blankLine
  have state : deviceState awk manager target.iface = txt "connected" := by
    apply deviceState_head target.ifaceWord (show manager.devices = device :: [] from rfl) rfl
    rcases taken with none | same
    · exact .inl none
    · rw [← same]
      exact .inr (awk.same_self name)
  have live : liveOk awk manager target.ssid target.iface = true := by
    rw [liveOk, if_pos state, saysInUse_joinedTo, awk.assign_name plain,
      (cutAt_escape_eq_iff blankPlain).mpr rfl]
    exact awk.same_of_number numeric (awk.number_blank _)
  have joined := ((recognises.live manager).mp live).2
  have other : space :: target.ssid ≠ target.ssid := by simp
  exact other (Option.some.inj joined)

/-- A device whose name is another way to write a number is taken for the interface. -/
theorem not_recognises_of_iface_number (numeric : awk.number target.iface ≠ none) :
    ¬Recognises awk target := by
  intro recognises
  have given : target.iface ≠ [] := fun empty => numeric (empty ▸ awk.number_nil)
  obtain ⟨name, differs, word, solid, one⟩ := awk.respelled numeric
  have named : name ≠ [] := by
    rintro rfl
    exact numeric (one ▸ awk.number_nil)
  let other := wifi name named word solid (txt "disconnected") (by decide +kernel)
  let device := wifi target.iface given target.ifaceWord target.ifaceSolid (txt "connected")
    (by decide +kernel)
  let manager := joinedTo [other, device] target.ssid target.ssidLine
  have state : deviceState awk manager target.iface = txt "disconnected" :=
    deviceState_head target.ifaceWord (show manager.devices = other :: [device] from rfl) rfl
      (.inr (awk.same_of_number numeric one))
  have found : manager.wifiDevice target.iface = some device := by
    change List.find? _ [other, device] = _
    have elsewhere : other.name ≠ target.iface := differs
    rw [List.find?_cons_of_neg (by simp [given, elsewhere]),
      List.find?_cons_of_pos (by simpa using ⟨rfl, .inr rfl⟩)]
  have live := (recognises.live manager).mpr ⟨⟨device, found, rfl⟩, rfl⟩
  rw [liveOk, if_neg (by rw [state]; decide +kernel)] at live
  cases live

end Missed

/-- **Which networks the script recognises.** Those whose name has no colon and no backslash,
when neither the name nor the interface looks like a number. -/
theorem recognises_iff (awk : Awk) (target : Target) :
    Recognises awk target ↔ (∀ c ∈ target.ssid, c ≠ colon ∧ c ≠ backslash) ∧
      awk.number target.ssid = none ∧ awk.number target.iface = none := by
  constructor
  · intro recognises
    have plain : ∀ c ∈ target.ssid, c ≠ colon ∧ c ≠ backslash := by
      by_contra special
      have found := (recognises.profiles (storing target) (txt "5f1c")).mpr
        ⟨_, List.mem_singleton_self _, rfl,
          (by decide +kernel : isWifiType (txt "802-11-wireless") = true), .inl rfl⟩
      refine not_mem_uuidsForSsid ?_ found
      by_contra clean
      refine special fun c member => ⟨fun same => clean ⟨c, member, .inl same⟩,
        fun same => clean ⟨c, member, .inr same⟩⟩
    have text : awk.number target.ssid = none := by
      by_contra numeric
      exact not_recognises_of_number plain numeric recognises
    refine ⟨plain, text, ?_⟩
    by_contra numeric
    exact not_recognises_of_iface_number numeric recognises
  · rintro ⟨plain, text, ifaceText⟩
    refine ⟨fun manager => liveOk_iff plain text target.ifaceWord ifaceText,
      fun manager name => mem_forgetDisconnects_iff plain target.named name, ?_⟩
    intro manager uuid
    rw [uuidsForSsid, List.mem_append, mem_profileKinds_iff, mem_profileLines_iff plain,
      ← exists_or]
    refine exists_congr fun profile => ?_
    rw [escape_eq_iff plain]
    tauto

/-! ## A name with a colon -/

/-- A string constant: a backslash makes a letter a control character and goes. -/
def stringConstant : Text → Text
  | [] => []
  | [c] => [c]
  | c :: d :: rest =>
      if c = backslash then
        (if d = 110 then newline else if d = 116 then tab else d) :: stringConstant rest
      else c :: stringConstant (d :: rest)

/-- The number that a text of blanks, a sign and digits looks like. -/
def wholeNumber (t : Text) : Option Rat :=
  let body := t.dropWhile isSpace
  let unsigned := if body.head? = some dash ∨ body.head? = some 43 then body.tail else body
  let digits := unsigned.takeWhile isDigit
  if digits ≠ [] ∧ (unsigned.dropWhile isDigit).all isSpace then
    some (if body.head? = some dash then -(digitsValue 0 digits : Rat) else digitsValue 0 digits)
  else none

/-- A string constant without backslashes is the text. -/
theorem stringConstant_plain {t : Text} (plain : backslash ∉ t) : stringConstant t = t := by
  induction t with
  | nil => rfl
  | cons c rest ih =>
      rw [List.mem_cons, not_or] at plain
      cases rest with
      | nil => rfl
      | cons d rest => rw [stringConstant, if_neg (Ne.symm plain.1), ih plain.2]

/-- A whole number with a sign only when it is negative. -/
def signed (negative : Bool) (digits : Text) : Text :=
  if negative then dash :: digits else digits

/-- A signed number is made of digits and a dash. -/
theorem mem_signed {negative : Bool} {digits : Text} (all : ∀ c ∈ digits, isDigit c = true)
    {c : UInt8} (member : c ∈ signed negative digits) : isDigit c = true ∨ c = dash := by
  unfold signed at member
  split at member
  · rcases List.mem_cons.mp member with rfl | inside
    · exact .inr rfl
    · exact .inl (all c inside)
  · exact .inl (all c member)

/-- It looks like its number. -/
theorem wholeNumber_signed (negative : Bool) {digits : Text} (some : digits ≠ [])
    (all : ∀ c ∈ digits, isDigit c = true) :
    wholeNumber (signed negative digits) =
      .some (if negative then -(digitsValue 0 digits : Rat) else digitsValue 0 digits) := by
  have taken : digits.takeWhile isDigit = digits := List.takeWhile_eq_self_iff.mpr all
  have left : digits.dropWhile isDigit = [] := List.dropWhile_eq_nil_iff.mpr all
  obtain ⟨c, rest, rfl⟩ := List.exists_cons_of_ne_nil some
  have first := all c List.mem_cons_self
  have plain : isSpace c = false ∧ c ≠ dash ∧ c ≠ 43 := by
    simp only [isDigit, decide_eq_true_eq, UInt8.le_iff_toNat_le] at first
    simp only [isSpace, space, dash, UInt8.le_iff_toNat_le, UInt8.ext_iff, decide_eq_false_iff_not,
      ne_eq]
    simp only [UInt8.reduceToNat] at first ⊢
    omega
  cases negative with
  | true =>
      have body : (dash :: c :: rest).dropWhile isSpace = dash :: c :: rest :=
        List.dropWhile_cons_of_neg (by decide)
      simp [wholeNumber, signed, body, taken, left]
  | false =>
      have body : (c :: rest).dropWhile isSpace = c :: rest :=
        List.dropWhile_cons_of_neg (by simp [plain.1])
      simp [wholeNumber, signed, body, taken, left, plain.2]

/-- A text that looks like a whole number has the value of a signed one. -/
theorem wholeNumber_cases {t : Text} (numeric : wholeNumber t ≠ none) :
    ∃ negative digits, digits ≠ [] ∧ (∀ c ∈ digits, isDigit c = true) ∧
      wholeNumber t = wholeNumber (signed negative digits) := by
  have read : wholeNumber t ≠ none := numeric
  unfold wholeNumber at numeric
  simp only at numeric
  generalize body : t.dropWhile isSpace = rest at numeric
  generalize unsigned : (if rest.head? = some dash ∨ rest.head? = some 43 then rest.tail else rest)
    = front at numeric
  rw [ne_eq, ite_eq_right_iff, Classical.not_imp] at numeric
  have all : ∀ c ∈ front.takeWhile isDigit, isDigit c = true := fun c =>
    List.mem_takeWhile_imp
  refine ⟨rest.head? = some dash, front.takeWhile isDigit, numeric.1.1, all, ?_⟩
  rw [wholeNumber_signed _ numeric.1.1 all, wholeNumber]
  simp only [body, unsigned, if_pos numeric.1, decide_eq_true_eq]

/-- Zeros in front change the text and not the number. -/
theorem wholeNumber_respelled {t : Text} (numeric : wholeNumber t ≠ none) :
    ∃ other, other ≠ t ∧ Word other ∧ (∀ c ∈ other, isBlank c = false) ∧
      wholeNumber other = wholeNumber t := by
  obtain ⟨negative, digits, some, all, value⟩ := wholeNumber_cases numeric
  have spelling (zeros : Nat) (differs : signed negative (.replicate (zeros + 1) 48 ++ digits) ≠ t) :
      ∃ other, other ≠ t ∧ Word other ∧ (∀ c ∈ other, isBlank c = false) ∧
        wholeNumber other = wholeNumber t := by
    have zeroed : ∀ c ∈ List.replicate (zeros + 1) 48 ++ digits, isDigit c = true := by
      intro c member
      rcases List.mem_append.mp member with front | inside
      · rw [(List.mem_replicate.mp front).2]
        decide
      · exact all c inside
    have same : digitsValue 0 (List.replicate (zeros + 1) 48 ++ digits) = digitsValue 0 digits := by
      have none (n : Nat) : (List.replicate n (48 : UInt8)).foldl
          (fun value c => 10 * value + (c.toNat - 48)) 0 = 0 := by
        induction n with
        | zero => rfl
        | succ n ih => exact ih
      rw [digitsValue, List.foldl_append, none]
      rfl
    have plain (c : UInt8) (member : isDigit c = true ∨ c = dash) :
        (c ≠ colon ∧ c ≠ backslash ∧ c ≠ newline) ∧ isBlank c = false := by
      simp only [isDigit, dash, decide_eq_true_eq, UInt8.le_iff_toNat_le, UInt8.ext_iff] at member
      simp only [isBlank, space, tab, newline, colon, backslash, ne_eq, decide_eq_false_iff_not,
        UInt8.ext_iff]
      simp only [UInt8.reduceToNat] at member ⊢
      omega
    refine ⟨_, differs, fun c member => (plain c (mem_signed zeroed member)).1,
      fun c member => (plain c (mem_signed zeroed member)).2, ?_⟩
    rw [value, wholeNumber_signed _ (by simp) zeroed, wholeNumber_signed _ some all, same]
  by_cases once : signed negative (.replicate 1 48 ++ digits) = t
  · refine spelling 1 fun twice => ?_
    have lengths := congrArg List.length (once.trans twice.symm)
    unfold signed at lengths
    split at lengths <;> simp at lengths
  · exact spelling 0 once

/-- An `awk` that takes whole numbers for numbers. -/
def wholeAwk : Awk where
  assign := stringConstant
  number := wholeNumber
  assign_plain := stringConstant_plain
  number_nil := rfl
  number_blank t := by
    have skipped : (space :: t).dropWhile isSpace = t.dropWhile isSpace :=
      List.dropWhile_cons_of_pos (by decide)
    rw [wholeNumber, skipped]
    rfl
  respelled := wholeNumber_respelled

/-- A network of the 5 GHz band, by its name. -/
def home : Target where
  ssid := txt "home:5G"
  iface := txt "wlan0"
  named := by decide +kernel
  ssidLine := by decide +kernel
  ifaceWord := by decide +kernel
  ifaceSolid := by decide +kernel

/-- The device is connected to the network. -/
def atHome : Manager :=
  joinedTo [wifi home.iface (by decide +kernel) home.ifaceWord home.ifaceSolid (txt "connected")
    (by decide +kernel)] home.ssid home.ssidLine

/-- **A name with a colon is not recognised.** The device is connected, the network is in use,
and `live_ok` fails. -/
theorem live_home_missed :
    atHome.joined = some home.ssid ∧ liveOk wholeAwk atHome home.ssid home.iface = false ∧
      ¬∀ (awk : Awk) (target : Target), Recognises awk target := by
  have missed : liveOk wholeAwk atHome home.ssid home.iface = false := by decide +kernel
  refine ⟨rfl, missed, ?_⟩
  intro always
  have live := ((always wholeAwk home).live atHome).mpr ⟨⟨_, by rfl, rfl⟩, rfl⟩
  rw [missed] at live
  cases live

end Script

end Ginkgo
