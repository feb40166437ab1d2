import Ginkgo.CText.Terse

/-!
# What the script reads

The script reads what `nmcli` prints about NetworkManager with `awk`, `read` and command
substitution. `nmcli` prints one line for each device, network or profile and escapes
colons and backslashes; `awk` and `read` split at every colon. The programs that the
script runs are `nmcli`, whose output is a function of what NetworkManager knows
(`Ginkgo.Script.Manager`), and `awk`, of which the script relies on how a variable is set
and on which texts are compared as numbers (`Ginkgo.Script.Awk`).
-/

namespace Ginkgo

open CText

namespace Script

/-! ## Texts -/

/-- A value that `nmcli` prints as it is. -/
def Word (t : Text) : Prop := ∀ c ∈ t, c ≠ colon ∧ c ≠ backslash ∧ c ≠ newline

instance (t : Text) : Decidable (Word t) := List.decidableBAll _ t

namespace Word

variable {t : Text}

/-- A word has nothing that `nmcli` escapes. -/
theorem unescaped (word : Word t) : ∀ c ∈ t, c ≠ colon ∧ c ≠ backslash :=
  fun c member => ⟨(word c member).1, (word c member).2.1⟩

/-- So it is printed as it is. -/
theorem escape_eq (word : Word t) : escape t = t := escape_of_plain word.unescaped

/-- It has no colon. -/
theorem colon_notMem (word : Word t) : colon ∉ t := fun member => (word _ member).1 rfl

theorem newline_notMem (word : Word t) : newline ∉ t := fun member => (word _ member).2.2 rfl

end Word

/-- What a program that prints these lines prints. -/
def printed (rows : List Text) : Text := rows.flatMap fun row => row ++ [newline]

/-- The lines of an output whose last line is ended. -/
def records (out : Text) : List Text := (out.splitOn newline).dropLast

/-- `$(…)`: the output without the line ends at its end. -/
def substitute (out : Text) : Text := (out.reverse.dropWhile (· = newline)).reverse

/-- A line is split at its first colon: the text before it, and the text after it if there
is one. -/
def splitFirst (line : Text) : Text × Option Text :=
  (cutAt colon line, if colon ∈ line then some (line.dropWhile (· ≠ colon)).tail else none)

/-- `$(n + 1)` of `awk -F:`. -/
def field : Nat → Text → Text
  | 0, line => (splitFirst line).1
  | n + 1, line =>
      match (splitFirst line).2 with
      | none => []
      | some rest => field n rest

/-- What the last variable of `IFS=: read -r` gets of what is left of the line: all of it, but
not a colon that only ends its field. -/
def lastField (rest : Text) : Text :=
  match splitFirst rest with
  | (only, some []) => only
  | _ => rest

/-- `IFS=: read -r first last`. -/
def read2 (line : Text) : Text × Text :=
  ((splitFirst line).1, lastField ((splitFirst line).2.getD []))

/-- `IFS=: read -r first second last`. -/
def read3 (line : Text) : Text × Text × Text :=
  ((splitFirst line).1, read2 ((splitFirst line).2.getD []))

/-- A character of `IFS`. -/
def isBlank (c : UInt8) : Bool := c = space ∨ c = tab ∨ c = newline

/-- `read -r line`: the blanks at both ends are left out. -/
def trim (line : Text) : Text := ((line.dropWhile isBlank).reverse.dropWhile isBlank).reverse

/-- The first row ends at the first line end. -/
theorem printed_cons (row : Text) (rows : List Text) :
    printed (row :: rows) = row ++ newline :: printed rows := by
  simp [printed]

/-- What is printed line by line is read so. -/
theorem records_printed {rows : List Text} (clean : ∀ row ∈ rows, newline ∉ row) :
    records (printed rows) = rows := by
  induction rows with
  | nil => rfl
  | cons row rows ih =>
      have rest := ih fun other member => clean other (List.mem_cons_of_mem row member)
      have some : (printed rows).splitOn newline ≠ [] := List.splitOn_ne_nil newline _
      rw [records, printed_cons, List.splitOn_append_cons_self_of_not_mem (clean row List.mem_cons_self),
        List.dropLast_cons_of_ne_nil some]
      exact congrArg (row :: ·) rest

/-- A line that is echoed is substituted without its end. -/
theorem substitute_line {t : Text} (line : newline ∉ t) : substitute (t ++ [newline]) = t := by
  have kept : t.reverse.dropWhile (fun c => decide (c = newline)) = t.reverse := by
    rw [List.dropWhile_eq_self_iff]
    intro nonempty same
    rw [decide_eq_true_eq] at same
    exact line (List.mem_reverse.mp (same ▸ List.getElem_mem nonempty))
  rw [substitute, List.reverse_append]
  change ((newline :: t.reverse).dropWhile _).reverse = t
  rw [List.dropWhile_cons_of_pos (by simp), kept, List.reverse_reverse]

/-- A field without a colon is split off. -/
theorem splitFirst_append {front : Text} (absent : colon ∉ front) (rest : Text) :
    splitFirst (front ++ colon :: rest) = (front, some rest) := by
  have kept : ∀ c ∈ front, decide (c ≠ colon) = true := by
    intro c member
    simp only [ne_eq, decide_eq_true_eq]
    rintro rfl
    exact absent member
  rw [splitFirst, cutAt_append absent, if_pos (by simp), List.dropWhile_append_of_pos kept]
  simp

/-- It is the first field of `awk`. -/
theorem field_zero_append {front : Text} (absent : colon ∉ front) (rest : Text) :
    field 0 (front ++ colon :: rest) = front := by
  rw [field, splitFirst_append absent]

/-- The others are those of the rest. -/
theorem field_succ_append {front : Text} (absent : colon ∉ front) (n : Nat) (rest : Text) :
    field (n + 1) (front ++ colon :: rest) = field n rest := by
  rw [field, splitFirst_append absent]

/-- A last field without a colon is read as it is. -/
theorem lastField_of_notMem {rest : Text} (absent : colon ∉ rest) : lastField rest = rest := by
  rw [lastField, splitFirst, if_neg absent]

/-- Of the last field at most the colon at its end is lost. -/
theorem lastField_cases (rest : Text) :
    lastField rest = rest ∨ rest = lastField rest ++ [colon] := by
  by_cases split : colon ∈ rest
  · obtain ⟨only, after, rfl, first⟩ := List.eq_append_cons_of_mem split
    rw [lastField, splitFirst_append first]
    cases after with
    | nil => exact .inr rfl
    | cons c after => exact .inl rfl
  · exact .inl (lastField_of_notMem split)

/-- What `read` gets of two fields. -/
theorem read2_append {front : Text} (absent : colon ∉ front) (rest : Text) :
    read2 (front ++ colon :: rest) = (front, lastField rest) := by
  rw [read2, splitFirst_append absent]
  rfl

theorem read3_append {front second : Text} (absent : colon ∉ front) (absent' : colon ∉ second)
    (rest : Text) :
    read3 (front ++ colon :: (second ++ colon :: rest)) = (front, second, lastField rest) := by
  rw [read3, splitFirst_append absent]
  exact congrArg (front, ·) (read2_append absent' rest)

/-- A text without blanks is not trimmed. -/
theorem trim_of_notBlank {t : Text} (solid : ∀ c ∈ t, isBlank c = false) : trim t = t := by
  have front (s : Text) (plain : ∀ c ∈ s, isBlank c = false) : s.dropWhile isBlank = s := by
    cases s with
    | nil => rfl
    | cons c s => exact List.dropWhile_cons_of_neg (by simp [plain c List.mem_cons_self])
  rw [trim, front t solid, front _ fun c member => solid c (List.mem_reverse.mp member),
    List.reverse_reverse]

/-! ## NetworkManager -/

/-- A network device. The kernel allows no blanks in its name. -/
structure Device where
  name : Text
  type : Text
  state : Text
  connection : Text
  named : name ≠ []
  nameWord : Word name
  nameSolid : ∀ c ∈ name, isBlank c = false
  typeWord : Word type
  stateWord : Word state
  connectionLine : newline ∉ connection

/-- A network of the last scan. -/
structure Network where
  inUse : Bool
  ssid : Text
  ssidLine : newline ∉ ssid

/-- A stored connection; what is stored as its SSID counts only if it is a wifi one. -/
structure Profile where
  name : Text
  uuid : Text
  type : Text
  ssid : Text
  identified : uuid ≠ []
  nameLine : newline ∉ name
  uuidWord : Word uuid
  typeWord : Word type
  ssidLine : newline ∉ ssid

/-- What NetworkManager knows. At most one network is in use, and no two profiles have one
UUID. -/
structure Manager where
  devices : List Device
  networks : List Network
  profiles : List Profile
  oneInUse : ∀ n ∈ networks, ∀ m ∈ networks, n.inUse → m.inUse → n.ssid = m.ssid
  distinct : (profiles.map Profile.uuid).Nodup

/-- `nmcli -t -f DEVICE,TYPE,STATE,CONNECTION device status` -/
def Device.status (device : Device) : Text :=
  escape device.name ++ colon :: (escape device.type ++ colon :: (escape device.state ++
    colon :: escape device.connection))

/-- `nmcli -t -f DEVICE,TYPE device status` -/
def Device.kind (device : Device) : Text :=
  escape device.name ++ colon :: escape device.type

/-- `nmcli -t -f IN-USE,SSID device wifi list` -/
def Network.line (network : Network) : Text :=
  (if network.inUse then txt "*" else txt " ") ++ colon :: escape network.ssid

/-- `nmcli -t -f UUID,TYPE connection show` -/
def Profile.kind (profile : Profile) : Text :=
  escape profile.uuid ++ colon :: escape profile.type

/-- `nmcli -t -f NAME,UUID,TYPE connection show` -/
def Profile.line (profile : Profile) : Text :=
  escape profile.name ++ colon :: (escape profile.uuid ++ colon :: escape profile.type)

namespace Manager

variable (manager : Manager)

/-- The output of `device status` -/
def deviceStatus : Text := printed (manager.devices.map Device.status)

/-- The output with the kinds of the devices. -/
def deviceKinds : Text := printed (manager.devices.map Device.kind)

/-- The output of `device wifi list` -/
def wifiList : Text := printed (manager.networks.map Network.line)

/-- The output with the kinds of the connections. -/
def profileKinds : Text := printed (manager.profiles.map Profile.kind)

/-- The output with their names. -/
def profileLines : Text := printed (manager.profiles.map Profile.line)

/-- `nmcli -g 802-11-wireless.ssid connection show "$uuid"` -/
def storedSsid (uuid : Text) : Text :=
  match manager.profiles.find? (·.uuid = uuid) with
  | none => []
  | some profile => escape profile.ssid ++ [newline]

end Manager

/-- A network is printed on one line. -/
theorem Network.newline_notMem_line (network : Network) : newline ∉ network.line := by
  intro member
  unfold line at member
  rw [List.mem_append, List.mem_cons] at member
  rcases member with mark | sep | name
  · split at mark <;> exact absurd mark (by decide +kernel)
  · exact absurd sep (by decide)
  · exact notMem_escape network.ssidLine (by decide) name

/-- So is the status of a device. -/
theorem Device.newline_notMem_status (device : Device) : newline ∉ device.status := by
  rw [status, device.nameWord.escape_eq, device.typeWord.escape_eq, device.stateWord.escape_eq]
  simp only [List.mem_append, List.mem_cons, not_or]
  refine ⟨device.nameWord.newline_notMem, by decide, device.typeWord.newline_notMem, by decide,
    device.stateWord.newline_notMem, by decide, ?_⟩
  exact notMem_escape device.connectionLine (by decide)

theorem Device.newline_notMem_kind (device : Device) : newline ∉ device.kind := by
  rw [kind, device.nameWord.escape_eq, device.typeWord.escape_eq]
  simp only [List.mem_append, List.mem_cons, not_or]
  exact ⟨device.nameWord.newline_notMem, by decide, device.typeWord.newline_notMem⟩

/-- So is the kind of a connection. -/
theorem Profile.newline_notMem_kind (profile : Profile) : newline ∉ profile.kind := by
  rw [kind, profile.uuidWord.escape_eq, profile.typeWord.escape_eq]
  simp only [List.mem_append, List.mem_cons, not_or]
  exact ⟨profile.uuidWord.newline_notMem, by decide, profile.typeWord.newline_notMem⟩

theorem Profile.newline_notMem_line (profile : Profile) : newline ∉ profile.line := by
  rw [line, profile.uuidWord.escape_eq, profile.typeWord.escape_eq]
  simp only [List.mem_append, List.mem_cons, not_or]
  refine ⟨notMem_escape profile.nameLine (by decide), by decide,
    profile.uuidWord.newline_notMem, by decide, profile.typeWord.newline_notMem⟩

/-- A printed list is read back line by line. -/
theorem records_printed_map {α : Type} {line : α → Text} (clean : ∀ a, newline ∉ line a)
    (entries : List α) : records (printed (entries.map line)) = entries.map line := by
  refine records_printed fun row member => ?_
  obtain ⟨entry, -, rfl⟩ := List.mem_map.mp member
  exact clean entry

namespace Manager

variable (manager : Manager)

/-- Of a stored profile, its own SSID is printed. -/
theorem storedSsid_of_mem {profile : Profile} (member : profile ∈ manager.profiles) :
    manager.storedSsid profile.uuid = escape profile.ssid ++ [newline] := by
  have found : manager.profiles.find? (·.uuid = profile.uuid) = some profile := by
    have distinct := manager.distinct
    generalize manager.profiles = profiles at member distinct
    induction profiles with
    | nil => cases member
    | cons first rest ih =>
        rw [List.map_cons, List.nodup_cons] at distinct
        rcases List.mem_cons.mp member with rfl | inside
        · exact List.find?_cons_of_pos (by simp)
        · have other : first.uuid ≠ profile.uuid := by
            intro same
            exact distinct.1 (same ▸ List.mem_map_of_mem inside)
          rw [List.find?_cons_of_neg (by simpa using other)]
          exact ih inside distinct.2
  rw [storedSsid, found]

end Manager

/-! ## Awk -/

/-- What the script relies on of `awk`: the value that `-v` gives a variable, where
backslashes are read as in a string constant, and the number that a text is taken for when it
looks like one. Blanks around it are left out, and a number can be written in more than one way
without them (with zeros in front, say). -/
structure Awk where
  assign : Text → Text
  number : Text → Option Rat
  assign_plain : ∀ {t}, backslash ∉ t → assign t = t
  number_nil : number [] = none
  number_blank : ∀ t, number (space :: t) = number t
  respelled : ∀ {t}, number t ≠ none → ∃ other, other ≠ t ∧ Word other ∧
    (∀ c ∈ other, isBlank c = false) ∧ number other = number t

/-- A word is given to a variable as it is. -/
theorem Awk.assign_word (awk : Awk) {t : Text} (word : Word t) : awk.assign t = t :=
  awk.assign_plain fun member => (word _ member).2.1 rfl

/-- So is a name without backslashes. -/
theorem Awk.assign_name (awk : Awk) {t : Text} (plain : ∀ c ∈ t, c ≠ colon ∧ c ≠ backslash) :
    awk.assign t = t :=
  awk.assign_plain fun member => (plain _ member).2 rfl

/-- `==` of two texts that come from the input. -/
def Awk.same (awk : Awk) (a b : Text) : Bool :=
  match awk.number a, awk.number b with
  | some x, some y => x = y
  | _, _ => a = b

/-- A text that is no number is the same as itself only. -/
theorem Awk.same_of_not_number {awk : Awk} {b : Text} (none : awk.number b = none) (a : Text) :
    awk.same a b = decide (a = b) := by
  unfold same
  rw [none]
  cases awk.number a <;> rfl

/-- Every text is the same as itself. -/
theorem Awk.same_self (awk : Awk) (a : Text) : awk.same a a = true := by
  unfold same
  cases awk.number a <;> simp

/-- Texts that are taken for one number are the same to `awk`. -/
theorem Awk.same_of_number {awk : Awk} {s t : Text} (numeric : awk.number t ≠ none)
    (one : awk.number s = awk.number t) : awk.same s t = true := by
  unfold same
  rw [one]
  cases number : awk.number t with
  | none => exact absurd number numeric
  | some x => simp

end Script

end Ginkgo
