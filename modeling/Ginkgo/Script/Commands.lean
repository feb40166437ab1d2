import Ginkgo.Calls.Session
import Ginkgo.Script.Nmcli
import Ginkgo.Script.Recognise

/-!
# The commands of the script

The connect script runs `nmcli` and decides by what it prints. `Ginkgo.Script.Call` has the
commands it can give and `Ginkgo.Script.Answer` what it gets back: the lists of connections are
those of NetworkManager, and everything else is an arbitrary text or status. A session of the
script keeps the two temporary files and a flag (`Ginkgo.Script.Shell`) and is left by `exit`.

What goes to the log file only is left out, and so is the expansion of file names in an
unquoted list of UUIDs, which have no characters for it.
-/

namespace Ginkgo

open CText Calls

namespace Script

/-! ## Commands -/

/-- A UUID as NetworkManager writes it. -/
structure Uuid where
  text : Text
  nonempty : text ≠ []
  plain : ∀ c ∈ text, isDigit c ∨ (97 ≤ c ∧ c ≤ 102) ∨ c = dash
  starts : text.head? ≠ some dash

/-- What `connection show` lists of a stored connection. -/
structure Listed where
  uuid : Uuid
  type : Text
  name : Text
  typeWord : Word type
  nameLine : newline ∉ name

/-- `nmcli -t -f FIELDS connection show`: `UUID,TYPE`, `NAME,UUID,TYPE` and `UUID,TYPE,NAME`. -/
inductive Listing where
  | kinds
  | lines
  | names
  deriving DecidableEq

/-- What the script reads through `$(…)`: `nmcli -g FIELD connection show UUID` with the SSID, the
key management, the flags of the password and, with `-s`, the password; `nmcli -t -f FIELDS device
status` with `DEVICE,TYPE,STATE,CONNECTION` and with `DEVICE,TYPE`; and `nmcli -t -f IN-USE,SSID
device wifi list --rescan no`. -/
inductive Query where
  | ssidOf (uuid : Text)
  | keyMgmtOf (uuid : Text)
  | pskFlagsOf (uuid : Text)
  | pskOf (uuid : Text)
  | deviceStatus
  | deviceKinds
  | wifiList
  deriving DecidableEq

/-- What the script does: `nmcli radio wifi on`, `networking on`, `device set IFACE managed yes` and
`autoconnect yes`; `connection delete UUID`, `-w 3 connection delete id NAME` and `uuid UUID`;
`-w 30 connection up ID` with `ifname IFACE` and `passwd-file` when there is one, here with what
the file holds; `connection modify ID` and `connection add type wifi` with the key management when
it is set, the password and `psk-flags 0`; `-w 30 device wifi connect SSID password PASS`; `-w 3
device disconnect DEVICE`; and `sleep 1`. -/
inductive Action where
  | radioOn
  | networkingOn
  | setManaged (iface : Text)
  | setAutoconnect (iface : Text)
  | delete (uuid : Text)
  | deleteId (name : Text)
  | deleteUuid (uuid : Text)
  | up (id iface : Text) (passwd : Option Text)
  | modify (id : Text) (keyMgmt : Option Text) (psk : Text)
  | add (ssid iface : Text) (security : Option (Text × Text))
  | wifiConnect (ssid psk iface : Text)
  | disconnect (device : Text)
  | sleep
  deriving DecidableEq

/-- What the script calls. -/
inductive Call where
  | list (fields : Listing)
  | read (query : Query)
  | act (action : Action)
  deriving DecidableEq

/-- The status of a command and what it has printed. -/
structure Reply where
  rc : Nat
  out : Text
  deriving DecidableEq

/-- What it gets: a list of connections, a text, or the end of a command. -/
abbrev Answer : Call → Type
  | .list _ => List Listed
  | .read _ => Text
  | .act _ => Reply

/-- The calls and what they have returned, the last one first. -/
abbrev ScriptLog := Log Call Answer

/-! ## The shell -/

/-- The temporary files and `GAVE_PSK`. -/
structure Shell where
  attempt : Option Text := none
  pskFile : Option Text := none
  gavePsk : Bool := false
  deriving DecidableEq

/-- The status that the script exits with, and what it has printed by then. -/
structure Ending where
  code : Nat
  out : Text
  deriving DecidableEq

/-- A function of the script, which may end it. -/
abbrev Sh := Session Shell Ending Call Answer

/-- `awk`, and `echo` of the shell, which may read backslashes as escapes and a text that begins
with a dash as an option. -/
structure Host where
  awk : Awk
  echo : Text → Text
  echo_plain : ∀ {t}, backslash ∉ t → t.head? ≠ some dash → echo t = t ++ [newline]

/-- A list of the stored connections. -/
def connections (fields : Listing) : Sh (List Listed) := Session.request (Call.list fields)

/-- A query whose answer is read. -/
def ask (query : Query) : Sh Text := Session.request (Call.read query)

/-- A command whose output is not read. -/
def quiet (action : Action) : Sh Bool := do
  let reply : Reply ← Session.request (Call.act action)
  return reply.rc = 0

/-- `run`: the output is kept in the attempt file. -/
def run (action : Action) : Sh Bool := do
  let reply : Reply ← Session.request (Call.act action)
  Session.modify fun shell => { shell with attempt := some (shell.attempt.getD [] ++ reply.out) }
  return reply.rc = 0

/-! ## Reading output -/

/-- `nmcli -t -f UUID,TYPE connection show` -/
def Listed.kind (row : Listed) : Text := escape row.uuid.text ++ colon :: escape row.type

/-- `nmcli -t -f NAME,UUID,TYPE connection show` -/
def Listed.line (row : Listed) : Text :=
  escape row.name ++ colon :: (escape row.uuid.text ++ colon :: escape row.type)

/-- `nmcli -t -f UUID,TYPE,NAME connection show` -/
def Listed.full (row : Listed) : Text :=
  escape row.uuid.text ++ colon :: (escape row.type ++ colon :: escape row.name)

/-- The records of `awk`: the last line may lack its end. -/
def awkRecords (out : Text) : List Text :=
  let pieces := out.splitOn newline
  if pieces.getLast? = some [] then pieces.dropLast else pieces

/-- `awk 'NF && !seen[$0]++'`: the records with something in them, once each. -/
def distinct (out : Text) : List Text :=
  ((awkRecords out).filter fun line => line.any fun c => !isBlank c).eraseDups

/-- The words of an unquoted `$(…)`. -/
def words (out : Text) : List Text := (out.splitOnP isBlank).filter (· ≠ [])

/-- A letter in lower case. -/
def lower (c : UInt8) : UInt8 := if 65 ≤ c ∧ c ≤ 90 then c + 32 else c

/-- `grep -qiE 'PATTERN|…'`, for patterns in lower case. -/
def mentions (patterns : List String) (file : Text) : Bool :=
  patterns.any fun pattern => (awkRecords file).any fun line => has (line.map lower) (txt pattern)

/-- `st` of `live_ok`. -/
def stateOf (awk : Awk) (status iface : Text) : Text :=
  let ifc := awk.assign iface
  let row := (awkRecords status).find? fun line =>
    field 1 line = txt "wifi" ∧ (ifc = [] ∨ awk.same (field 0 line) ifc)
  substitute <|
    match row with
    | none => []
    | some line => field 2 line ++ [newline]

/-- The second `awk` of `live_ok`. -/
def usesNetwork (awk : Awk) (rows ssid : Text) : Bool :=
  (awkRecords rows).any fun line => saysInUse line && awk.same (field 1 line) (awk.assign ssid)

/-! ## Lists of UUIDs -/

/-- Something without a blank in it. -/
def Solid (t : Text) : Prop := t ≠ [] ∧ ∀ c ∈ t, isBlank c = false

/-- A solid text is on one line. -/
theorem Solid.newline_notMem {t : Text} (solid : Solid t) : newline ∉ t := by
  intro member
  exact absurd (solid.2 _ member) (by decide)

/-- The characters of a UUID are neither blank nor escaped. -/
theorem Uuid.byte_plain (uuid : Uuid) {c : UInt8} (member : c ∈ uuid.text) :
    isBlank c = false ∧ c ≠ colon ∧ c ≠ backslash := by
  have plain := uuid.plain c member
  simp only [isDigit, dash, decide_eq_true_eq, UInt8.le_iff_toNat_le, UInt8.ext_iff] at plain
  simp only [isBlank, space, tab, newline, colon, backslash, ne_eq, decide_eq_false_iff_not,
    UInt8.ext_iff]
  simp only [UInt8.reduceToNat] at plain ⊢
  omega

/-- A UUID is solid. -/
theorem Uuid.solid (uuid : Uuid) : Solid uuid.text :=
  ⟨uuid.nonempty, fun _ member => (uuid.byte_plain member).1⟩

/-- It is printed as it is. -/
theorem Uuid.word (uuid : Uuid) : Word uuid.text := by
  intro c member
  obtain ⟨solid, noColon, noBackslash⟩ := uuid.byte_plain member
  refine ⟨noColon, noBackslash, ?_⟩
  rintro rfl
  exact absurd solid (by decide)

/-- It is echoed as it is, by every shell. -/
theorem Host.echo_uuid (host : Host) (uuid : Uuid) :
    host.echo uuid.text = uuid.text ++ [newline] :=
  host.echo_plain (fun member => (uuid.byte_plain member).2.2 rfl) uuid.starts

/-- The records of `awk` are the lines that were printed. -/
theorem awkRecords_printed {rows : List Text} (clean : ∀ row ∈ rows, newline ∉ row) :
    awkRecords (printed rows) = rows := by
  have ended : ((printed rows).splitOn newline).getLast? = some [] := by
    induction rows with
    | nil => rfl
    | cons row rows ih =>
        rw [printed_cons, List.splitOn_append_cons_self_of_not_mem (clean row List.mem_cons_self),
          List.getLast?_cons, ih fun other member => clean other (List.mem_cons_of_mem row member)]
        rfl
  rw [awkRecords, if_pos ended]
  exact records_printed clean

section Solid

variable {rows : List Text} (solid : ∀ row ∈ rows, Solid row)

include solid

/-- Each of the printed rows is there once. -/
theorem distinct_printed : distinct (printed rows) = rows.eraseDups := by
  rw [distinct, awkRecords_printed fun row member => (solid row member).newline_notMem]
  congr 1
  rw [List.filter_eq_self]
  intro row member
  obtain ⟨c, rest, rfl⟩ := List.exists_cons_of_ne_nil (solid row member).1
  simp [(solid _ member).2 c List.mem_cons_self]

/-- Printed rows are words, each of them one. -/
theorem words_printed : words (printed rows) = rows := by
  induction rows with
  | nil => rfl
  | cons row rows ih =>
      have rest := ih fun other member => solid other (List.mem_cons_of_mem row member)
      have first := solid row List.mem_cons_self
      rw [words, printed_cons, List.splitOnP_append_cons_of_forall_mem first.2 newline (by decide),
        List.filter_cons_of_pos (by simpa using first.1)]
      exact congrArg (row :: ·) rest

end Solid

/-- Nothing of a solid text is trimmed. -/
theorem trim_of_solid {t : Text} (solid : Solid t) : trim t = t := trim_of_notBlank solid.2

/-! ## Rows of the lists -/

/-- What `read` leaves for its last variable has what follows a later colon at its end. -/
theorem suffix_read2 (front rest : Text) :
    ∃ left : Text, (read2 (front ++ colon :: rest)).2 = lastField left ∧ rest <:+ left := by
  by_cases split : colon ∈ front
  · obtain ⟨before, after, rfl, first⟩ := List.eq_append_cons_of_mem split
    rw [List.append_assoc, List.cons_append, read2_append first]
    exact ⟨_, rfl, (List.suffix_cons colon rest).trans (List.suffix_append after _)⟩
  · rw [read2_append split]
    exact ⟨rest, rfl, List.suffix_rfl⟩

/-- The type of a wifi connection has no colon and does not end like a UUID. -/
theorem isWifiType_word {type : Text} (wifi : isWifiType type = true) :
    colon ∉ type ∧ ∀ c, type.getLast? = some c → isDigit c = false ∧ ¬(97 ≤ c ∧ c ≤ 102) ∧
      c ≠ dash := by
  rw [isWifiType, decide_eq_true_eq] at wifi
  rcases wifi with rfl | rfl
  · refine ⟨by decide +kernel, fun c last => ?_⟩
    cases (by decide +kernel : (txt "802-11-wireless").getLast? = some 115).symm.trans last
    decide
  · refine ⟨by decide +kernel, fun c last => ?_⟩
    cases (by decide +kernel : (txt "wifi").getLast? = some 105).symm.trans last
    decide

/-- What is left of a line after a colon too many is not the type of a wifi connection. -/
theorem Listed.not_isWifiType_lastField {row : Listed} {left : Text}
    (ends : row.uuid.text ++ colon :: row.type <:+ left) : isWifiType (lastField left) ≠ true := by
  intro wifi
  obtain ⟨noColon, last⟩ := isWifiType_word wifi
  rcases lastField_cases left with whole | cut
  · rw [whole] at noColon
    exact noColon (ends.subset (by simp))
  · -- Only a type that is empty puts the colon at the end, and then the UUID stands before it.
    obtain ⟨before, split⟩ := ends
    rw [cut] at split
    obtain empty | ⟨front, c, ended⟩ := row.type.eq_nil_or_concat
    · rw [empty, ← List.append_assoc, List.append_left_inj] at split
      obtain ⟨start, c, uuid⟩ := (row.uuid.text.eq_nil_or_concat).resolve_left row.uuid.nonempty
      have plain := row.uuid.plain c (by rw [uuid]; simp)
      have other := last c (by rw [← split, uuid]; simp)
      simp [other] at plain
    · have same : c = colon := by
        have whole : before ++ (row.uuid.text ++ colon :: (front ++ [c])) =
            (before ++ row.uuid.text ++ colon :: front) ++ [c] := by
          simp
        rw [ended, List.concat_eq_append, whole] at split
        exact (List.cons.inj (List.append_inj_right' split rfl)).1
      exact row.typeWord.colon_notMem (by rw [ended, same]; simp)

/-- A row is taken for a wifi one only when its name has no colon, and then it is read as it is. -/
theorem Listed.read3_line {row : Listed} (wifi : isWifiType (read3 row.line).2.2 = true) :
    read3 row.line = (escape row.name, row.uuid.text, row.type) := by
  have line : row.line = escape row.name ++ colon :: (row.uuid.text ++ colon :: row.type) := by
    rw [Listed.line, row.uuid.word.escape_eq, row.typeWord.escape_eq]
  by_cases split : colon ∈ escape row.name
  · exfalso
    obtain ⟨before, after, named, first⟩ := List.eq_append_cons_of_mem split
    obtain ⟨left, read, ends⟩ := suffix_read2 after (row.uuid.text ++ colon :: row.type)
    rw [line, named, List.append_assoc, List.cons_append, read3, splitFirst_append first] at wifi
    exact not_isWifiType_lastField ends (read ▸ wifi)
  · rw [line, read3_append split row.uuid.word.colon_notMem,
      lastField_of_notMem row.typeWord.colon_notMem]

/-- The kind of a connection is read back. -/
theorem Listed.read2_kind (row : Listed) : read2 row.kind = (row.uuid.text, row.type) := by
  rw [Listed.kind, row.uuid.word.escape_eq, row.typeWord.escape_eq,
    read2_append row.uuid.word.colon_notMem, lastField_of_notMem row.typeWord.colon_notMem]

/-- Of its name, `read` may lose a colon at the end. -/
theorem Listed.read3_full (row : Listed) :
    read3 row.full = (row.uuid.text, row.type, lastField (escape row.name)) := by
  rw [Listed.full, row.uuid.word.escape_eq, row.typeWord.escape_eq,
    read3_append row.uuid.word.colon_notMem row.typeWord.colon_notMem]

/-- A connection is listed on a line. -/
theorem Listed.newline_notMem_full (row : Listed) : newline ∉ row.full := by
  rw [Listed.full, row.uuid.word.escape_eq, row.typeWord.escape_eq]
  simp only [List.mem_append, List.mem_cons, not_or]
  exact ⟨row.uuid.word.newline_notMem, by decide, row.typeWord.newline_notMem, by decide,
    notMem_escape row.nameLine (by decide)⟩

theorem Listed.newline_notMem_kind (row : Listed) : newline ∉ row.kind := by
  rw [Listed.kind, row.uuid.word.escape_eq, row.typeWord.escape_eq]
  simp only [List.mem_append, List.mem_cons, not_or]
  exact ⟨row.uuid.word.newline_notMem, by decide, row.typeWord.newline_notMem⟩

theorem Listed.newline_notMem_line (row : Listed) : newline ∉ row.line := by
  rw [Listed.line, row.uuid.word.escape_eq, row.typeWord.escape_eq]
  simp only [List.mem_append, List.mem_cons, not_or]
  exact ⟨notMem_escape row.nameLine (by decide), by decide, row.uuid.word.newline_notMem, by decide,
    row.typeWord.newline_notMem⟩

end Script

end Ginkgo
