import Ginkgo.CText.Table
import Ginkgo.CText.Terse
import Ginkgo.Hud.Poll

/-!
# The array accesses of the job slot

`poll_job` fills `job_buf`, and the three parsers fill `fields` with the parts of a line;
`parse_scan` fills `aps` with the rows. Here every store is made through its counter and fails
outside the array, and the limits of the loops are those of the source. Everything stays inside
its array but one store: after eight separators `parse_scan` stores a ninth field
(`Ginkgo.Checked.job_inBounds_iff`).
-/

namespace Ginkgo

open CText

namespace Checked

/-! ## Splitting a line -/

/-- The loop that splits a line at colons while fewer than `limit` fields are stored, with the
store of the last field after it. `field` is what has been read of the current one. -/
def splitLoop {size : Nat} (escapes : Bool) (limit : Nat) :
    Text → Text → Table size Text → Option (Table size Text)
  | field, [], fields => fields.push field
  | field, [c], fields =>
      if fields.count < limit then
        if c = colon then (fields.push field).bind fun fields => splitLoop escapes limit [] [] fields
        else splitLoop escapes limit (field ++ [c]) [] fields
      else fields.push (field ++ [c])
  | field, c :: d :: rest, fields =>
      if fields.count < limit then
        if escapes ∧ c = backslash then splitLoop escapes limit (field ++ [c, d]) rest fields
        else if c = colon then
          (fields.push field).bind fun fields => splitLoop escapes limit [] (d :: rest) fields
        else splitLoop escapes limit (field ++ [c]) (d :: rest) fields
      else fields.push (field ++ c :: d :: rest)

/-- The parts of a line, as far as the limit goes. -/
def parts (escapes : Bool) (limit : Nat) (line : Text) : List Text :=
  if escapes then splitFields limit line else splitColons limit line

/-- The parts of a line of which the first field has been begun. -/
def begun (field : Text) : List Text → List Text
  | [] => [field]
  | first :: rest => (field ++ first) :: rest

/-- A field that is begun twice is begun with both texts. -/
theorem begun_begun (field more : Text) (fields : List Text) :
    begun field (begun more fields) = begun (field ++ more) fields := by
  cases fields <;> simp [begun]

/-- Beginning with nothing changes nothing. -/
theorem begun_nil_parts (escapes : Bool) (limit : Nat) (line : Text) :
    begun [] (parts escapes limit line) = parts escapes limit line := by
  have nonempty : parts escapes limit line ≠ [] := by
    unfold parts
    split
    · cases limit with
      | zero => simp [splitFields]
      | succ limit =>
          rw [splitFields]
          split <;> simp
    · cases limit with
      | zero => simp [splitColons]
      | succ limit =>
          rw [splitColons]
          split <;> simp
  obtain ⟨first, rest, same⟩ := List.exists_cons_of_ne_nil nonempty
  rw [same]
  rfl

/-- Without fields to store the line is the last one. -/
theorem parts_zero (escapes : Bool) (line : Text) : parts escapes 0 line = [line] := by
  cases escapes <;> rfl

/-- An empty line is one empty field. -/
theorem parts_nil (escapes : Bool) (limit : Nat) : parts escapes limit [] = [[]] := by
  cases escapes <;> cases limit <;> simp [parts, splitFields, splitColons, cutField]

/-- A colon ends the field. -/
theorem parts_colon (escapes : Bool) (limit : Nat) (rest : Text) :
    parts escapes (limit + 1) (colon :: rest) = [] :: parts escapes limit rest := by
  cases escapes with
  | false => simp [parts, splitColons, cutAt]
  | true => simp [parts, splitFields, cutField_colon]

/-- An escaped byte belongs to the field. -/
theorem parts_escape (limit : Nat) (d : UInt8) (rest : Text) :
    parts true (limit + 1) (backslash :: d :: rest) =
      begun [backslash, d] (parts true (limit + 1) rest) := by
  simp only [parts, if_true, splitFields, cutField]
  cases cutField rest with
  | mk field after => cases after <;> rfl

/-- Any other byte belongs to the field. -/
theorem parts_plain {escapes : Bool} (limit : Nat) {c : UInt8} {rest : Text} (inside : c ≠ colon)
    (plain : ¬(escapes = true ∧ c = backslash ∧ rest ≠ [])) :
    parts escapes (limit + 1) (c :: rest) = begun [c] (parts escapes (limit + 1) rest) := by
  cases escapes with
  | false =>
      have other : decide (c ≠ colon) = true := by simpa using inside
      have taken : cutAt colon (c :: rest) = c :: cutAt colon rest :=
        List.takeWhile_cons_of_pos other
      have dropped : (c :: rest).dropWhile (· ≠ colon) = rest.dropWhile (· ≠ colon) :=
        List.dropWhile_cons_of_pos other
      simp only [parts, Bool.false_eq_true, if_false, splitColons, List.mem_cons, inside.symm,
        false_or, taken, dropped]
      split <;> rfl
  | true =>
      by_cases slash : c = backslash
      · have last : rest = [] := by
          by_contra more
          exact plain ⟨rfl, slash, more⟩
        rw [last, slash]
        rfl
      · simp only [parts, if_true, splitFields, cutField_cons_of_ne slash inside]
        cases cutField rest with
        | mk field after => cases after <;> rfl

/-- A field that a colon ends is stored, and the loop goes on after it. -/
theorem push_bind_parts {size : Nat} {escapes : Bool} {limit : Nat} {field rest : Text}
    {fields : Table size Text} {loop : Table size Text → Option (Table size Text)}
    (room : fields.count < limit)
    (goes : ∀ stored : Table size Text, stored.count ≤ limit →
      loop stored = stored.pushAll (begun [] (parts escapes (limit - stored.count) rest))) :
    (fields.push field).bind loop =
      fields.pushAll (begun field (parts escapes (limit - fields.count) (colon :: rest))) := by
  have one : limit - fields.count = limit - fields.count - 1 + 1 := by omega
  rw [one, parts_colon, begun, List.append_nil, Table.pushAll]
  refine Option.bind_congr fun stored pushed => ?_
  have counted : stored.count = fields.count + 1 := by
    simp [Table.count, (Table.push_eq_some_iff.mp pushed).2]
  have same : limit - fields.count - 1 = limit - stored.count := by omega
  rw [goes stored (by omega), begun_nil_parts, same]

/-- **The loop stores the parts of the line one after the other.** -/
theorem splitLoop_eq {size : Nat} (escapes : Bool) (limit : Nat) (field line : Text)
    (fields : Table size Text) (below : fields.count ≤ limit) :
    splitLoop escapes limit field line fields =
      fields.pushAll (begun field (parts escapes (limit - fields.count) line)) := by
  have one {fields : Table size Text} (room : fields.count < limit) :
      limit - fields.count = limit - fields.count - 1 + 1 := by
    omega
  have none {fields : Table size Text} (below : fields.count ≤ limit)
      (full : ¬fields.count < limit) : limit - fields.count = 0 := by
    omega
  fun_induction splitLoop escapes limit field line fields with
  | case1 field fields => simp [parts_nil, begun]
  | case2 field fields room ih => exact push_bind_parts room ih
  | case3 field c fields room inside ih =>
      have plain : ¬(escapes = true ∧ c = backslash ∧ ([] : Text) ≠ []) := fun both => both.2.2 rfl
      rw [ih below, one room, parts_plain _ inside plain, begun_begun]
  | case4 field c fields full =>
      rw [none below full, parts_zero]
      simp [begun]
  | case5 field c d rest fields room escaped ih =>
      obtain ⟨rfl, rfl⟩ := escaped
      rw [ih below, one room, parts_escape, begun_begun]
  | case6 field d rest fields room plain ih => exact push_bind_parts room ih
  | case7 field c d rest fields room plain inside ih =>
      have other : ¬(escapes = true ∧ c = backslash ∧ d :: rest ≠ []) :=
        fun both => plain ⟨both.1, both.2.1⟩
      rw [ih below, one room, parts_plain _ inside other, begun_begun]
  | case8 field c d rest fields full =>
      rw [none below full, parts_zero]
      simp [begun]

/-- The fields of a line, stored in an array of `size` pointers. -/
def fieldsOf (size : Nat) (escapes : Bool) (limit : Nat) (line : Text) :
    Option (Table size Text) :=
  splitLoop escapes limit [] line (.empty size Text)

/-- The fields are stored when there is room for them. -/
theorem fieldsOf_eq_some_iff {size limit : Nat} {escapes : Bool} {line : Text}
    {fields : Table size Text} :
    fieldsOf size escapes limit line = some fields ↔
      (parts escapes limit line).length ≤ size ∧ fields.entries = parts escapes limit line := by
  have none : (Table.empty size Text).count ≤ limit := Nat.zero_le limit
  rw [fieldsOf, splitLoop_eq escapes limit [] line _ none, begun_nil_parts,
    Table.pushAll_eq_some_iff]
  simp [Table.count]

/-- The unescaped colons of a line. -/
def separators : Text → Nat
  | [] => 0
  | [c] => if c = colon then 1 else 0
  | c :: d :: rest =>
      if c = backslash then separators rest
      else if c = colon then separators (d :: rest) + 1
      else separators (d :: rest)

/-- Beginning a field leaves the number of fields. -/
theorem length_begun_parts (field : Text) (escapes : Bool) (limit : Nat) (line : Text) :
    (begun field (parts escapes limit line)).length = (parts escapes limit line).length := by
  rw [← begun_nil_parts escapes limit line, begun_begun]
  cases parts escapes limit line <;> rfl

/-- A line with escapes has one part more than separators, as far as the limit goes. -/
theorem length_parts (limit : Nat) (line : Text) :
    (parts true limit line).length = min limit (separators line) + 1 := by
  induction limit generalizing line with
  | zero => simp [parts_zero]
  | succ limit ih =>
      fun_induction separators line with
      | case1 => simp [parts_nil]
      | case2 =>
          rw [parts_colon, List.length_cons, ih]
          simp [separators]
      | case3 c inside =>
          rw [parts_plain limit inside fun both => both.2.2 rfl, length_begun_parts, parts_nil]
          simp
      | case4 d rest more => rw [parts_escape, length_begun_parts, more]
      | case5 d rest plain more =>
          rw [parts_colon, List.length_cons, ih]
          omega
      | case6 c d rest plain inside more =>
          rw [parts_plain limit inside fun both => plain both.2.1, length_begun_parts, more]

/-- Whatever the line, it has at most one part more than the limit. -/
theorem length_parts_le (escapes : Bool) (limit : Nat) (line : Text) :
    (parts escapes limit line).length ≤ limit + 1 := by
  cases escapes with
  | true =>
      rw [length_parts]
      omega
  | false =>
      unfold parts
      simp only [Bool.false_eq_true, if_false]
      induction limit generalizing line with
      | zero => simp [splitColons]
      | succ limit ih =>
          rw [splitColons]
          split
          · simpa using ih _
          · simp

/-! ## The parsers -/

/-- The lines of a device list; `fields` has six elements, and at most five are stored before the
last. -/
def infoLoop (seen : Hud.InfoScan) : List Text → Option Hud.InfoScan
  | [] => some seen
  | line :: rest =>
      (fieldsOf 6 false 5 line).bind fun _ => infoLoop (Hud.parseInfoLine seen line) rest

/-- The lines of a link report, up to a row in use; `fields` has six elements, and at most four are
stored before the last. -/
def linkLoop : List Text → Option (Option (Text × Text × Option Text))
  | [] => some none
  | line :: rest =>
      (fieldsOf 6 true 4 line).bind fun _ =>
        match Hud.parseLinkRow line with
        | some row => some (some row)
        | none => linkLoop rest

/-- The lines of a scan list while `aps` has room; `fields` has eight elements, and up to eight are
stored before the last. -/
def scanLoop (hold : Text) : List Text → Table maxAp Ap → Option (Table maxAp Ap)
  | [], aps => some aps
  | line :: rest, aps =>
      if aps.count < maxAp then
        (fieldsOf 8 true 8 line).bind fun _ =>
          match Hud.parseScanRow hold line with
          | some ap => (aps.push ap).bind fun aps => scanLoop hold rest aps
          | none => scanLoop hold rest aps
      else some aps

/-- What a parser has read from the output. -/
inductive Tokens where
  | none
  | info (seen : Hud.InfoScan)
  | scan (aps : List Ap)
  | link (row : Option (Text × Text × Option Text))

/-- The text in which `parse_scan` looks for rows. -/
def scanText (buf : Text) : Text := if Hud.scanError buf then cutAt newline buf else buf

/-- What the parser of a report does with its arrays; nothing when it leaves them. -/
def tokenize (kind : JobKind) (hold buf : Text) : Option Tokens :=
  match kind with
  | .info => if Hud.infoError buf then some .none else (infoLoop {} (lines buf)).map .info
  | .scan => (scanLoop hold (lines (scanText buf)) (.empty maxAp Ap)).map fun aps =>
      .scan aps.entries
  | .link => (linkLoop (lines buf)).map .link
  | _ => some .none

/-! ## The output of the child -/

/-- `sizeof(job_buf)` -/
def jobBufSize : Nat := 16384

/-- `sizeof(job_buf) - 1 - job_n`, computed without a sign. -/
def readLimit (job : Table jobBufSize UInt8) : Nat :=
  (2 ^ 64 + (jobBufSize - 1) - job.count) % 2 ^ 64

/-- A read stores what the pipe has to offer, up to the limit it is given. -/
def readJob (job : Table jobBufSize UInt8) (offered : Text) : Option (Table jobBufSize UInt8) :=
  job.pushAll (offered.take (readLimit job))

/-- The reads of a child's output, in as many parts as they come. -/
def readAll (job : Table jobBufSize UInt8) : List Text → Option (Table jobBufSize UInt8)
  | [] => some job
  | offered :: rest => (readJob job offered).bind fun job => readAll job rest

/-- What `poll_job` does with the output of a child that has ended: the terminator is stored at
the counter. -/
def runJob (kind : JobKind) (hold : Text) (reads : List Text) : Option Tokens :=
  (readAll (.empty jobBufSize UInt8) reads).bind fun job =>
    (job.push 0).bind fun _ => tokenize kind hold (cstr job.entries)

/-! ## What stays inside its array -/

/-- The fields of a line fit when the array has room for one more than the limit. -/
theorem fieldsOf_isSome {size limit : Nat} (room : limit < size) (escapes : Bool) (line : Text) :
    ∃ fields : Table size Text, fieldsOf size escapes limit line = some fields := by
  have short := length_parts_le escapes limit line
  exact ⟨⟨parts escapes limit line, by omega⟩, fieldsOf_eq_some_iff.mpr ⟨by omega, rfl⟩⟩

/-- A device list is read within bounds, as the model of `parse_info` reads it. -/
theorem infoLoop_eq (seen : Hud.InfoScan) (texts : List Text) :
    infoLoop seen texts = some (texts.foldl Hud.parseInfoLine seen) := by
  induction texts generalizing seen with
  | nil => rfl
  | cons line rest ih =>
      obtain ⟨fields, stored⟩ := fieldsOf_isSome (show 5 < 6 by decide) false line
      rw [infoLoop, stored, Option.bind_some, ih, List.foldl_cons]

/-- A link report is read within bounds, as the model of `parse_link` reads it. -/
theorem linkLoop_eq (texts : List Text) :
    linkLoop texts = some (texts.findSome? Hud.parseLinkRow) := by
  induction texts with
  | nil => rfl
  | cons line rest ih =>
      obtain ⟨fields, stored⟩ := fieldsOf_isSome (show 4 < 6 by decide) true line
      rw [linkLoop, stored, Option.bind_some, List.findSome?_cons]
      cases Hud.parseLinkRow line with
      | none => exact ih
      | some row => rfl

/-- **The fields of a scan line stay inside their array** exactly when the line has fewer than
eight separators. -/
theorem scanFields_isSome_iff (line : Text) :
    (fieldsOf 8 true 8 line).isSome ↔ separators line < 8 := by
  have length := length_parts 8 line
  constructor
  · intro stays
    obtain ⟨fields, stored⟩ := Option.isSome_iff_exists.mp stays
    have fits := (fieldsOf_eq_some_iff.mp stored).1
    omega
  · intro few
    exact Option.isSome_iff_exists.mpr ⟨⟨parts true 8 line, by omega⟩,
      fieldsOf_eq_some_iff.mpr ⟨by omega, rfl⟩⟩

/-- The lines that are split have fewer than eight separators: those before which fewer rows than
`aps` holds have been stored. -/
def LinesFit (hold : Text) (room : Nat) : List Text → Prop
  | [] => True
  | line :: rest =>
      0 < room → separators line < 8 ∧
        LinesFit hold (if (Hud.parseScanRow hold line).isSome then room - 1 else room) rest

instance decidableLinesFit (hold : Text) :
    (room : Nat) → (texts : List Text) → Decidable (LinesFit hold room texts)
  | _, [] => .isTrue trivial
  | room, line :: rest =>
      have : Decidable (LinesFit hold
          (if (Hud.parseScanRow hold line).isSome then room - 1 else room) rest) :=
        decidableLinesFit hold _ rest
      inferInstanceAs (Decidable (_ → _ ∧ _))

/-- **When the rows of a scan list stay inside their arrays.** -/
theorem scanLoop_isSome_iff (hold : Text) (texts : List Text) (aps : Table maxAp Ap) :
    (scanLoop hold texts aps).isSome ↔ LinesFit hold (maxAp - aps.count) texts := by
  induction texts generalizing aps with
  | nil => simp [scanLoop, LinesFit]
  | cons line rest ih =>
      rw [scanLoop, LinesFit]
      by_cases room : aps.count < maxAp
      · have left : 0 < maxAp - aps.count := by omega
        rw [if_pos room, ← scanFields_isSome_iff]
        simp only [left, forall_const]
        cases fieldsOf 8 true 8 line with
        | none => simp
        | some fields =>
            simp only [Option.bind_some, Option.isSome_some, true_and]
            cases Hud.parseScanRow hold line with
            | none => exact ih aps
            | some ap =>
                have stored : aps.push ap = some ⟨aps.entries ++ [ap], by
                    rw [List.length_append]
                    exact room⟩ := Table.push_eq_some_iff.mpr ⟨room, rfl⟩
                have counted (fits : (aps.entries ++ [ap]).length ≤ maxAp) :
                    maxAp - (Table.mk (aps.entries ++ [ap]) fits).count =
                      maxAp - aps.count - 1 := by
                  simp only [Table.count, List.length_append, List.length_singleton]
                  omega
                simp only [stored, Option.bind_some, ih, counted, Option.isSome_some, if_true]
      · have full : ¬0 < maxAp - aps.count := by omega
        rw [if_neg room]
        exact iff_of_true rfl fun left => absurd left full

/-- The lines that are split, said of the whole list. -/
theorem linesFit_iff {hold : Text} {room : Nat} {texts : List Text} :
    LinesFit hold room texts ↔ ∀ before line after, texts = before ++ line :: after →
      (before.filterMap (Hud.parseScanRow hold)).length < room → separators line < 8 := by
  induction texts generalizing room with
  | nil => exact iff_of_true trivial fun before line after same => by simp at same
  | cons first rest ih =>
      have stored (before : List Text) :
          ((first :: before).filterMap (Hud.parseScanRow hold)).length < room ↔
            0 < room ∧ (before.filterMap (Hud.parseScanRow hold)).length <
              if (Hud.parseScanRow hold first).isSome then room - 1 else room := by
        rw [List.filterMap_cons]
        cases Hud.parseScanRow hold first with
        | none =>
            simp only [Option.isSome_none, Bool.false_eq_true, if_false]
            omega
        | some ap =>
            simp only [List.length_cons, Option.isSome_some, if_true]
            omega
      rw [LinesFit, ih]
      constructor
      · intro fits before line after same few
        cases before with
        | nil =>
            simp only [List.nil_append, List.cons.injEq] at same
            rw [← same.1]
            exact (fits (by simpa using few)).1
        | cons head before =>
            simp only [List.cons_append, List.cons.injEq] at same
            rw [← same.1, stored] at few
            exact (fits few.1).2 before line after same.2 few.2
      · intro fits room
        refine ⟨fits [] first rest rfl (by simpa using room), ?_⟩
        intro before line after same few
        exact fits (first :: before) line after (by rw [same, List.cons_append])
          ((stored before).mpr ⟨room, few⟩)

/-- Within bounds, a scan list is read as the model of `parse_scan` reads it. -/
theorem scanLoop_entries {hold : Text} {texts : List Text} {aps stored : Table maxAp Ap}
    (stays : scanLoop hold texts aps = some stored) :
    stored.entries = (aps.entries ++ texts.filterMap (Hud.parseScanRow hold)).take maxAp := by
  induction texts generalizing aps with
  | nil =>
      rw [← Option.some.inj stays, List.filterMap_nil, List.append_nil,
        List.take_of_length_le aps.fits]
  | cons line rest ih =>
      rw [scanLoop] at stays
      split at stays
      · obtain ⟨fields, -, goes⟩ := Option.bind_eq_some_iff.mp stays
        rw [List.filterMap_cons]
        cases row : Hud.parseScanRow hold line with
        | none =>
            rw [row] at goes
            exact ih goes
        | some ap =>
            rw [row] at goes
            obtain ⟨next, pushed, last⟩ := Option.bind_eq_some_iff.mp goes
            rw [ih last, (Table.push_eq_some_iff.mp pushed).2]
            simp
      · next full =>
          have whole : aps.entries.length = maxAp := le_antisymm aps.fits (not_lt.mp full)
          rw [← Option.some.inj stays]
          exact (List.take_left' whole).symm

/-! ## What the child prints -/

/-- **The output stays inside `job_buf`**, with room for the terminator, however it is read. -/
theorem readAll_eq (job : Table jobBufSize UInt8) (room : job.count ≤ jobBufSize - 1)
    (reads : List Text) :
    ∃ filled, readAll job reads = some filled ∧ filled.count ≤ jobBufSize - 1 ∧
      filled.entries = (job.entries ++ reads.flatten).take (jobBufSize - 1) := by
  induction reads generalizing job with
  | nil =>
      refine ⟨job, rfl, room, ?_⟩
      rw [List.flatten_nil, List.append_nil, List.take_of_length_le room]
  | cons offered rest ih =>
      have limit : readLimit job = jobBufSize - 1 - job.count := by
        unfold readLimit jobBufSize at *
        omega
      have fits : (job.entries ++ offered.take (jobBufSize - 1 - job.count)).length ≤
          jobBufSize - 1 := by
        have taken := List.length_take_le (jobBufSize - 1 - job.count) offered
        rw [List.length_append]
        change job.count + _ ≤ _
        omega
      obtain ⟨next, stored, entries⟩ : ∃ next, readJob job offered = some next ∧
          next.entries = job.entries ++ offered.take (jobBufSize - 1 - job.count) := by
        refine ⟨⟨_, fits.trans (Nat.sub_le _ _)⟩, Table.pushAll_eq_some_iff.mpr ⟨?_, by rw [limit]⟩, rfl⟩
        rw [limit, Table.count, ← List.length_append]
        exact fits.trans (Nat.sub_le _ _)
      have below : next.count ≤ jobBufSize - 1 := by rw [Table.count, entries]; exact fits
      obtain ⟨filled, goes, bound, same⟩ := ih next below
      refine ⟨filled, by rw [readAll, stored]; exact goes, bound, ?_⟩
      have cut : job.entries ++ offered.take (jobBufSize - 1 - job.count) =
          (job.entries ++ offered).take (jobBufSize - 1) := by
        rw [List.take_append, List.take_of_length_le room, Table.count]
      rw [same, entries, cut, take_take_append, List.flatten_cons, List.append_assoc]

/-- The output of the child as far as it fits, up to its first zero byte. -/
def output (reads : List Text) : Text := cstr (reads.flatten.take (jobBufSize - 1))

/-- All reads together leave the output in the array, with room for its end. -/
theorem readAll_output (reads : List Text) :
    ∃ filled, readAll (.empty jobBufSize UInt8) reads = some filled ∧
      filled.count ≤ jobBufSize - 1 ∧ cstr filled.entries = output reads := by
  obtain ⟨filled, goes, bound, same⟩ :=
    readAll_eq (.empty jobBufSize UInt8) (Nat.zero_le _) reads
  exact ⟨filled, goes, bound, by rw [same]; rfl⟩

/-- It is what the model of `poll_job` has in its buffer after the reads. -/
theorem readJob_output (reads : List Text) (h : Hud) (started : h.job.buf = .empty 16384) :
    cstr (reads.foldl (fun g bytes => g.readJob bytes) h).job.buf.text = output reads := by
  have text (g : Hud) : (reads.foldl (fun g bytes => g.readJob bytes) g).job.buf.text =
      (g.job.buf.text ++ reads.flatten).take 16383 := by
    induction reads generalizing g with
    | nil =>
        have fits := g.job.buf.fits
        rw [List.foldl_nil, List.flatten_nil, List.append_nil, List.take_of_length_le (by omega)]
    | cons bytes rest ih =>
        rw [List.foldl_cons, ih]
        change ((g.job.buf.text ++ bytes).take 16383 ++ rest.flatten).take 16383 = _
        rw [take_take_append, List.flatten_cons, List.append_assoc]
  rw [text, started]
  rfl

/-! ## The whole job -/

/-- What the models of the parsers read. -/
def reading (kind : JobKind) (hold buf : Text) : Tokens :=
  match kind with
  | .info => if Hud.infoError buf then .none else .info ((lines buf).foldl Hud.parseInfoLine {})
  | .scan => .scan (((lines (scanText buf)).filterMap (Hud.parseScanRow hold)).take maxAp)
  | .link => .link ((lines buf).findSome? Hud.parseLinkRow)
  | _ => .none

/-- **Within bounds the parsers read what their models read.** -/
theorem tokenize_eq {kind : JobKind} {hold buf : Text} {tokens : Tokens}
    (stays : tokenize kind hold buf = some tokens) : tokens = reading kind hold buf := by
  cases kind with
  | info =>
      simp only [tokenize, reading, infoLoop_eq, Option.map_some] at stays ⊢
      split at stays
      · next failed => rw [if_pos failed, ← Option.some.inj stays]
      · next understood => rw [if_neg understood, ← Option.some.inj stays]
  | scan =>
      obtain ⟨aps, goes, same⟩ := Option.map_eq_some_iff.mp stays
      rw [← same, scanLoop_entries goes]
      rfl
  | link =>
      simp only [tokenize, linkLoop_eq, Option.map_some] at stays
      exact (Option.some.inj stays).symm
  | radio => exact (Option.some.inj stays).symm
  | connect => exact (Option.some.inj stays).symm
  | forget => exact (Option.some.inj stays).symm

/-- **Only a scan list can leave the arrays.** -/
theorem tokenize_isSome_iff (kind : JobKind) (hold buf : Text) :
    (tokenize kind hold buf).isSome ↔
      (kind = .scan → LinesFit hold maxAp (lines (scanText buf))) := by
  cases kind with
  | info =>
      refine iff_of_true ?_ (absurd · (by decide))
      simp only [tokenize, infoLoop_eq]
      split <;> rfl
  | scan =>
      simp only [tokenize, Option.isSome_map, scanLoop_isSome_iff, forall_const]
      rfl
  | link =>
      refine iff_of_true ?_ (absurd · (by decide))
      simp only [tokenize, linkLoop_eq]
      rfl
  | radio => exact iff_of_true rfl (absurd · (by decide))
  | connect => exact iff_of_true rfl (absurd · (by decide))
  | forget => exact iff_of_true rfl (absurd · (by decide))

/-- **When the accesses of a job stay in bounds**: `job_n` always leaves room for the terminator,
and the parsers stay inside their arrays exactly when the job is no scan, or no line that is split
before the list of rows is full has eight separators. -/
theorem job_inBounds_iff (kind : JobKind) (hold : Text) (reads : List Text) :
    (∀ first, first <+: reads → ∃ job, readAll (.empty jobBufSize UInt8) first = some job ∧
      job.count ≤ jobBufSize - 1) ∧
    ((runJob kind hold reads).isSome ↔ (kind = .scan →
      ∀ before line after, lines (scanText (output reads)) = before ++ line :: after →
        (before.filterMap (Hud.parseScanRow hold)).length < maxAp → separators line < 8)) := by
  constructor
  · intro first _
    obtain ⟨job, goes, bound, -⟩ := readAll_output first
    exact ⟨job, goes, bound⟩
  · obtain ⟨job, goes, bound, same⟩ := readAll_output reads
    have room : job.count < jobBufSize := by
      unfold jobBufSize at *
      omega
    have ended : job.push 0 = some ⟨job.entries ++ [0], by
        rw [List.length_append]
        exact room⟩ := Table.push_eq_some_iff.mpr ⟨room, rfl⟩
    rw [runJob, goes, Option.bind_some, ended, Option.bind_some, same, tokenize_isSome_iff,
      linesFit_iff]

/-- A warning of the library among the rows of a scan list is one field too many. -/
theorem scan_overruns :
    ¬∀ (kind : JobKind) (hold : Text) (reads : List Text), (runJob kind hold reads).isSome := by
  intro always
  have stays := always .scan [] [txt "Home:70:WPA2:2412 MHz:yes\n(nmcli:812): GLib-CRITICAL **: ",
    txt "10:00:00.123: g_strsplit: assertion: failed\n"]
  exact absurd stays (by decide +kernel)

end Checked

end Ginkgo
