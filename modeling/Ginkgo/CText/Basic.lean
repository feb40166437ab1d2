import Mathlib.Data.List.Infix
import Mathlib.Data.List.TakeWhile
import Mathlib.Data.UInt

/-!
# C strings

The contents of a C string are a list of bytes. This file has the operations of
`<string.h>` and `<stdlib.h>` that text-handling C programs use on them: search
(`CText.strstr`), cutting at a byte, splitting into lines as `strtok_r` does,
and reading numbers. A search for a pattern that cannot straddle a boundary finds
the first occurrence after it (`CText.strstr_append_of_notMem`).
-/

namespace CText

/-- The bytes of a C string before its terminator. -/
abbrev Text := List UInt8

/-- The bytes of a string literal. -/
def txt (s : String) : Text := s.toByteArray.data.toList

/-- The end of a line. -/
def newline : UInt8 := 10

/-- `\r` -/
def carriageReturn : UInt8 := 13

/-- `\t` -/
def tab : UInt8 := 9

/-- A space. -/
def space : UInt8 := 32

/-- The separator of `nmcli -t`. -/
def colon : UInt8 := 58

/-- What it escapes with. -/
def backslash : UInt8 := 92

/-- The sign of a number, and one of the characters before the suffix of a sibling. -/
def dash : UInt8 := 45

/-- The other such character. -/
def underscore : UInt8 := 95

/-- The C string stored in a byte buffer. -/
def cstr (bytes : List UInt8) : Text := bytes.takeWhile (· ≠ 0)

/-- `strstr`: the text from the first occurrence of the pattern on. -/
def strstr (buf pat : Text) : Option Text :=
  if pat.isPrefixOf buf then some buf
  else match buf with
    | [] => none
    | _ :: rest => strstr rest pat

/-- Whether the pattern occurs: `strstr(buf, pat) != NULL`. -/
def has (buf pat : Text) : Bool := (strstr buf pat).isSome

/-- Cut a string at the first occurrence of a byte, as storing a terminator over
`strchr(s, c)` does. -/
def cutAt (c : UInt8) (s : Text) : Text := s.takeWhile (· ≠ c)

/-- The nonempty lines of a buffer, as `strtok_r(buf, "\n", &save)` delivers them. -/
def lines (buf : Text) : List Text := (buf.splitOn newline).filter (· ≠ [])

/-- Skip blanks and tabs. -/
def skipBlanks (s : Text) : Text := s.dropWhile fun c => c = space ∨ c = tab

/-- `isspace` in the C locale. -/
def isSpace (c : UInt8) : Bool := c = space ∨ (9 ≤ c ∧ c ≤ 13)

/-- `isdigit` -/
def isDigit (c : UInt8) : Bool := 48 ≤ c ∧ c ≤ 57

/-- The value of a run of digits after the value read so far. -/
def digitsValue (value : Nat) (digits : Text) : Nat :=
  digits.foldl (fun value c => 10 * value + (c.toNat - 48)) value

/-- `strtol(s, NULL, 10)` with a 64-bit `long`; nothing when no digit is read. -/
def strtol (s : Text) : Option Int :=
  let body := s.dropWhile isSpace
  let negative := body.head? = some dash
  let unsigned := if body.head? = some dash ∨ body.head? = some 43 then body.tail else body
  let digits := unsigned.takeWhile isDigit
  if digits = [] then none
  else
    let value : Int := if negative then -(digitsValue 0 digits : Int) else digitsValue 0 digits
    some (max (-2 ^ 63) (min value (2 ^ 63 - 1)))

/-- `%d` of `scanf`: a `long` narrowed to a 32-bit `int`. -/
def scanInt (s : Text) : Option Int := (strtol s).map fun value => value.bmod (2 ^ 32)

/-- `atoi`. -/
def atoi (s : Text) : Int := (scanInt s).getD 0

/-- `%d` of `printf`. -/
def decimal : Int → Text
  | .ofNat n => (Nat.toDigits 10 n).map fun c => UInt8.ofNat c.toNat
  | .negSucc n => dash :: (Nat.toDigits 10 (n + 1)).map fun c => UInt8.ofNat c.toNat

/-! ## Searching -/

/-- Nothing occurs in the empty text. -/
theorem strstr_nil_of_ne {pat : Text} (nonempty : pat ≠ []) : strstr [] pat = none := by
  cases pat with
  | nil => exact absurd rfl nonempty
  | cons c rest => simp [strstr, List.isPrefixOf]

/-- A pattern at the front is found there. -/
theorem strstr_of_isPrefix {buf pat : Text} (starts : pat <+: buf) :
    strstr buf pat = some buf := by
  unfold strstr
  rw [if_pos (List.isPrefixOf_iff_prefix.mpr starts)]

/-- Otherwise it is looked for behind the first byte. -/
theorem strstr_cons_of_not_isPrefix {c : UInt8} {rest pat : Text} (starts : ¬pat <+: c :: rest) :
    strstr (c :: rest) pat = strstr rest pat := by
  rw [strstr, if_neg (fun found => starts (List.isPrefixOf_iff_prefix.mp found))]

/-- The pattern is found exactly when it occurs. -/
theorem has_iff_isInfix {buf pat : Text} : has buf pat ↔ pat <:+: buf := by
  unfold has
  induction buf with
  | nil =>
      by_cases empty : pat = []
      · simp [empty, strstr]
      · simp [strstr_nil_of_ne empty, List.infix_nil, empty]
  | cons c rest ih =>
      by_cases starts : pat <+: c :: rest
      · simp [strstr_of_isPrefix starts, starts.isInfix]
      · rw [strstr_cons_of_not_isPrefix starts, ih, List.infix_cons_iff]
        simp [starts]

/-- What is not found does not occur. -/
theorem strstr_eq_none_iff {buf pat : Text} : strstr buf pat = none ↔ ¬pat <:+: buf := by
  rw [← has_iff_isInfix, has]
  cases strstr buf pat <;> simp

/-- A pattern starting with a byte that `front` lacks is first found after `front`. -/
theorem strstr_append_of_notMem {front rest pat : Text} {c : UInt8} (absent : c ∉ front) :
    strstr (front ++ rest) (c :: pat) = strstr rest (c :: pat) := by
  induction front with
  | nil => rfl
  | cons d front ih =>
      have differs : c ≠ d := fun same => absent (by simp [same])
      have starts : ¬(c :: pat) <+: d :: (front ++ rest) := by
        simp [List.cons_prefix_cons, differs]
      rw [List.cons_append, strstr_cons_of_not_isPrefix starts,
        ih fun member => absent (by simp [member])]

/-- A pattern that starts a concatenation starts its first part, or reaches the byte after it. -/
theorem isPrefix_or_mem_of_isPrefix_append {front rest pat : Text} {stop : UInt8}
    (starts : pat <+: front ++ stop :: rest) : pat <+: front ∨ stop ∈ pat := by
  rcases List.prefix_or_prefix_of_prefix starts (List.prefix_append _ _) with inside | past
  · exact .inl inside
  · obtain ⟨tail, rfl⟩ := past
    cases tail with
    | nil => exact .inl (by simp)
    | cons c tail =>
        have same : c = stop := by
          have := (List.prefix_append_right_inj front).mp starts
          exact (List.cons_prefix_cons.mp this).1
        exact .inr (by simp [same])

/-- When the pattern does not occur in `front` and cannot run past its end, because
the byte after `front` is not one of the pattern's, it is first found after `front`. -/
theorem strstr_append_of_not_isInfix {front rest pat : Text} {stop : UInt8}
    (absent : ¬pat <:+: front) (stopped : stop ∉ pat) :
    strstr (front ++ stop :: rest) pat = strstr (stop :: rest) pat := by
  induction front with
  | nil => rfl
  | cons d front ih =>
      have starts : ¬pat <+: d :: (front ++ stop :: rest) := by
        intro found
        rw [← List.cons_append] at found
        rcases isPrefix_or_mem_of_isPrefix_append found with inside | past
        · exact absent inside.isInfix
        · exact stopped past
      rw [List.cons_append, strstr_cons_of_not_isPrefix starts]
      exact ih fun found => absent (List.infix_cons found)

/-- A pattern that occurs only after `front` is first found there. -/
theorem isInfix_append_of_notMem {front rest pat : Text} {c : UInt8} (absent : c ∉ front) :
    (c :: pat) <:+: front ++ rest ↔ (c :: pat) <:+: rest := by
  rw [← has_iff_isInfix, ← has_iff_isInfix, has, has, strstr_append_of_notMem absent]

/-! ## Lines -/

/-- A pattern that occurs in none of the first lines is first found after them. -/
theorem strstr_flatMap_lines {pat : Text} (inLine : newline ∉ pat) (nonempty : pat ≠ [])
    {texts : List Text} (absent : ∀ s ∈ texts, ¬pat <:+: s) (rest : Text) :
    strstr (texts.flatMap (fun s => s ++ [newline]) ++ rest) pat = strstr rest pat := by
  induction texts with
  | nil => rfl
  | cons s texts ih =>
      have starts : ¬pat <+: newline :: (texts.flatMap (fun s => s ++ [newline]) ++ rest) := by
        cases pat with
        | nil => exact absurd rfl nonempty
        | cons c pat =>
            intro found
            have same := (List.cons_prefix_cons.mp found).1
            exact inLine (by simp [same])
      have skipped : strstr (s ++ newline :: (texts.flatMap (fun s => s ++ [newline]) ++ rest)) pat =
          strstr (newline :: (texts.flatMap (fun s => s ++ [newline]) ++ rest)) pat :=
        strstr_append_of_not_isInfix (absent s (by simp)) inLine
      rw [List.flatMap_cons, List.append_assoc, List.append_assoc, List.singleton_append, skipped,
        strstr_cons_of_not_isPrefix starts, ih fun t member => absent t (by simp [member])]

/-- Nonempty lines joined by line ends are read back. -/
theorem lines_intercalate {texts : List Text} (clean : ∀ s ∈ texts, newline ∉ s ∧ s ≠ []) :
    lines ([newline].intercalate texts) = texts := by
  by_cases none : texts = []
  · rw [none]
    decide
  · rw [lines, List.splitOn_intercalate newline (fun s member => (clean s member).1) none]
    exact List.filter_eq_self.mpr fun s member => by simpa using (clean s member).2

/-- A line and those behind it. -/
theorem lines_append {s : Text} (clean : newline ∉ s ∧ s ≠ []) (rest : Text) :
    lines (s ++ newline :: rest) = s :: lines rest := by
  rw [lines, List.splitOn_append_cons_self_of_not_mem clean.1, List.filter_cons,
    if_pos (by simpa using clean.2)]
  rfl

/-- A text is cut off at the first such byte. -/
theorem cutAt_append {c : UInt8} {front : Text} (absent : c ∉ front) (rest : Text) :
    cutAt c (front ++ c :: rest) = front := by
  have kept : ∀ d ∈ front, decide (d ≠ c) = true := by
    intro d member
    simp only [ne_eq, decide_eq_true_eq]
    rintro rfl
    exact absent member
  rw [cutAt, List.takeWhile_append_of_pos kept]
  simp

/-- A text without such a byte stays whole. -/
theorem cutAt_of_notMem {c : UInt8} {s : Text} (absent : c ∉ s) : cutAt c s = s := by
  rw [cutAt, List.takeWhile_eq_self_iff]
  intro d member
  simp only [ne_eq, decide_eq_true_eq]
  rintro rfl
  exact absent member

/-- What is left after the cut has no such byte. -/
theorem notMem_cutAt (c : UInt8) (s : Text) : c ∉ cutAt c s := by
  intro member
  have differs := List.mem_takeWhile_imp member
  simp at differs

/-- Cutting at the separator leaves the first line. -/
theorem cutAt_intercalate {c : UInt8} {first : Text} (absent : c ∉ first) (texts : List Text) :
    cutAt c ([c].intercalate (first :: texts)) = first := by
  cases texts with
  | nil => simpa using cutAt_of_notMem absent
  | cons second texts => simpa using cutAt_append absent _

end CText
