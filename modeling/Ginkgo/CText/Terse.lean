import Ginkgo.CText.Basic

/-!
# Terse records

A line-oriented record format: fields are joined by colons, and a colon or a
backslash inside a field is preceded by a backslash. `CText.cutField` reads a
line up to its first unescaped colon and `CText.splitFields` up to a given
number of them; both read an escaped field back as written
(`CText.cutField_escape_append`), and `CText.unescape` undoes `CText.escape`
(`CText.unescape_escape`).
-/

namespace CText

/-- Put a backslash before every colon and backslash. -/
def escape : Text → Text
  | [] => []
  | c :: rest =>
      if c = colon ∨ c = backslash then backslash :: c :: escape rest else c :: escape rest

/-- Drop the backslash of every pair; a last lone backslash stays. -/
def unescape : Text → Text
  | [] => []
  | [c] => [c]
  | c :: d :: rest => if c = backslash then d :: unescape rest else c :: unescape (d :: rest)

/-- The text before the first unescaped colon, and the text after it if there is one. -/
def cutField : Text → Text × Option Text
  | [] => ([], none)
  | [c] => if c = colon then ([], some []) else ([c], none)
  | c :: d :: rest =>
      if c = backslash then (c :: d :: (cutField rest).1, (cutField rest).2)
      else if c = colon then ([], some (d :: rest))
      else (c :: (cutField (d :: rest)).1, (cutField (d :: rest)).2)

/-- Split at unescaped colons, at most `limit` times; the last field is the remainder. -/
def splitFields : Nat → Text → List Text
  | 0, s => [s]
  | limit + 1, s =>
      match cutField s with
      | (field, none) => [field]
      | (field, some rest) => field :: splitFields limit rest

/-- Split at every colon, escaped or not, at most `limit` times. -/
def splitColons : Nat → Text → List Text
  | 0, s => [s]
  | limit + 1, s =>
      if colon ∈ s then cutAt colon s :: splitColons limit ((s.dropWhile (· ≠ colon)).tail)
      else [s]

/-- A field without colons ends at the next one. -/
theorem splitColons_append (limit : Nat) {s : Text} (absent : colon ∉ s) (rest : Text) :
    splitColons (limit + 1) (s ++ colon :: rest) = s :: splitColons limit rest := by
  have kept : ∀ c ∈ s, decide (c ≠ colon) = true := by
    intro c member
    simp only [ne_eq, decide_eq_true_eq]
    rintro rfl
    exact absent member
  rw [splitColons, if_pos (by simp), cutAt_append absent, List.dropWhile_append_of_pos kept]
  simp

/-- A text without colons and backslashes is its own escape. -/
theorem escape_of_plain {s : Text} (plain : ∀ c ∈ s, c ≠ colon ∧ c ≠ backslash) :
    escape s = s := by
  induction s with
  | nil => rfl
  | cons c rest ih =>
      have head := plain c (by simp)
      rw [escape, if_neg (by simp [head.1, head.2]), ih fun d member => plain d (by simp [member])]

/-- Texts are escaped byte by byte. -/
theorem escape_append (first second : Text) :
    escape (first ++ second) = escape first ++ escape second := by
  induction first with
  | nil => rfl
  | cons c rest ih =>
      simp only [List.cons_append, escape, ih]
      split <;> rfl

/-- Only the empty text is escaped as nothing. -/
theorem escape_eq_nil_iff {s : Text} : escape s = [] ↔ s = [] := by
  cases s with
  | nil => simp [escape]
  | cons c rest => simp only [escape]; split <;> simp

/-- Escaping introduces backslashes only. -/
theorem mem_of_mem_escape {c : UInt8} {s : Text} (member : c ∈ escape s) :
    c = backslash ∨ c ∈ s := by
  induction s with
  | nil => simp [escape] at member
  | cons d rest ih =>
      rw [escape] at member
      split at member
      · simp only [List.mem_cons] at member ⊢
        rcases member with slash | same | inside
        · exact .inl slash
        · exact .inr (.inl same)
        · exact (ih inside).imp_right .inr
      · simp only [List.mem_cons] at member ⊢
        rcases member with same | inside
        · exact .inr (.inl same)
        · exact (ih inside).imp_right .inr

/-- Escaping introduces no byte but the backslash. -/
theorem notMem_escape {c : UInt8} {s : Text} (absent : c ∉ s) (other : c ≠ backslash) :
    c ∉ escape s := fun member => (mem_of_mem_escape member).elim other absent

/-- A byte other than a backslash is read as it is. -/
theorem unescape_cons_of_ne {c : UInt8} {rest : Text} (plain : c ≠ backslash) :
    unescape (c :: rest) = c :: unescape rest := by
  cases rest with
  | nil => simp [unescape]
  | cons d rest => rw [unescape, if_neg plain]

/-- **Unescaping undoes escaping.** -/
@[simp] theorem unescape_escape (s : Text) : unescape (escape s) = s := by
  induction s with
  | nil => rfl
  | cons c rest ih =>
      by_cases special : c = colon ∨ c = backslash
      · rw [escape, if_pos special, unescape, if_pos rfl, ih]
      · rw [escape, if_neg special, unescape_cons_of_ne (fun slash => special (.inr slash)), ih]

/-- A text with a special byte is not its own escape. -/
theorem escape_ne_self {s : Text} (special : ∃ c ∈ s, c = colon ∨ c = backslash) :
    escape s ≠ s := by
  have grows : ∀ t : Text, t.length ≤ (escape t).length := by
    intro t
    induction t with
    | nil => exact le_rfl
    | cons c rest ih =>
        rw [escape]
        split <;> simp only [List.length_cons] <;> omega
  intro same
  induction s with
  | nil =>
      obtain ⟨c, member, -⟩ := special
      cases member
  | cons c rest ih =>
      by_cases head : c = colon ∨ c = backslash
      · have length := congrArg List.length same
        have rest := grows rest
        rw [escape, if_pos head] at length
        simp only [List.length_cons] at length
        omega
      · rw [escape, if_neg head, List.cons.injEq] at same
        obtain ⟨d, member, marked⟩ := special
        rcases List.mem_cons.mp member with rfl | inside
        · exact head marked
        · exact ih ⟨d, inside, marked⟩ same.2

/-- What is after a separator does not change the field before it. -/
theorem cutAt_append_cons (c : UInt8) (s rest : Text) : cutAt c (s ++ c :: rest) = cutAt c s := by
  induction s with
  | nil => simp [cutAt]
  | cons d s ih =>
      by_cases stop : d = c
      · simp [cutAt, stop]
      · simp only [cutAt, List.cons_append] at ih ⊢
        rw [List.takeWhile_cons_of_pos (by simpa using stop),
          List.takeWhile_cons_of_pos (by simpa using stop), ih]

/-- Escaping marks a special byte before a colon is reached. -/
theorem backslash_mem_cutAt_escape {s : Text} (special : ∃ c ∈ s, c = colon ∨ c = backslash) :
    backslash ∈ cutAt colon (escape s) := by
  induction s with
  | nil =>
      obtain ⟨c, member, -⟩ := special
      cases member
  | cons c rest ih =>
      by_cases head : c = colon ∨ c = backslash
      · rw [escape, if_pos head, cutAt, List.takeWhile_cons_of_pos (by decide)]
        exact List.mem_cons_self
      · rw [escape, if_neg head, cutAt,
          List.takeWhile_cons_of_pos (by simpa using fun same => head (.inl same))]
        obtain ⟨d, member, marked⟩ := special
        rcases List.mem_cons.mp member with rfl | inside
        · exact absurd marked head
        · exact List.mem_cons_of_mem c (ih ⟨d, inside, marked⟩)

section Plain

variable {s t : Text} (plain : ∀ c ∈ t, c ≠ colon ∧ c ≠ backslash)

include plain

/-- Only a plain text itself is escaped to it. -/
theorem escape_eq_iff : escape s = t ↔ s = t := by
  constructor
  · intro same
    have read := congrArg unescape same
    rw [unescape_escape, ← escape_of_plain plain, unescape_escape] at read
    exact read
  · rintro rfl
    exact escape_of_plain plain

/-- An escaped text cut at its first colon is a plain text only if it is that text. -/
theorem cutAt_escape_eq_iff : cutAt colon (escape s) = t ↔ s = t := by
  constructor
  · intro same
    by_cases special : ∃ c ∈ s, c = colon ∨ c = backslash
    · have marked := backslash_mem_cutAt_escape special
      rw [same] at marked
      exact absurd rfl (plain _ marked).2
    · have clean : ∀ c ∈ s, c ≠ colon ∧ c ≠ backslash := by
        intro c member
        exact ⟨fun same => special ⟨c, member, .inl same⟩,
          fun same => special ⟨c, member, .inr same⟩⟩
      rw [escape_of_plain clean, cutAt_of_notMem fun member => (clean _ member).1 rfl] at same
      exact same
  · rintro rfl
    rw [escape_of_plain plain, cutAt_of_notMem fun member => (plain _ member).1 rfl]

end Plain

/-- A byte that does not end a field is part of it. -/
theorem cutField_cons_of_ne {c : UInt8} {rest : Text} (plain : c ≠ backslash)
    (inside : c ≠ colon) :
    cutField (c :: rest) = (c :: (cutField rest).1, (cutField rest).2) := by
  cases rest with
  | nil => simp [cutField, inside]
  | cons d rest => rw [cutField, if_neg plain, if_neg inside]

/-- A colon ends a field. -/
theorem cutField_colon (rest : Text) : cutField (colon :: rest) = ([], some rest) := by
  cases rest with
  | nil => simp [cutField]
  | cons d rest => rw [cutField, if_neg (by decide), if_pos rfl]

/-- **An escaped field is read up to the colon that ends it.** -/
theorem cutField_escape_append (s rest : Text) :
    cutField (escape s ++ colon :: rest) = (escape s, some rest) := by
  induction s with
  | nil => exact cutField_colon rest
  | cons c s ih =>
      by_cases special : c = colon ∨ c = backslash
      · rw [escape, if_pos special]
        simp only [List.cons_append]
        rw [cutField, if_pos rfl, ih]
      · rw [escape, if_neg special, List.cons_append,
          cutField_cons_of_ne (fun slash => special (.inr slash))
            (fun stop => special (.inl stop)), ih]

/-- An escaped field at the end of a line is read whole. -/
theorem cutField_escape (s : Text) : cutField (escape s) = (escape s, none) := by
  induction s with
  | nil => rfl
  | cons c s ih =>
      by_cases special : c = colon ∨ c = backslash
      · rw [escape, if_pos special, cutField, if_pos rfl, ih]
      · rw [escape, if_neg special, cutField_cons_of_ne (fun slash => special (.inr slash))
          (fun stop => special (.inl stop)), ih]

/-- An escaped field is split off. -/
theorem splitFields_escape_append (limit : Nat) (s rest : Text) :
    splitFields (limit + 1) (escape s ++ colon :: rest) = escape s :: splitFields limit rest := by
  rw [splitFields, cutField_escape_append]

/-- The last field is split off whole. -/
theorem splitFields_escape (limit : Nat) (s : Text) :
    splitFields limit (escape s) = [escape s] := by
  cases limit with
  | zero => rfl
  | succ limit => rw [splitFields, cutField_escape]

/-- So is a field without anything to escape. -/
theorem splitFields_plain_append (limit : Nat) {s : Text}
    (plain : ∀ c ∈ s, c ≠ colon ∧ c ≠ backslash) (rest : Text) :
    splitFields (limit + 1) (s ++ colon :: rest) = s :: splitFields limit rest := by
  have whole := splitFields_escape_append limit s rest
  rwa [escape_of_plain plain] at whole

/-- The first byte of a line stays the first byte of its first field, unless it ends it. -/
theorem cutField_head {c : UInt8} {rest : Text} (inside : c ≠ colon) :
    (cutField (c :: rest)).1.head? = some c := by
  by_cases slash : c = backslash
  · subst slash
    cases rest with
    | nil => rfl
    | cons d rest => simp [cutField]
  · simp [cutField_cons_of_ne slash inside]

/-- The first field of a line starts as the line does. -/
theorem splitFields_head {limit : Nat} {c : UInt8} {rest : Text} (inside : c ≠ colon) :
    ∃ field fields, splitFields limit (c :: rest) = field :: fields ∧ field.head? = some c := by
  cases limit with
  | zero => exact ⟨_, _, rfl, rfl⟩
  | succ limit =>
      have head : (cutField (c :: rest)).1.head? = some c := cutField_head inside
      rw [splitFields]
      split
      · next field same => exact ⟨field, [], rfl, by simpa [same] using head⟩
      · next field tail same => exact ⟨field, _, rfl, by simpa [same] using head⟩

end CText
