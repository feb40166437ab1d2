import Ginkgo.CText.Basic

/-!
# Files read line by line

`CText.fgets` reads a line or as much of it as the buffer has room for, and `CText.fgetsLines` is
what a loop of it reads. Lines that fit are read whole (`CText.fgetsLines_lines`).
-/

namespace CText

/-- `fgets` with a buffer of `n` bytes: what is read, and what is left of the file. -/
def fgets (n : Nat) (file : Text) : Text × Text :=
  let line := file.takeWhile (· ≠ newline)
  if line.length < n - 1 then (file.take (line.length + 1), file.drop (line.length + 1))
  else (file.take (n - 1), file.drop (n - 1))

/-- A line that is read makes what is left shorter. -/
theorem fgets_shorter {n : Nat} (room : 1 < n) {file : Text} (some : file ≠ []) :
    (fgets n file).2.length < file.length := by
  have positive := List.length_pos_of_ne_nil some
  unfold fgets
  simp only
  split
  · rw [List.length_drop]
    omega
  · rw [List.length_drop]
    omega

/-- What a loop of `fgets` reads, one after the other; a buffer of one byte reads nothing. -/
def fgetsLines (n : Nat) (file : Text) : List Text :=
  if _more : file ≠ [] ∧ 1 < n then (fgets n file).1 :: fgetsLines n (fgets n file).2 else []
termination_by file.length
decreasing_by exact fgets_shorter ‹_ ∧ 1 < n›.2 ‹file ≠ [] ∧ _›.1

/-- A line with its end. -/
theorem fgets_line {n : Nat} {line : Text} (clean : newline ∉ line) (fits : line.length < n - 1)
    (rest : Text) : fgets n (line ++ newline :: rest) = (line ++ [newline], rest) := by
  have first : (line ++ newline :: rest).takeWhile (· ≠ newline) = line := by
    rw [List.takeWhile_append_of_pos, List.takeWhile_cons_of_neg (by simp), List.append_nil]
    rintro c member
    rw [decide_eq_true_eq]
    rintro rfl
    exact clean member
  unfold fgets
  rw [first]
  simp only [fits, ↓reduceIte]
  rw [List.take_append, List.drop_append]
  simp

/-- **Lines that fit are read whole.** -/
theorem fgetsLines_lines {n : Nat} {lines : List Text}
    (fit : ∀ line ∈ lines, newline ∉ line ∧ line.length < n - 1) :
    fgetsLines n (lines.flatMap (· ++ [newline])) = lines.map (· ++ [newline]) := by
  induction lines with
  | nil => rw [List.flatMap_nil, fgetsLines, dif_neg (by simp), List.map_nil]
  | cons line lines ih =>
      obtain ⟨clean, fits⟩ := fit line List.mem_cons_self
      have rest := ih fun other member => fit other (List.mem_cons_of_mem line member)
      rw [List.flatMap_cons, List.append_assoc, List.singleton_append, fgetsLines,
        dif_pos ⟨by simp, by omega⟩, fgets_line clean fits, rest, List.map_cons]

/-- A string without a terminator in it. -/
theorem cstr_eq {t : Text} (all : ∀ c ∈ t, c ≠ 0) : cstr t = t := by
  rw [cstr, List.takeWhile_eq_self_iff]
  exact fun c member => decide_eq_true (all c member)

end CText
