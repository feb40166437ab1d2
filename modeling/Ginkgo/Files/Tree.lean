import Ginkgo.CText.Basic
import Mathlib.Logic.Function.Basic

/-!
# File trees

A tree maps a path to nothing, a directory, a file or a symbolic link, and the calls of
POSIX that make and write these: `mkdir`, `symlink`, `open` with `O_CREAT` and `O_TRUNC`,
and `write`. Each name is a file of its own; there are no hard links, and permissions,
owners and times are left out.

Two facts about the calls carry proofs about programs. A path that leads through
directories only leads to where it says (`Files.Fs.locate_of_dirs`), and no call removes
or replaces anything (`Files.Grows`).
-/

namespace Files

open CText

/-- The name of an entry. -/
abbrev Name := Text

/-- A path from the root, by its components. -/
abbrev Path := List Name

/-- What stands at a path. -/
inductive Node where
  | dir
  | file (bytes : List UInt8)
  | link (target : Text)
  deriving DecidableEq

/-- A file system: what stands at every path, if anything. -/
abbrev Fs := Path → Option Node

/-- The character between components. -/
def slash : UInt8 := 47

/-- The directory itself. -/
def dot : Name := [46]

/-- The directory above. -/
def dotdot : Name := [46, 46]

/-- The most links that are followed on one way. -/
def symloopMax : Nat := 40

/-- The components of a path name. -/
def components (path : Text) : Path :=
  (path.splitOn slash).filter fun name => name ≠ [] ∧ name ≠ dot

/-- The components of a path below another. -/
theorem components_append (first second : Text) :
    components (first ++ slash :: second) = components first ++ components second := by
  unfold components
  rw [List.splitOn, List.splitOnP_append_cons first second (by simp), List.filter_append]
  rfl

/-- A name that a directory can hold. -/
def Plain (name : Name) : Prop := name ≠ [] ∧ name ≠ dot ∧ name ≠ dotdot ∧ slash ∉ name

instance (name : Name) : Decidable (Plain name) := inferInstanceAs (Decidable (_ ∧ _ ∧ _ ∧ _))

/-- A plain name is its own component. -/
theorem components_plain {name : Name} (plain : Plain name) : components name = [name] := by
  obtain ⟨nonempty, here, -, absent⟩ := plain
  have whole : name.splitOn slash = [name] := by
    apply List.splitOnP_eq_singleton
    intro c member
    simp only [beq_eq_false_iff_ne]
    rintro rfl
    exact absent member
  simp [components, whole, nonempty, here]

/-! ## Finding a path -/

/-- Follow components from a directory on. A link on the way is left to `onLink`, with the
directory that its target starts from and what remains to be followed. -/
def walkWith (onLink : Path → Path → Option Path) (fs : Fs) (follow : Bool) :
    Path → Path → Option Path
  | cur, [] => some cur
  | cur, name :: rest =>
      if name = dotdot then walkWith onLink fs follow cur.dropLast rest
      else
        let here := cur ++ [name]
        match fs here with
        | some .dir => walkWith onLink fs follow here rest
        | some (.link target) =>
            if rest = [] ∧ follow = false then some here
            else onLink (if target.head? = some slash then [] else cur) (components target ++ rest)
        | some (.file _) | none => if rest = [] then some here else none

/-- Follow components, and at most so many links. -/
def walk (fs : Fs) (follow : Bool) : Nat → Path → Path → Option Path
  | 0 => walkWith (fun _ _ => none) fs follow
  | links + 1 => walkWith (walk fs follow links) fs follow

namespace Fs

/-- Where a path name leads; the last component need not exist. -/
def locate (follow : Bool) (path : Text) (fs : Fs) : Option Path :=
  if path = [] then none else walk fs follow symloopMax [] (components path)

/-- Something new stands at a path. -/
def set (p : Path) (node : Node) (fs : Fs) : Fs := Function.update fs p (some node)

/-! ## The calls -/

/-- `mkdir`; nothing is replaced. -/
def mkdir (path : Text) (fs : Fs) : Fs :=
  match fs.locate false path with
  | none => fs
  | some p => if fs p = none then fs.set p .dir else fs

/-- `symlink`; nothing is replaced. -/
def symlink (target path : Text) (fs : Fs) : Fs :=
  if target = [] then fs
  else
    match fs.locate false path with
    | none => fs
    | some p => if fs p = none then fs.set p (.link target) else fs

/-- `open` with `O_WRONLY | O_CREAT | O_TRUNC`: the file that has been opened. -/
def openTrunc (path : Text) (fs : Fs) : Fs × Option Path :=
  match fs.locate true path with
  | none => (fs, none)
  | some p =>
      match fs p with
      | none | some (.file _) => (fs.set p (.file []), some p)
      | some .dir | some (.link _) => (fs, none)

/-- `write` at the end of an open file. -/
def write (p : Path) (bytes : List UInt8) (fs : Fs) : Fs :=
  match fs p with
  | some (.file old) => fs.set p (.file (old ++ bytes))
  | _ => fs

/-- Where nothing can be opened, nothing is made. -/
theorem openTrunc_none {fs : Fs} {path : Text} (fails : (fs.openTrunc path).2 = none) :
    (fs.openTrunc path).1 = fs := by
  unfold openTrunc at fails ⊢
  split at fails
  · rfl
  · split at fails <;> first | rfl | cases fails

@[simp] theorem set_self (p : Path) (node : Node) (fs : Fs) : fs.set p node p = some node := by
  unfold set
  exact Function.update_self ..

/-- Elsewhere everything is as it was. -/
theorem set_of_ne {p q : Path} (other : q ≠ p) (node : Node) (fs : Fs) :
    fs.set p node q = fs q := by
  unfold set
  exact Function.update_of_ne other ..

/-- What is put somewhere twice is what was put there last. -/
@[simp] theorem set_set (p : Path) (first second : Node) (fs : Fs) :
    (fs.set p first).set p second = fs.set p second := Function.update_idem _ _ _

/-- Setting what is there changes nothing. -/
theorem set_same {p : Path} {node : Node} {fs : Fs} (there : fs p = some node) :
    fs.set p node = fs := by
  rw [set, ← there, Function.update_eq_self]

end Fs

/-! ## Paths through directories -/

/-- Every directory on the way to the path, the last one included, is there. -/
def Dirs (fs : Fs) (path : Path) : Prop :=
  (∀ front, front <+: path → fs front = some .dir) ∧ dotdot ∉ path

theorem Dirs.self {fs : Fs} {path : Path} (dirs : Dirs fs path) : fs path = some .dir :=
  dirs.1 path (List.prefix_refl path)

/-- A directory stands below directories only. -/
theorem Dirs.of_prefix {fs : Fs} {front path : Path} (dirs : Dirs fs path)
    (inside : front <+: path) : Dirs fs front :=
  ⟨fun part starts => dirs.1 part (starts.trans inside),
    fun member => dirs.2 (inside.mem member)⟩

/-- A directory in a directory. -/
theorem Dirs.snoc {fs : Fs} {path : Path} (dirs : Dirs fs path) {name : Name}
    (plain : name ≠ dotdot) (there : fs (path ++ [name]) = some .dir) :
    Dirs fs (path ++ [name]) := by
  constructor
  · intro front starts
    rcases List.prefix_concat_iff.mp starts with whole | inside
    · rw [whole]
      exact there
    · exact dirs.1 front inside
  · simp only [List.mem_append, List.mem_singleton, not_or]
    exact ⟨dirs.2, plain.symm⟩

/-- Walking through directories. -/
theorem walkWith_of_dirs {onLink : Path → Path → Option Path} {fs : Fs} {follow : Bool}
    {start path : Path} (dirs : Dirs fs (start ++ path)) (rest : Path) :
    walkWith onLink fs follow start (path ++ rest) =
      walkWith onLink fs follow (start ++ path) rest := by
  induction path generalizing start with
  | nil => simp
  | cons name path ih =>
      have plain : name ≠ dotdot := by
        rintro rfl
        exact dirs.2 (by simp)
      have there : fs (start ++ [name]) = some .dir := dirs.1 _ ⟨path, by simp⟩
      have onward : Dirs fs (start ++ [name] ++ path) := by simpa using dirs
      rw [List.cons_append, walkWith, if_neg plain]
      simp only [there]
      rw [ih onward]
      simp

/-- The last step of a walk: to anything but a link that is followed. -/
theorem walkWith_last {onLink : Path → Path → Option Path} {fs : Fs} {follow : Bool}
    {start : Path} {name : Name} (plain : name ≠ dotdot)
    (stays : follow = true → ∀ target, fs (start ++ [name]) ≠ some (.link target)) :
    walkWith onLink fs follow start [name] = some (start ++ [name]) := by
  rw [walkWith, if_neg plain]
  cases there : fs (start ++ [name]) with
  | none => simp only [there, if_true]
  | some node =>
      cases node with
      | dir => simp only [there, walkWith]
      | file bytes => simp only [there, if_true]
      | link target =>
          cases follow with
          | false => simp only [there, and_self, if_true]
          | true => exact absurd there (stays rfl target)

/-- **A path through directories leads to where it says.** -/
theorem Fs.locate_of_dirs {fs : Fs} {follow : Bool} {path : Text} {front : Path} {name : Name}
    (dirs : Dirs fs front) (named : components path = front ++ [name]) (plain : name ≠ dotdot)
    (stays : follow = true → ∀ target, fs (front ++ [name]) ≠ some (.link target)) :
    fs.locate follow path = some (front ++ [name]) := by
  have nonempty : path ≠ [] := by
    rintro rfl
    simp [components] at named
  have through : Dirs fs ([] ++ front) := dirs
  rw [locate, if_neg nonempty, named, symloopMax, walk, walkWith_of_dirs through]
  exact walkWith_last plain stays

/-- A path of directories leads to the last of them. -/
theorem Fs.locate_dir {fs : Fs} {follow : Bool} {path : Text} (nonempty : path ≠ [])
    (dirs : Dirs fs (components path)) : fs.locate follow path = some (components path) := by
  have through : Dirs fs ([] ++ components path) := dirs
  have walked := @walkWith_of_dirs (walk fs follow 39) fs follow [] (components path) through []
  rw [List.append_nil] at walked
  rw [locate, if_neg nonempty, symloopMax, walk, walked]
  rfl

/-- Making a directory that is there changes nothing. -/
theorem Fs.mkdir_dir {fs : Fs} {path : Text} (nonempty : path ≠ [])
    (dirs : Dirs fs (components path)) : fs.mkdir path = fs := by
  rw [mkdir, locate_dir nonempty dirs]
  simp [dirs.self]

/-! ## Growth -/

/-- **Nothing is removed or replaced.** Directories and links stay, and files stay files. -/
structure Grows (before after : Fs) : Prop where
  dir : ∀ p, before p = some .dir → after p = some .dir
  link : ∀ p target, before p = some (.link target) → after p = some (.link target)
  file : ∀ p bytes, before p = some (.file bytes) → ∃ bytes', after p = some (.file bytes')

theorem Grows.refl (fs : Fs) : Grows fs fs :=
  ⟨fun _ => id, fun _ _ => id, fun _ bytes there => ⟨bytes, there⟩⟩

/-- Two changes that remove nothing, one after the other. -/
theorem Grows.trans {first second third : Fs} (one : Grows first second)
    (two : Grows second third) : Grows first third where
  dir p there := two.dir p (one.dir p there)
  link p target there := two.link p target (one.link p target there)
  file p bytes there := by
    obtain ⟨bytes', there'⟩ := one.file p bytes there
    exact two.file p bytes' there'

namespace Fs

/-- Making what is not there, or writing a file. -/
theorem set_grows {fs : Fs} {p : Path} {node : Node}
    (room : fs p = none ∨ ∃ old new, fs p = some (.file old) ∧ node = .file new) :
    Grows fs (fs.set p node) := by
  have other : ∀ q there, fs q = some there → (∀ bytes, there ≠ .file bytes) →
      fs.set p node q = some there := by
    intro q there held kind
    by_cases same : q = p
    · subst same
      rcases room with absent | ⟨old, new, file, -⟩
      · rw [absent] at held
        cases held
      · rw [file, Option.some.injEq] at held
        exact absurd held.symm (kind old)
    · rw [set_of_ne same, held]
  refine ⟨fun q held => other q .dir held nofun, fun q target held => other q _ held nofun, ?_⟩
  intro q bytes held
  by_cases same : q = p
  · subst same
    rcases room with absent | ⟨old, new, -, rfl⟩
    · rw [absent] at held
      cases held
    · exact ⟨new, set_self ..⟩
  · exact ⟨bytes, by rw [set_of_ne same, held]⟩

/-- `mkdir` removes nothing. -/
theorem mkdir_grows (path : Text) (fs : Fs) : Grows fs (fs.mkdir path) := by
  unfold mkdir
  split
  · exact .refl fs
  · split
    · exact set_grows (.inl ‹_›)
    · exact .refl fs

/-- `symlink` removes nothing. -/
theorem symlink_grows (target path : Text) (fs : Fs) : Grows fs (fs.symlink target path) := by
  unfold symlink
  split
  · exact .refl fs
  · split
    · exact .refl fs
    · split
      · exact set_grows (.inl ‹_›)
      · exact .refl fs

/-- `open` replaces the bytes of a file at most. -/
theorem openTrunc_grows (path : Text) (fs : Fs) : Grows fs (fs.openTrunc path).1 := by
  unfold openTrunc
  split
  · exact .refl fs
  · next p _ =>
      cases there : fs p with
      | none => exact set_grows (.inl there)
      | some node =>
          cases node with
          | dir => exact .refl fs
          | file bytes => exact set_grows (.inr ⟨bytes, [], there, rfl⟩)
          | link target => exact .refl fs

theorem write_grows (p : Path) (bytes : List UInt8) (fs : Fs) : Grows fs (fs.write p bytes) := by
  unfold write
  split
  · next old there => exact set_grows (.inr ⟨old, _, there, rfl⟩)
  · exact .refl fs

end Fs

end Files
