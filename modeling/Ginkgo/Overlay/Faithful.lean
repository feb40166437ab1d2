import Ginkgo.Overlay.Deploy

/-!
# What deploying does

Where nothing stands in its way, deploying the overlay lays it over the root tree and
changes nothing else (`Ginkgo.Overlay.deploy_eq`). It is therefore faithful exactly when
every file, link and directory of the overlay finds nothing or its own kind at its place, a
link one with the same target (`Ginkgo.Overlay.deploy_faithful_iff`): no call removes what
is there, a link is not made over something else, and opening a file follows a link
(`Ginkgo.Overlay.mask_ignored`).
-/

namespace Ginkgo

open CText Files

/-- Lay nodes over what is below a path. -/
def overlaid (base : Files.Path) (find : Files.Path → Option Node) (fs : Fs) : Fs := fun q =>
  if base <+: q then (find (q.drop base.length)).or (fs q) else fs q

/-- A node can be made where there is nothing, and a directory or a link where it is already;
a file can be written where there is a file. -/
def Accepts : Option Node → Node → Prop
  | none, _ => True
  | some .dir, .dir => True
  | some (.file _), .file _ => True
  | some (.link there), .link target => there = target
  | _, _ => False

/-- Every node finds a place below a path. -/
def HasRoom (base : Files.Path) (find : Files.Path → Option Node) (fs : Fs) : Prop :=
  ∀ r node, find r = some node → Accepts (fs (base ++ r)) node

/-- Below the path the nodes come first. -/
theorem overlaid_append (base : Files.Path) (find : Files.Path → Option Node) (fs : Fs)
    (r : Files.Path) : overlaid base find fs (base ++ r) = (find r).or (fs (base ++ r)) := by
  unfold overlaid
  rw [if_pos (List.prefix_append base r), List.drop_left]

/-- Elsewhere nothing is laid. -/
theorem overlaid_outside {base q : Files.Path} (find : Files.Path → Option Node) (fs : Fs)
    (outside : ¬base <+: q) : overlaid base find fs q = fs q := if_neg outside

/-! ## Single nodes -/

section Single

variable {fs : Fs} {base : Files.Path} {name : Name} {dst : Text}

/-- The last slash of a path name is before its last name. -/
theorem parentOf_append (plain : Plain name) : parentOf (dst ++ slash :: name) = some dst := by
  have kept : ∀ c ∈ name.reverse, (decide (c ≠ slash)) = true := by
    intro c member
    rw [List.mem_reverse] at member
    simp only [ne_eq, decide_eq_true_eq]
    rintro rfl
    exact plain.2.2.2 member
  unfold parentOf
  rw [if_pos (by simp), List.reverse_append, List.reverse_cons, List.append_assoc,
    List.dropWhile_append_of_pos kept]
  simp

/-- Making directories that are there changes nothing. -/
theorem mkdirP_dirs (nonempty : dst ≠ []) (short : dst.length < 512)
    (dirs : Dirs fs (components dst)) : mkdirP dst fs = fs := by
  have there : ∀ i ∈ (List.range dst.length).filter fun i => 1 ≤ i ∧ dst[i]? = some slash,
      fs.mkdir (dst.take i) = fs := by
    intro i member
    simp only [List.mem_filter, List.mem_range, decide_eq_true_eq] at member
    obtain ⟨inside, positive, stops⟩ := member
    have parts : dst = dst.take i ++ slash :: dst.drop (i + 1) := by
      have next : dst[i] = slash := by
        rw [List.getElem?_eq_getElem inside, Option.some.injEq] at stops
        exact stops
      rw [← next, List.cons_getElem_drop_succ, List.take_append_drop]
    have front : components (dst.take i) <+: components dst := by
      have split := components_append (dst.take i) (dst.drop (i + 1))
      rw [← parts] at split
      rw [split]
      exact List.prefix_append _ _
    have some : dst.take i ≠ [] := by
      rw [ne_eq, List.take_eq_nil_iff]
      rintro (zero | empty)
      · omega
      · exact nonempty empty
    exact Fs.mkdir_dir some (dirs.of_prefix front)
  unfold mkdirP
  rw [Buf.print_of_lt short]
  have unchanged : ((List.range dst.length).filter fun i => 1 ≤ i ∧ dst[i]? = some slash).foldl
      (fun fs i => fs.mkdir (dst.take i)) fs = fs := by
    generalize (List.range dst.length).filter (fun i => 1 ≤ i ∧ dst[i]? = some slash) = ends at there
    induction ends with
    | nil => rfl
    | cons i ends ih =>
        rw [List.foldl_cons, there i List.mem_cons_self]
        exact ih fun j member => there j (List.mem_cons_of_mem i member)
  simp only [unchanged]
  exact Fs.mkdir_dir nonempty dirs

/-- The directories above a name that is to be made are there. -/
theorem makeParent_dirs (nonempty : dst ≠ []) (short : dst.length < 512)
    (dirs : Dirs fs (components dst)) (plain : Plain name) :
    makeParent (dst ++ slash :: name) fs = fs := by
  unfold makeParent
  rw [parentOf_append plain]
  simp only [Buf.print_of_lt short]
  exact mkdirP_dirs nonempty short dirs

/-- The components of an entry of a directory. -/
theorem components_child (plain : Plain name) :
    components (dst ++ slash :: name) = components dst ++ [name] := by
  rw [components_append, components_plain plain]

/-- A directory is made in a directory. -/
theorem mkdir_eq (dirs : Dirs fs (components dst)) (plain : Plain name)
    (accepts : Accepts (fs (components dst ++ [name])) .dir) :
    fs.mkdir (dst ++ slash :: name) = fs.set (components dst ++ [name]) .dir := by
  have found := @Fs.locate_of_dirs fs false _ _ _ dirs (components_child plain) plain.2.2.1 nofun
  rw [Fs.mkdir, found]
  cases there : fs (components dst ++ [name]) with
  | none => simp [there]
  | some node =>
      rw [there] at accepts
      cases node with
      | dir => simp [there, Fs.set_same there]
      | file bytes => cases accepts
      | link target => cases accepts

/-- A link is made in a directory. -/
theorem symlink_eq (dirs : Dirs fs (components dst)) (plain : Plain name) {target : Text}
    (some : target ≠ []) (accepts : Accepts (fs (components dst ++ [name])) (.link target)) :
    fs.symlink target (dst ++ slash :: name) =
      fs.set (components dst ++ [name]) (.link target) := by
  have found := @Fs.locate_of_dirs fs false _ _ _ dirs (components_child plain) plain.2.2.1 nofun
  rw [Fs.symlink, if_neg some, found]
  cases there : fs (components dst ++ [name]) with
  | none => simp [there]
  | some node =>
      rw [there] at accepts
      cases node with
      | dir => cases accepts
      | file bytes => cases accepts
      | link old =>
          obtain rfl : old = target := accepts
          simp [there, Fs.set_same there]

/-- The copy loop writes the whole file. -/
theorem copyLoop_eq (out : Files.Path) (bytes : List UInt8) {old : List UInt8}
    (opened : fs out = some (.file old)) :
    copyLoop out bytes fs = fs.set out (.file (old ++ bytes)) := by
  induction bytes, fs using copyLoop.induct out generalizing old with
  | case1 fs =>
      rw [copyLoop, if_pos rfl, List.append_nil, Fs.set_same opened]
  | case2 bytes fs some ih =>
      have written : fs.write out (bytes.take 4096) =
          fs.set out (.file (old ++ bytes.take 4096)) := by simp only [Fs.write, opened]
      have next : fs.write out (bytes.take 4096) out =
          Option.some (.file (old ++ bytes.take 4096)) := by rw [written, Fs.set_self]
      rw [copyLoop, if_neg some, ih next, written, Fs.set_set, List.append_assoc,
        List.take_append_drop]

/-- A file is written in a directory. -/
theorem copyFile_eq (dirs : Dirs fs (components dst)) (plain : Plain name)
    {bytes : List UInt8} (accepts : Accepts (fs (components dst ++ [name])) (.file bytes)) :
    copyFile bytes (dst ++ slash :: name) fs =
      fs.set (components dst ++ [name]) (.file bytes) := by
  have stays : true = true → ∀ target, fs (components dst ++ [name]) ≠ some (.link target) := by
    intro _ target there
    rw [there] at accepts
    cases accepts
  have found := @Fs.locate_of_dirs fs true _ _ _ dirs (components_child plain) plain.2.2.1 stays
  have opened : fs.openTrunc (dst ++ slash :: name) =
      (fs.set (components dst ++ [name]) (.file []), some (components dst ++ [name])) := by
    rw [Fs.openTrunc, found]
    cases there : fs (components dst ++ [name]) with
    | none => simp only [there]
    | some node =>
        cases node with
        | dir => rw [there] at accepts; cases accepts
        | file bytes => simp only [there]
        | link target => exact absurd there (stays rfl target)
  rw [copyFile, opened]
  simp only
  rw [copyLoop_eq _ bytes (Fs.set_self ..), Fs.set_set, List.nil_append]

end Single

/-! ## Laying a tree over another -/

/-- Laying one node over a tree. -/
theorem overlaid_single {item : Item} (leaf : ∀ name path, item.find (name :: path) = none)
    (base : Files.Path) (fs : Fs) : overlaid base item.find fs = fs.set base item.node := by
  funext q
  by_cases inside : base <+: q
  · obtain ⟨r, rfl⟩ := inside
    rw [overlaid_append]
    cases r with
    | nil => simp [Item.find]
    | cons name path =>
        rw [leaf, Option.none_or, Fs.set_of_ne (by simp)]
  · have other : q ≠ base := by
      rintro rfl
      exact inside (List.prefix_refl q)
    rw [overlaid_outside _ fs inside, Fs.set_of_ne other]

/-- A list of entries is not an item itself. -/
theorem Entries.find_nil (entries : Entries) : entries.find [] = none := by
  cases entries <;> rfl

/-- Laying a directory over a tree. -/
theorem overlaid_dir (entries : Entries) (base : Files.Path) (fs : Fs) :
    overlaid base entries.find (fs.set base .dir) = overlaid base (Item.dir entries).find fs := by
  funext q
  by_cases inside : base <+: q
  · obtain ⟨r, rfl⟩ := inside
    rw [overlaid_append, overlaid_append]
    cases r with
    | nil =>
        rw [entries.find_nil, List.append_nil, Fs.set_self]
        rfl
    | cons name path =>
        rw [Fs.set_of_ne (by simp)]
        rfl
  · have other : q ≠ base := by
      rintro rfl
      exact inside (List.prefix_refl q)
    rw [overlaid_outside _ _ inside, overlaid_outside _ _ inside, Fs.set_of_ne other]

/-- An item always is something. -/
theorem Item.find_nil (item : Item) : item.find [] = some item.node := by cases item <;> rfl

/-- Where a directory has no entry, it has nothing below. -/
theorem Entries.find_absent {name : Name} (path : Files.Path) :
    ∀ {entries : Entries}, entries.find [name] = none → entries.find (name :: path) = none
  | .nil, _ => rfl
  | .cons other item rest, absent => by
      rw [Entries.find] at absent ⊢
      by_cases same : name = other
      · rw [if_pos same, item.find_nil] at absent
        cases absent
      · rw [if_neg same] at absent ⊢
        exact Entries.find_absent path absent

/-- Laying the entries of a directory over a tree, one after the other. -/
theorem overlaid_cons {name : Name} {item : Item} {rest : Entries}
    (absent : rest.find [name] = none) (base : Files.Path) (fs : Fs) :
    overlaid base rest.find (overlaid (base ++ [name]) item.find fs) =
      overlaid base (Entries.cons name item rest).find fs := by
  funext q
  by_cases inside : base <+: q
  · obtain ⟨r, rfl⟩ := inside
    rw [overlaid_append, overlaid_append]
    cases r with
    | nil =>
        rw [rest.find_nil, Entries.find_nil, Option.none_or, Option.none_or]
        apply overlaid_outside
        intro starts
        have shorter := starts.length_le
        simp only [List.length_append, List.length_singleton, List.length_nil] at shorter
        omega
    | cons other path =>
        rw [Entries.find]
        by_cases same : other = name
        · subst same
          have whole : base ++ other :: path = base ++ [other] ++ path := by simp
          rw [if_pos rfl, Entries.find_absent path absent, Option.none_or, whole, overlaid_append]
        · have outside : ¬(base ++ [name]) <+: base ++ other :: path := by
            intro starts
            rw [List.prefix_append_right_inj, List.cons_prefix_cons] at starts
            exact same starts.1.symm
          rw [if_neg same, overlaid_outside _ _ outside]
  · have outside : ¬(base ++ [name]) <+: q := fun starts =>
      inside ((List.prefix_append base [name]).trans starts)
    rw [overlaid_outside _ _ inside, overlaid_outside _ _ inside,
      overlaid_outside _ _ outside]

/-! ## Deploying a tree -/

/-- The directories of a path stay when nodes are laid over what is beside or below it. -/
theorem dirs_overlaid {fs : Fs} {base : Files.Path} (dirs : Dirs fs base) (name : Name)
    (find : Files.Path → Option Node) : Dirs (overlaid (base ++ [name]) find fs) base := by
  refine ⟨?_, dirs.2⟩
  intro front starts
  have outside : ¬(base ++ [name]) <+: front := by
    intro prefixed
    have longer := prefixed.length_le
    have shorter := starts.length_le
    simp only [List.length_append, List.length_singleton] at longer
    omega
  rw [overlaid_outside _ _ outside]
  exact dirs.1 front starts

mutual

/-- **Deploying an item** lays it over the tree. -/
theorem deployEntry_eq (item : Item) {fs : Fs} {dst : Text} {name : Name} (nonempty : dst ≠ [])
    (dirs : Dirs fs (components dst)) (plain : Plain name)
    (short : dst.length + 1 + name.length < 512)
    (fits : item.fits (dst.length + 1 + name.length) = true)
    (room : HasRoom (components dst ++ [name]) item.find fs) :
    deployEntry (dst ++ slash :: name) item fs =
      overlaid (components dst ++ [name]) item.find fs := by
  have parent : makeParent (dst ++ slash :: name) fs = fs :=
    makeParent_dirs nonempty (by omega) dirs plain
  have accepts : Accepts (fs (components dst ++ [name])) item.node := by
    simpa using room [] item.node item.find_nil
  cases item with
  | dir entries =>
      have made := mkdir_eq dirs plain accepts
      have child : components (dst ++ slash :: name) = components dst ++ [name] :=
        components_child plain
      have inside : Dirs (fs.set (components dst ++ [name]) .dir)
          (components (dst ++ slash :: name)) := by
        rw [child]
        refine Dirs.snoc ?_ plain.2.2.1 (Fs.set_self ..)
        refine ⟨fun front starts => ?_, dirs.2⟩
        have other : front ≠ components dst ++ [name] := by
          rintro rfl
          have longer := starts.length_le
          simp only [List.length_append, List.length_singleton] at longer
          omega
        rw [Fs.set_of_ne other]
        exact dirs.1 front starts
      have lengths : (dst ++ slash :: name).length = dst.length + 1 + name.length := by
        simp only [List.length_append, List.length_cons]
        omega
      have below : HasRoom (components (dst ++ slash :: name)) entries.find
          (fs.set (components dst ++ [name]) .dir) := by
        intro r node found
        rw [child]
        cases r with
        | nil =>
            rw [entries.find_nil] at found
            cases found
        | cons other path =>
            rw [Fs.set_of_ne (by simp)]
            exact room (other :: path) node found
      rw [deployEntry, made, deployDir_eq entries (by simp) inside (by omega)
        (by rw [lengths]; exact fits) below, child]
      exact overlaid_dir entries _ fs
  | file bytes =>
      have leaf : ∀ name path, (Item.file bytes).find (name :: path) = none := fun _ _ => rfl
      rw [deployEntry, parent, copyFile_eq dirs plain accepts, overlaid_single leaf]
      rfl
  | link target =>
      have leaf : ∀ name path, (Item.link target).find (name :: path) = none := fun _ _ => rfl
      have whole : target ≠ [] ∧ target.length < 512 := by simpa [Item.fits] using fits
      rw [deployEntry, parent, List.take_of_length_le (by omega),
        symlink_eq dirs plain whole.1 accepts, overlaid_single leaf]
      rfl

/-- **Deploying the entries of a directory** lays them over the tree. -/
theorem deployDir_eq (entries : Entries) {fs : Fs} {dst : Text} (nonempty : dst ≠ [])
    (dirs : Dirs fs (components dst)) (short : dst.length < 512)
    (fits : entries.fits dst.length = true) (room : HasRoom (components dst) entries.find fs) :
    deployDir dst entries fs = overlaid (components dst) entries.find fs := by
  cases entries with
  | nil =>
      funext q
      unfold overlaid
      split <;> rfl
  | cons name item rest =>
      simp only [Entries.fits, decide_eq_true_eq] at fits
      obtain ⟨plain, absent, long, fitsItem, fitsRest⟩ := fits
      have roomItem : HasRoom (components dst ++ [name]) item.find fs := by
        intro r node found
        have placed := room (name :: r) node (by rw [Entries.find, if_pos rfl]; exact found)
        simpa using placed
      have roomRest : HasRoom (components dst) rest.find
          (overlaid (components dst ++ [name]) item.find fs) := by
        intro r node found
        cases r with
        | nil =>
            rw [rest.find_nil] at found
            cases found
        | cons other path =>
            have differs : other ≠ name := by
              rintro rfl
              rw [Entries.find_absent path absent] at found
              cases found
            have outside : ¬(components dst ++ [name]) <+: components dst ++ other :: path := by
              intro starts
              rw [List.prefix_append_right_inj, List.cons_prefix_cons] at starts
              exact differs starts.1.symm
            rw [overlaid_outside _ _ outside]
            exact room (other :: path) node (by rw [Entries.find, if_neg differs]; exact found)
      have listed : ¬(name = dot ∨ name = dotdot) := by
        rintro (here | up)
        · exact plain.2.1 here
        · exact plain.2.2.1 up
      have printed : (Buf.print 512 (dst ++ slash :: name)).text = dst ++ slash :: name := by
        apply Buf.print_of_lt
        simp only [List.length_append, List.length_cons]
        omega
      rw [deployDir, if_neg listed]
      simp only [printed]
      rw [deployEntry_eq item nonempty dirs plain long fitsItem roomItem,
        deployDir_eq rest nonempty (dirs_overlaid dirs name item.find) short fitsRest roomRest]
      exact overlaid_cons absent _ fs

end

/-! ## Nothing is removed -/

/-- The copy loop removes nothing. -/
theorem copyLoop_grows (out : Files.Path) (bytes : List UInt8) (fs : Fs) :
    Grows fs (copyLoop out bytes fs) := by
  induction bytes, fs using copyLoop.induct out with
  | case1 fs =>
      rw [copyLoop, if_pos rfl]
      exact .refl fs
  | case2 bytes fs some ih =>
      rw [copyLoop, if_neg some]
      exact (fs.write_grows out _).trans ih

/-- `copy_file` removes nothing. -/
theorem copyFile_grows (bytes : List UInt8) (dst : Text) (fs : Fs) :
    Grows fs (copyFile bytes dst fs) := by
  have opened := fs.openTrunc_grows dst
  unfold copyFile
  split
  · next same =>
      rw [same] at opened
      exact opened
  · next same =>
      rw [same] at opened
      exact opened.trans (copyLoop_grows _ _ _)

/-- `mkdir_p` removes nothing. -/
theorem mkdirP_grows (path : Text) (fs : Fs) : Grows fs (mkdirP path fs) := by
  rw [mkdirP]
  generalize (Buf.print 512 path).text = tmp
  generalize (List.range tmp.length).filter _ = ends
  have all : Grows fs (ends.foldl (fun fs i => fs.mkdir (tmp.take i)) fs) := by
    induction ends generalizing fs with
    | nil => exact .refl fs
    | cons i ends ih => exact (fs.mkdir_grows _).trans (ih _)
  exact all.trans (Fs.mkdir_grows _ _)

/-- Nor does what makes the directories above a file. -/
theorem makeParent_grows (dst : Text) (fs : Fs) : Grows fs (makeParent dst fs) := by
  unfold makeParent
  cases parentOf dst with
  | none => exact .refl fs
  | some parent => exact mkdirP_grows _ fs

mutual

/-- **Deploying an item removes nothing.** -/
theorem deployEntry_grows (dst : Text) (item : Item) (fs : Fs) :
    Grows fs (deployEntry dst item fs) := by
  cases item with
  | dir entries =>
      rw [deployEntry]
      exact (fs.mkdir_grows dst).trans (deployDir_grows dst entries _)
  | file bytes =>
      rw [deployEntry]
      exact (makeParent_grows dst fs).trans (copyFile_grows bytes dst _)
  | link target =>
      rw [deployEntry]
      exact (makeParent_grows dst fs).trans (Fs.symlink_grows _ dst _)

/-- Nor does deploying the entries of a directory. -/
theorem deployDir_grows (dst : Text) (entries : Entries) (fs : Fs) :
    Grows fs (deployDir dst entries fs) := by
  cases entries with
  | nil => exact .refl fs
  | cons name item rest =>
      rw [deployDir]
      split
      · exact deployDir_grows dst rest fs
      · exact (deployEntry_grows _ item fs).trans (deployDir_grows dst rest _)

end

/-! ## The whole overlay -/

namespace Overlay

/-- A root tree under `/newroot` in which the directories of the overlay that exist are
directories. -/
structure Root (overlay : Overlay) (fs : Fs) : Prop where
  root : fs [] = some .dir
  newroot : fs [newroot] = some .dir
  real : ∀ p, overlay.find p = some .dir → fs (Ginkgo.newroot :: p) = none ∨
    fs (Ginkgo.newroot :: p) = some .dir

/-- **A faithful deployment.** Every file, link and directory of the overlay is there, every
other file is as it was, and deploying once more changes nothing. -/
structure Faithful (overlay : Overlay) (before after : Fs) : Prop where
  files : ∀ p bytes, overlay.find p = some (.file bytes) → after (newroot :: p) = some (.file bytes)
  links : ∀ p target, overlay.find p = some (.link target) →
    after (newroot :: p) = some (.link target)
  dirs : ∀ p, overlay.find p = some .dir → after (newroot :: p) = some .dir
  others : ∀ q bytes, before q = some (.file bytes) →
    (∀ p, overlay.find p ≠ none → q ≠ newroot :: p) → after q = some (.file bytes)
  again : overlay.deploy after = after

variable {overlay : Overlay} {fs : Fs}

/-- **Where every item has room**, the overlay is laid over the root tree. -/
theorem deploy_eq (root : overlay.Root fs) (room : HasRoom [newroot] overlay.find fs) :
    overlay.deploy fs = overlaid [newroot] overlay.find fs := by
  have named : components (slash :: newroot) = [newroot] := by decide +kernel
  have plain : dotdot ∉ [newroot] := by decide +kernel
  have dirs : Dirs fs (components (slash :: newroot)) := by
    rw [named]
    refine ⟨?_, plain⟩
    intro front starts
    rcases List.prefix_cons_iff.mp starts with rfl | ⟨rest, rfl, nothing⟩
    · exact root.root
    · rw [List.prefix_nil.mp nothing]
      exact root.newroot
  have short : (slash :: newroot).length < 512 := by decide +kernel
  have deployed := deployDir_eq overlay.entries (List.cons_ne_nil _ _) dirs short overlay.fits
    (by rw [named]; exact room)
  rw [named] at deployed
  exact deployed

/-- The overlay has room in the tree that it has been laid over. -/
theorem room_overlaid (overlay : Overlay) (fs : Fs) :
    HasRoom [newroot] overlay.find (overlaid [newroot] overlay.find fs) := by
  intro r node found
  rw [overlaid_append, found]
  cases node with
  | dir => trivial
  | file bytes => trivial
  | link target => rfl

/-- A root tree stays one under an overlay. -/
theorem root_overlaid (root : overlay.Root fs) :
    overlay.Root (overlaid [newroot] overlay.find fs) where
  root := by
    have outside : ¬[newroot] <+: ([] : Files.Path) := by simp
    rw [overlaid_outside _ _ outside]
    exact root.root
  newroot := by
    have whole := overlaid_append [newroot] overlay.find fs []
    rw [find, Entries.find_nil, Option.none_or] at whole
    exact whole.trans root.newroot
  real p found := by
    have placed := overlaid_append [Ginkgo.newroot] overlay.find fs p
    rw [found] at placed
    exact .inr placed

/-- Laying an overlay twice is laying it once. -/
theorem overlaid_overlaid (overlay : Overlay) (fs : Fs) :
    overlaid [newroot] overlay.find (overlaid [newroot] overlay.find fs) =
      overlaid [newroot] overlay.find fs := by
  funext q
  by_cases inside : [newroot] <+: q
  · obtain ⟨r, rfl⟩ := inside
    rw [overlaid_append, overlaid_append]
    cases overlay.find r <;> rfl
  · rw [overlaid_outside _ _ inside]

/-- An overlay that has room is deployed faithfully. -/
theorem faithful_of_room (root : overlay.Root fs) (room : HasRoom [newroot] overlay.find fs) :
    overlay.Faithful fs (overlay.deploy fs) := by
  have there : ∀ p node, overlay.find p = some node →
      overlaid [newroot] overlay.find fs (newroot :: p) = some node := by
    intro p node found
    have placed := overlaid_append [newroot] overlay.find fs p
    rw [found] at placed
    exact placed
  rw [deploy_eq root room]
  refine ⟨fun p bytes => there p _, fun p target => there p _, fun p => there p _, ?_, ?_⟩
  · intro q bytes held elsewhere
    by_cases inside : [newroot] <+: q
    · obtain ⟨r, rfl⟩ := inside
      have absent : overlay.find r = none := by
        by_contra found
        exact elsewhere r found rfl
      rw [overlaid_append, absent]
      exact held
    · rw [overlaid_outside _ _ inside]
      exact held
  · rw [deploy_eq (root_overlaid root) (overlay.room_overlaid fs)]
    exact overlay.overlaid_overlaid fs

/-- An overlay that has been deployed faithfully had room: nothing makes room for it. -/
theorem room_of_faithful (root : overlay.Root fs)
    (faithful : overlay.Faithful fs (overlay.deploy fs)) : HasRoom [newroot] overlay.find fs := by
  have grows : Grows fs (overlay.deploy fs) := deployDir_grows _ _ fs
  intro r node found
  change Accepts (fs (newroot :: r)) node
  cases node with
  | dir =>
      rcases root.real r found with absent | there
      · rw [absent]
        trivial
      · rw [there]
        trivial
  | file bytes =>
      have after := faithful.files r bytes found
      cases held : fs (newroot :: r) with
      | none => trivial
      | some old =>
          cases old with
          | dir =>
              rw [grows.dir _ held] at after
              cases after
          | file old => trivial
          | link old =>
              rw [grows.link _ old held] at after
              cases after
  | link target =>
      have after := faithful.links r target found
      cases held : fs (newroot :: r) with
      | none => trivial
      | some old =>
          cases old with
          | dir =>
              rw [grows.dir _ held] at after
              cases after
          | file old =>
              obtain ⟨bytes, file⟩ := grows.file _ old held
              rw [file] at after
              cases after
          | link old =>
              rw [grows.link _ old held, Option.some.injEq, Node.link.injEq] at after
              exact after

/-- **When the overlay is deployed faithfully.** For every overlay and every root tree with
real directories, the deployment is faithful exactly when each file of the overlay finds
nothing or a file at its place and each link nothing or the same link. -/
theorem deploy_faithful_iff (overlay : Overlay) {fs : Fs} (root : overlay.Root fs) :
    overlay.Faithful fs (overlay.deploy fs) ↔ HasRoom [newroot] overlay.find fs :=
  ⟨room_of_faithful root, faithful_of_room root⟩

/-! ## Masking a unit -/

/-- The overlay masks `gdm.service`. -/
def maskGdm : Overlay where
  entries := .cons (txt "gdm.service") (.link (txt "/dev/null")) .nil
  fits := by decide +kernel

/-- A root tree that has a file at its top. -/
def rootWith (name : Name) (bytes : List UInt8) : Fs := fun q =>
  if q = [] ∨ q = [newroot] then some .dir
  else if q = [newroot, name] then some (.file bytes)
  else none

/-- The tree with a file at its top is a root tree. -/
theorem maskGdm_root (name : Name) (bytes : List UInt8) : maskGdm.Root (rootWith name bytes) where
  root := rfl
  newroot := rfl
  real p found := by
    cases p with
    | nil => cases found
    | cons other path =>
        have absent : maskGdm.find (other :: path) ≠ some .dir := by
          change (if other = txt "gdm.service" then
            (Item.link (txt "/dev/null")).find path else none) ≠ some .dir
          split
          · cases path <;> exact nofun
          · exact nofun
        exact absurd found absent

/-- The mask has room in a root without the unit. -/
theorem deploy_faithful_iff_mask :
    maskGdm.Faithful (rootWith (txt "fstab") []) (maskGdm.deploy (rootWith (txt "fstab") [])) ↔
      HasRoom [newroot] maskGdm.find (rootWith (txt "fstab") []) :=
  maskGdm.deploy_faithful_iff (maskGdm_root (txt "fstab") [])

/-- **A unit that is installed is not masked.** The file stays where the link should be. -/
theorem mask_ignored :
    maskGdm.Root (rootWith (txt "gdm.service") [1]) ∧
      maskGdm.deploy (rootWith (txt "gdm.service") [1]) [newroot, txt "gdm.service"] =
        some (.file [1]) ∧
      ¬maskGdm.Faithful (rootWith (txt "gdm.service") [1])
        (maskGdm.deploy (rootWith (txt "gdm.service") [1])) := by
  have stays : maskGdm.deploy (rootWith (txt "gdm.service") [1]) [newroot, txt "gdm.service"] =
      some (.file [1]) := by decide +kernel
  refine ⟨maskGdm_root _ _, stays, ?_⟩
  intro faithful
  have linked := faithful.links [txt "gdm.service"] (txt "/dev/null") (by decide +kernel)
  rw [stays] at linked
  cases linked

end Overlay

end Ginkgo
