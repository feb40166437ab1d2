import Ginkgo.Overlay.Boot

/-!
# The calls of the deployment

What `deploy_overlay` calls, against the pure model of it. Whatever is answered, the deployment
keeps each fact that no single call of it changes (`Ginkgo.SwitchRoot.Stable`), and where every
call does what the files allow, the files become what `Ginkgo.Overlay.deploy` says
(`Ginkgo.SwitchRoot.deployOverlay_deploys`). Both are proved in one induction over the overlay.
-/

namespace Ginkgo.SwitchRoot

open CText Calls Files

/-- The calls of `deploy_overlay` and of what it calls. -/
def Deploying : BootCall → Prop
  | .access _ | .mkdir _ | .opendir _ | .readdir _ | .lstat _ | .readlink _ | .symlink _ _
  | .openIn _ | .openOut _ | .read _ | .write _ => True
  | _ => False

/-- No call of the deployment ends a fact. -/
def Stable (fact : BootLog → Prop) : Prop :=
  ∀ exchange log, Deploying exchange.request → fact log → fact (exchange :: log)

/-- A fact holds, and the files are as expected unless a call has failed. -/
def Stage (mounted : Fs) (fact : BootLog → Prop) (expected : Written → Prop) (log : BootLog) :
    Prop :=
  fact log ∧ (Smooth mounted log → expected (files mounted log))

/-- A piece of the deployment keeps stable facts and takes the files from what is expected before
it to what is expected after it. -/
def Carries {α : Type} (session : Init α) (before : Written → Prop) (after : α → Written → Prop) :
    Prop :=
  ∀ mounted fact, Stable fact → ∀ leave, session.Ensures (fun _ => Stage mounted fact before)
    (fun value _ => Stage mounted fact (after value)) leave

/-- A piece of the deployment changes the files as a function does. -/
def Deploys (session : Init Unit) (change : Fs → Fs) : Prop :=
  ∀ fs, Carries session (fun now => now.1 = fs) fun _ now => now.1 = change fs

/-! ## Rules -/

namespace Carries

variable {α β : Type} {session : Init α} {before : Written → Prop} {after : α → Written → Prop}

/-- What is expected before can be more, and what is expected after can be less. -/
theorem mono {before' : Written → Prop} {after' : α → Written → Prop}
    (carries : Carries session before after) (strong : ∀ now, before' now → before now)
    (weak : ∀ value now, after value now → after' value now) : Carries session before' after' :=
  fun mounted fact stable leave => (carries mounted fact stable leave).mono
    (fun _ _ stage => ⟨stage.1, fun smooth => strong _ (stage.2 smooth)⟩)
    (fun value _ _ stage => ⟨stage.1, fun smooth => weak value _ (stage.2 smooth)⟩)
    fun _ _ _ => id

/-- A value leaves the files as they are. -/
theorem pure {value : α} (holds : ∀ now, before now → after value now) :
    Carries (Pure.pure value : Init α) before after :=
  fun _ _ _ _ => .pure fun _ _ stage => ⟨stage.1, fun smooth => holds _ (stage.2 smooth)⟩

/-- One piece after the other. -/
theorem bind (mid : α → Written → Prop) {rest : α → Init β} {last : β → Written → Prop}
    (carries : Carries session before mid) (next : ∀ value, Carries (rest value) (mid value) last) :
    Carries (session >>= rest) before last :=
  fun mounted fact stable leave => .bind _ (carries mounted fact stable leave) fun value =>
    next value mounted fact stable leave

/-- A single call of the deployment. -/
theorem request {call : BootCall} {after : Reply call → Written → Prop} (ours : Deploying call)
    (next : ∀ mounted now answer, before now → Complete now call answer →
      after answer (written mounted now call answer)) :
    Carries (Session.request call : Init (Reply call)) before after :=
  fun mounted _ stable _ => .request fun answer _ log stage =>
    ⟨stable ⟨call, answer⟩ log ours stage.1, fun smooth =>
      next mounted _ answer (stage.2 smooth.1) smooth.2⟩

/-- What is known as long as no call has failed stays known. -/
theorem frame {known : Prop} (carries : Carries session before after) :
    Carries session (fun now => known ∧ before now) fun value now => known ∧ after value now := by
  intro mounted fact stable leave
  have kept : Stable fun log => fact log ∧ (Smooth mounted log → known) :=
    fun exchange log ours holds =>
      ⟨stable exchange log ours holds.1, fun smooth => holds.2 smooth.1⟩
  refine (carries mounted _ kept leave).mono ?_ ?_ fun _ _ _ => id
  · exact fun _ _ stage => ⟨⟨stage.1, fun smooth => (stage.2 smooth).1⟩,
      fun smooth => (stage.2 smooth).2⟩
  · exact fun _ _ _ stage => ⟨stage.1.1, fun smooth => ⟨stage.1.2 smooth, stage.2 smooth⟩⟩

/-- What is done only if a call succeeds. -/
theorem onlyIf (mid : Written → Prop) {call : Init Bool} {rest : Init Unit}
    {last : Unit → Written → Prop}
    (asked : Carries call before fun done now => if done = true then mid now else last () now)
    (carries : Carries rest mid last) : Carries (SwitchRoot.onlyIf call rest) before last := by
  refine .bind _ asked fun done => ?_
  cases done with
  | true => exact carries
  | false => exact .pure fun _ => id

end Carries

namespace Deploys

variable {first second : Init Unit} {change : Fs → Fs}

/-- One piece after the other. -/
theorem bind {change' : Fs → Fs} (deploys : Deploys first change) (next : Deploys second change') :
    Deploys (first >>= fun _ => second) fun fs => change' (change fs) :=
  fun fs => .bind _ (deploys fs) fun _ => next (change fs)

/-- Nothing is done. -/
theorem pure : Deploys (Pure.pure ()) fun fs => fs := fun _ => .pure fun _ => id

/-- A stable fact outlives the deployment. -/
theorem keeps (deploys : Deploys first change) {fact : BootLog → Prop} (stable : Stable fact)
    {leave : End → Unit → BootLog → Prop} :
    first.Ensures (fun _ => fact) (fun _ _ => fact) leave := by
  intro state log holds
  have stage : Stage (fun _ => none) fact (fun now => now.1 = (files (fun _ => none) log).1) log :=
    ⟨holds, fun _ => rfl⟩
  refine Program.wp_mono ?_ (deploys _ _ fact stable leave state log stage)
  rintro ⟨result, state'⟩ log' ends
  cases result with
  | ok value => exact ends.1
  | error left => exact ends

end Deploys

/-! ## The overlay is read -/

/-- A call that reads the overlay: it succeeds unless something fails, and writes nothing. -/
def Asks (call : Init Bool) : Prop :=
  ∀ before, Carries call before fun done now => done = true ∧ before now

/-- Reading the overlay never ends the deployment where nothing fails. -/
theorem Asks.deploys {call : Init Bool} {rest : Init Unit} {change : Fs → Fs} (asks : Asks call)
    (deploys : Deploys rest change) : Deploys (onlyIf call rest) change := by
  intro fs
  refine .onlyIf _ ((asks _).mono (fun _ => id) ?_) (deploys fs)
  rintro done now ⟨rfl, held⟩
  exact held

/-- Looking whether the overlay is there only reads it. -/
theorem access_asks : Asks (Session.request (BootCall.access (txt "/overlay"))) :=
  fun _ => .request trivial fun _ _ _ held complete => ⟨complete rfl, held⟩

/-- So does opening a directory of it. -/
theorem opendir_asks (path : Text) : Asks (Session.request (BootCall.opendir path)) :=
  fun _ => .request trivial fun _ _ _ held complete => ⟨complete, held⟩

theorem readdir_asks (path : Text) : Asks (Session.request (BootCall.readdir path)) :=
  fun _ => .request trivial fun _ _ _ held complete => ⟨complete, held⟩

theorem lstat_asks (path : Text) : Asks (Session.request (BootCall.lstat path)) :=
  fun _ => .request trivial fun _ _ _ held complete => ⟨complete, held⟩

theorem readlink_asks (path : Text) : Asks (Session.request (BootCall.readlink path)) :=
  fun _ => .request trivial fun _ _ _ held complete => ⟨complete, held⟩

theorem openIn_asks (path : Text) : Asks (Session.request (BootCall.openIn path)) :=
  fun _ => .request trivial fun _ _ _ held complete => ⟨complete, held⟩

/-! ## What is made -/

/-- A directory is made, whether it was there or not. -/
theorem mkdirAnyway_deploys (path : Text) : Deploys (mkdirAnyway path) fun fs => fs.mkdir path := by
  intro fs
  refine .bind (fun _ now => now.1 = fs.mkdir path) (.request trivial ?_) fun _ => .pure fun _ => id
  rintro mounted now (_ | _) rfl complete
  · -- The call has failed, so there was nothing to make.
    exact (complete.resolve_left Bool.false_ne_true).symm
  · rfl

/-- A link is made. -/
theorem symlink_deploys (target path : Text) :
    Deploys (do
      let _ : Bool ← Session.request (BootCall.symlink target path)
      pure ()) fun fs => fs.symlink target path := by
  intro fs
  refine .bind (fun _ now => now.1 = fs.symlink target path) (.request trivial ?_)
    fun _ => .pure fun _ => id
  rintro mounted now (_ | _) rfl complete
  · exact (complete.resolve_left Bool.false_ne_true).symm
  · rfl

/-- Several directories are made in turn. -/
theorem mkdirAll_deploys (paths : List Text) :
    Deploys (mkdirAll paths) fun fs => paths.foldl (fun fs path => fs.mkdir path) fs := by
  induction paths with
  | nil => exact .pure
  | cons path rest ih => exact (mkdirAnyway_deploys path).bind ih

/-- `mkdir_p` makes its directories. -/
theorem mkdirP_deploys (path : Text) : Deploys (mkdirP path) (Ginkgo.mkdirP path) := by
  have made := mkdirAll_deploys
    (((List.range (pathText path).length).filter fun i =>
      1 ≤ i ∧ (pathText path)[i]? = some slash).map (pathText path).take ++ [pathText path])
  simp only [List.foldl_append, List.foldl_map, List.foldl_cons, List.foldl_nil] at made
  exact made

/-- The directories above a file are made. -/
theorem makeParent_deploys (dst : Text) : Deploys (makeParent dst) (Ginkgo.makeParent dst) := by
  intro fs
  unfold makeParent Ginkgo.makeParent
  cases parentOf dst with
  | none => exact .pure fun _ => id
  | some parent => exact mkdirP_deploys _ fs

/-! ## Copying a file -/

/-- A read that is not short takes a whole block, or all that is left. -/
theorem read_block {bytes : List UInt8} {got : Nat} (whole : min 4096 bytes.length ≤ got) :
    bytes.take (min got (min 4096 bytes.length)) = bytes.take 4096 ∧
      bytes.drop (min got (min 4096 bytes.length)) = bytes.drop 4096 := by
  rw [min_eq_right whole]
  rcases Nat.le_total 4096 bytes.length with long | short
  · rw [min_eq_left long]
    exact ⟨rfl, rfl⟩
  · rw [min_eq_right short, List.take_length, List.drop_length, List.take_of_length_le short,
      List.drop_of_length_le short]
    exact ⟨rfl, rfl⟩

/-- A block is written at the end of the file that is open. -/
theorem write_carries (bytes : List UInt8) (fs : Fs) (out : Option Files.Path) :
    Carries (Session.request (BootCall.write bytes)) (fun now => now = (fs, out))
      fun _ now => now = (out.elim fs fun out => fs.write out bytes, out) := by
  refine .request trivial ?_
  rintro _ now (n : Nat) rfl (long : bytes.length ≤ n)
  rw [written, List.take_of_length_le long]

/-- The loop of `copy_file`. Where nothing is read or written short, the bytes come in the same
blocks as in the pure model. -/
theorem copyLoop_carries (bytes : List UInt8) (fs : Fs) (out : Option Files.Path) :
    Carries (copyLoop bytes) (fun now => now = (fs, out))
      fun _ now => now.1 = out.elim fs fun out => Ginkgo.copyLoop out bytes fs := by
  induction bytes using copyLoop.induct generalizing fs with
  | case1 bytes ih =>
      rw [copyLoop]
      refine .bind (fun (got : Nat) now => min 4096 bytes.length ≤ got ∧ now = (fs, out))
        (.request trivial ?_) fun (got : Nat) => ?_
      · exact fun _ _ _ held complete => ⟨complete, held⟩
      by_cases more : min got (min 4096 bytes.length) ≠ 0
      · simp only [dif_pos more]
        refine (Carries.bind _ (write_carries _ fs out) fun _ => ih got more _).frame.mono (fun _ => id) ?_
        rintro _ now ⟨whole, ends⟩
        have nonempty : bytes ≠ [] := by
          rintro rfl
          simp at more
        rw [ends, (read_block whole).1, (read_block whole).2]
        cases out with
        | none => rfl
        | some out =>
            conv => rhs; rw [Option.elim_some, Ginkgo.copyLoop, if_neg nonempty]
            rfl
      · simp only [dif_neg more]
        refine .pure ?_
        rintro now ⟨whole, rfl⟩
        have empty : bytes = [] := by
          rw [← List.length_eq_zero_iff]
          omega
        rw [empty]
        cases out with
        | none => rfl
        | some out => rw [Option.elim_some, Ginkgo.copyLoop, if_pos rfl]

/-- **`copy_file` copies the file.** -/
theorem copyFile_deploys (src dst : Text) (bytes : List UInt8) :
    Deploys (copyFile src dst bytes) (Ginkgo.copyFile bytes dst) := by
  refine (openIn_asks src).deploys fun fs => ?_
  have copied : Ginkgo.copyFile bytes dst fs =
      (fs.openTrunc dst).2.elim (fs.openTrunc dst).1 fun out =>
        Ginkgo.copyLoop out bytes (fs.openTrunc dst).1 := by
    unfold Ginkgo.copyFile
    rcases fs.openTrunc dst with ⟨fs', _ | out⟩ <;> rfl
  rw [copied]
  refine .onlyIf (fun now => now = fs.openTrunc dst) (.request trivial ?_)
    (copyLoop_carries bytes _ _)
  rintro _ now (done : Bool) rfl (complete : done = _)
  cases done with
  | true => rfl
  | false =>
      -- Nothing could be opened.
      have fails : (now.1.openTrunc dst).2 = none :=
        Option.isNone_iff_eq_none.mp (Option.isSome_eq_false_iff.mp complete.symm)
      rw [fails]
      exact (Fs.openTrunc_none fails).symm

/-! ## The overlay -/

mutual

/-- **`deploy_entry` deploys an item.** -/
theorem deployEntry_deploys (src dst : Text) (item : Item) :
    Deploys (deployEntry src dst item) (Ginkgo.deployEntry dst item) := by
  cases item with
  | dir entries =>
      rw [deployEntry]
      exact (lstat_asks src).deploys <| (mkdirAnyway_deploys dst).bind <|
        (opendir_asks src).deploys (deployLoop_deploys src dst entries)
  | link target =>
      rw [deployEntry]
      exact (lstat_asks src).deploys <| (makeParent_deploys dst).bind <|
        (readlink_asks src).deploys (symlink_deploys (target.take 511) dst)
  | file bytes =>
      rw [deployEntry]
      exact (lstat_asks src).deploys <| (makeParent_deploys dst).bind (copyFile_deploys src dst bytes)

/-- **The loop of `deploy_dir` deploys the entries of a directory.** -/
theorem deployLoop_deploys (src dst : Text) (entries : Entries) :
    Deploys (deployLoop src dst entries) (Ginkgo.deployDir dst entries) := by
  cases entries with
  | nil =>
      rw [deployLoop]
      exact .pure
  | cons name item rest =>
      rw [deployLoop]
      refine (readdir_asks src).deploys fun fs => ?_
      rw [Ginkgo.deployDir]
      split
      · exact deployLoop_deploys src dst rest fs
      · exact (deployEntry_deploys _ _ item).bind (deployLoop_deploys src dst rest) fs

end

/-- **The deployment makes what the pure model says**, unless a call fails. -/
theorem deployOverlay_deploys (overlay : Overlay) : Deploys (deployOverlay overlay) overlay.deploy :=
  access_asks.deploys <| (opendir_asks _).deploys (deployLoop_deploys _ _ overlay.entries)

/-! ## What the deployment keeps -/

/-- The deployment mounts and starts nothing. -/
theorem tree_stable (at_ : Tree) : Stable fun log => tree log = at_ := by
  rintro ⟨call, answer⟩ log ours rfl
  cases call <;> first | exact ours.elim | rfl

/-- What has been answered stays so. -/
theorem member_stable (exchange : Exchange BootCall Reply) : Stable fun log => exchange ∈ log :=
  fun other _ _ member => List.mem_cons_of_mem other member

/-- The deployment removes and replaces nothing, whatever fails. -/
theorem grows_stable (mounted : Fs) :
    Stable fun log => Grows mounted (files mounted log).1 := by
  rintro ⟨call, answer⟩ log ours grown
  refine grown.trans ?_
  cases call with
  | mkdir path =>
      cases answer with
      | true => exact Fs.mkdir_grows path _
      | false => exact .refl _
  | symlink target path =>
      cases answer with
      | true => exact Fs.symlink_grows target path _
      | false => exact .refl _
  | openOut path =>
      cases answer with
      | true => exact Fs.openTrunc_grows path _
      | false => exact .refl _
  | write bytes =>
      rw [files, written]
      cases (files mounted log).2 with
      | none => exact .refl _
      | some out => exact Fs.write_grows out _ _
  | access path | opendir path | readdir path | lstat path | readlink path | openIn path | read left =>
      exact .refl _
  | mount fs target | move source target | readBlocks | writeUevent name | usleep micros
  | chdir path | chroot path | execl path | say msg | sleep seconds => exact ours.elim

/-- The deployment never waits. -/
theorem weigh_stable (spent : Int) : Stable fun log => Session.weigh micros log ≤ spent := by
  rintro ⟨call, answer⟩ log ours (within : _ ≤ spent)
  have free : micros ⟨call, answer⟩ = 0 := by cases call <;> first | exact ours.elim | rfl
  change Session.weigh micros log + micros ⟨call, answer⟩ ≤ spent
  omega

end Ginkgo.SwitchRoot
