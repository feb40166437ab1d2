import Ginkgo.Overlay.Deployed

/-!
# Handing over to the installed system

Whichever calls of `init.c` fail, the installed `/sbin/init` is started from userdata as the root,
with the file systems of the kernel in their places, or nothing is started. A deployment that fails
in part is not noticed; it still removes and replaces nothing
(`Ginkgo.SwitchRoot.hands_over`).
-/

namespace Ginkgo.SwitchRoot

open CText Calls Files

/-- The file systems of the kernel, before userdata is looked for. -/
def booted : Tree where
  mounts :=
    [([txt "dev"], .devtmpfs), ([txt "sys"], .sysfs), ([txt "proc"], .proc), ([], .initramfs)]

/-- The installed system: userdata is the root, the file systems of the kernel are in their places
in it, and its `/sbin/init` runs. -/
def handed (dev : Text) : Tree where
  mounts :=
    [([txt "dev"], .devtmpfs), ([txt "sys"], .sysfs), ([txt "proc"], .proc), ([], .ext4 dev),
      ([], .initramfs)]
  root := .ext4 dev
  running := some (.ext4 dev, txt "/sbin/init")

/-- The files of userdata when the overlay has been deployed and the mount points made. -/
def deployed (overlay : Overlay) (mounted : Fs) : Fs :=
  (((overlay.deploy mounted).mkdir (txt "/newroot/proc")).mkdir (txt "/newroot/sys")).mkdir
    (txt "/newroot/dev")

/-- Nothing has been started. -/
def Idle (log : BootLog) : Prop := (tree log).running = none

/-- Only the installed system is started, from a path that was there. Nothing of it has been
removed or replaced, and if no call of the deployment has failed the overlay is in it. -/
def Ended (overlay : Overlay) (mounted : Fs) : End → BootLog → Prop
  | .started, log => ∃ dev ∈ userdataPaths,
      (⟨.access dev, true⟩ : Exchange BootCall Reply) ∈ log ∧ tree log = handed dev ∧
        Grows mounted (files mounted log).1 ∧
        (Smooth mounted log → (files mounted log).1 = deployed overlay mounted)
  | .died _, log => Idle log

/-! ## Calls that must succeed -/

section Rules

variable {overlay : Overlay} {mounted : Fs} {at_ after : Tree} {msg : String}

/-- Init dies without having started anything. -/
theorem die_ensures {post : Unit → Unit → BootLog → Prop} :
    (die msg : Init Unit).Ensures (fun _ => Idle) post fun left _ => Ended overlay mounted left := by
  refine .bind (fun _ _ => Idle) (.request fun _ _ _ idle => idle) fun _ => ?_
  refine .bind (fun _ _ => Idle) (.request fun _ _ _ idle => idle) fun _ => ?_
  exact .exit fun _ _ idle => idle

/-- A call that must succeed, and what holds then. -/
theorem must_ensures {call : Init Bool} {before next : BootLog → Prop}
    (done : call.Ensures (fun _ => before) (fun done _ log => if done = true then next log else Idle log)
      fun left _ => Ended overlay mounted left) :
    (must msg call).Ensures (fun _ => before) (fun _ _ => next)
      fun left _ => Ended overlay mounted left := by
  refine .bind _ done fun done => ?_
  cases done with
  | true => exact .pure fun _ _ => id
  | false => exact die_ensures

/-! ## Before userdata is mounted -/

/-- Directories are made in the initramfs. -/
theorem mkpath_ensures (path : String) (idle : at_.running = none) :
    (mkpath path).Ensures (fun _ log => tree log = at_) (fun _ _ log => tree log = at_)
      fun left _ => Ended overlay mounted left := by
  refine must_ensures (.request fun (done : Bool) _ log same => ?_)
  cases done with
  | true => exact same
  | false => exact (congrArg Tree.running same).trans idle

/-- A mount that must succeed has been made. -/
theorem mount_ensures (fs : FileSystem) (target : String) (idle : at_.running = none) :
    (must msg (Session.request (BootCall.mount fs (txt target)))).Ensures
      (fun _ log => tree log = at_)
      (fun _ _ log => tree log = at_.step (.mount fs (txt target)) true)
      fun left _ => Ended overlay mounted left := by
  refine must_ensures (.request fun (done : Bool) _ log same => ?_)
  cases done with
  | true => exact congrArg (fun at_ : Tree => at_.step (.mount fs (txt target)) true) same
  | false => exact (congrArg Tree.running same).trans idle

/-! ## Finding userdata -/

/-- Writing to `uevent` files changes no file that counts. -/
theorem triggerAll_ensures (names : List Text) :
    (triggerAll names).Ensures (fun _ log => tree log = at_) (fun _ _ log => tree log = at_)
      fun left _ => Ended overlay mounted left := by
  induction names with
  | nil => exact .pure fun _ _ => id
  | cons name rest ih =>
      refine .ite (fun _ => ih) fun _ => ?_
      exact .bind (fun _ _ log => tree log = at_) (.request fun _ _ _ same => same) fun _ => ih

theorem triggerBlockUevents_ensures :
    triggerBlockUevents.Ensures (fun _ log => tree log = at_) (fun _ _ log => tree log = at_)
      fun left _ => Ended overlay mounted left := by
  refine .bind (fun _ _ log => tree log = at_) (.request fun _ _ _ same => same)
    fun (names : Option (List Text)) => ?_
  cases names with
  | none => exact .pure fun _ _ => id
  | some names =>
      exact .bind _ (triggerAll_ensures names) fun _ => .request fun _ _ _ same => same

/-- A path that is found was there. -/
def FoundAt (at_ : Tree) (found : Option Text) (log : BootLog) : Prop :=
  tree log = at_ ∧ ∀ path ∈ found,
    path ∈ userdataPaths ∧ (⟨.access path, true⟩ : Exchange BootCall Reply) ∈ log

/-- A path that is found among several was there. -/
theorem firstThere_ensures (paths : List Text) (subset : paths ⊆ userdataPaths) :
    (firstThere paths).Ensures (fun _ log => tree log = at_) (fun found _ => FoundAt at_ found)
      fun left _ => Ended overlay mounted left := by
  induction paths with
  | nil => exact .pure fun _ _ same => ⟨same, by simp⟩
  | cons path rest ih =>
      refine .bind (fun (there : Bool) _ log => tree log = at_ ∧
        (⟨.access path, there⟩ : Exchange BootCall Reply) ∈ log)
        (.request fun _ _ _ same => ⟨same, List.mem_cons_self⟩) fun (there : Bool) => ?_
      cases there with
      | true =>
          refine .pure fun _ _ seen => ⟨seen.1, ?_⟩
          rintro _ ⟨⟩
          exact ⟨subset List.mem_cons_self, seen.2⟩
      | false =>
          exact (ih fun other member => subset (List.mem_cons_of_mem path member)).before
            fun _ _ seen => seen.1

/-- Userdata that is found was there. -/
theorem findUserdata_ensures (n : Nat) :
    (findUserdata n).Ensures (fun _ log => tree log = at_) (fun found _ => FoundAt at_ found)
      fun left _ => Ended overlay mounted left := by
  induction n with
  | zero => exact .pure fun _ _ same => ⟨same, by simp⟩
  | succ n ih =>
      refine .bind _ triggerBlockUevents_ensures fun _ => ?_
      refine .bind _ (firstThere_ensures userdataPaths (List.Subset.refl _)) fun found => ?_
      cases found with
      | some path => exact .pure fun _ _ => id
      | none =>
          exact .bind (fun _ _ log => tree log = at_) (.request fun _ _ _ found => found.1)
            fun _ => ih

/-! ## The new root -/

/-- How far init has come: what is mounted and what the files should be. Userdata was there, and
nothing of it has been removed or replaced. -/
structure Stands (mounted : Fs) (dev : Text) (at_ : Tree) (fs : Fs) (log : BootLog) : Prop where
  tree : tree log = at_
  found : (⟨.access dev, true⟩ : Exchange BootCall Reply) ∈ log
  grows : Grows mounted (files mounted log).1
  files : Smooth mounted log → (files mounted log).1 = fs

/-- A call that does not write. -/
theorem Stands.next {dev : Text} {fs : Fs} {log : BootLog} (stands : Stands mounted dev at_ fs log)
    (exchange : Exchange BootCall Reply)
    (reads : ∀ now, written mounted now exchange.request exchange.answer = now) :
    Stands mounted dev (at_.step exchange.request exchange.answer) fs (exchange :: log) where
  tree := congrArg (fun at_ : Tree => at_.step exchange.request exchange.answer) stands.tree
  found := List.mem_cons_of_mem exchange stands.found
  grows := by
    rw [SwitchRoot.files, reads]
    exact stands.grows
  files smooth := by
    rw [SwitchRoot.files, reads]
    exact stands.files smooth.1

/-- Nothing has been started where no program runs. -/
theorem Stands.idle {dev : Text} {fs : Fs} {log : BootLog} (stands : Stands mounted dev at_ fs log)
    (idle : at_.running = none) : Idle log := (congrArg Tree.running stands.tree).trans idle

variable {dev : Text} {fs : Fs}

/-- Userdata has the given files when it has been mounted. -/
theorem mounts_userdata (at_ : Tree) (idle : at_.running = none) :
    (must msg (Session.request (BootCall.mount (.ext4 dev) (txt "/newroot")))).Ensures
      (fun _ log => tree log = at_ ∧ (⟨.access dev, true⟩ : Exchange BootCall Reply) ∈ log)
      (fun _ _ => Stands mounted dev (at_.step (.mount (.ext4 dev) (txt "/newroot")) true) mounted)
      fun left _ => Ended overlay mounted left := by
  refine must_ensures (.request fun (done : Bool) _ log same => ?_)
  cases done with
  | true =>
      exact ⟨congrArg (fun at_ : Tree => at_.step (.mount (.ext4 dev) (txt "/newroot")) true) same.1,
        List.mem_cons_of_mem _ same.2, .refl _, fun _ => rfl⟩
  | false => exact (congrArg Tree.running same.1).trans idle

/-- The deployment does to the files what the pure model says, or fails in part. -/
theorem deployOverlay_stands :
    (deployOverlay overlay).Ensures (fun _ => Stands mounted dev at_ fs)
      (fun _ _ => Stands mounted dev at_ (overlay.deploy fs))
      fun left _ => Ended overlay mounted left := by
  have stable : Stable fun log => tree log = at_ ∧
      (⟨.access dev, true⟩ : Exchange BootCall Reply) ∈ log ∧ Grows mounted (files mounted log).1 :=
    fun exchange log ours holds => ⟨tree_stable at_ exchange log ours holds.1,
      member_stable _ exchange log ours holds.2.1, grows_stable mounted exchange log ours holds.2.2⟩
  refine (deployOverlay_deploys overlay fs mounted _ stable _).mono ?_ ?_ fun _ _ _ => id
  · exact fun _ _ stands => ⟨⟨stands.tree, stands.found, stands.grows⟩, stands.files⟩
  · exact fun _ _ _ stage => ⟨stage.1.1, stage.1.2.1, stage.1.2.2, stage.2⟩

/-- Mount points are made in userdata. -/
theorem mkpath_stands (path : String) (idle : at_.running = none) :
    (mkpath path).Ensures (fun _ => Stands mounted dev at_ fs)
      (fun _ _ => Stands mounted dev at_ (fs.mkdir (txt path)))
      fun left _ => Ended overlay mounted left := by
  refine must_ensures (.request fun (done : Bool) _ log stands => ?_)
  cases done with
  | true =>
      exact ⟨stands.tree, List.mem_cons_of_mem _ stands.found,
        stands.grows.trans (Fs.mkdir_grows _ _),
        fun smooth => congrArg (Fs.mkdir (txt path)) (stands.files smooth.1)⟩
  | false => exact (congrArg Tree.running stands.tree).trans idle

/-- A mount that is moved is in its new place. -/
theorem move_stands (source target : String) (idle : at_.running = none) :
    (must msg (Session.request (BootCall.move (txt source) (txt target)))).Ensures
      (fun _ => Stands mounted dev at_ fs)
      (fun _ _ => Stands mounted dev (at_.step (.move (txt source) (txt target)) true) fs)
      fun left _ => Ended overlay mounted left := by
  refine must_ensures (.request fun (done : Bool) _ log stands => ?_)
  have next := stands.next ⟨.move (txt source) (txt target), done⟩ fun _ => rfl
  cases done with
  | true => exact next
  | false => exact next.idle idle

/-- The working directory is where it was changed to. -/
theorem chdir_stands (path : String) (idle : at_.running = none) :
    (must msg (Session.request (BootCall.chdir (txt path)))).Ensures
      (fun _ => Stands mounted dev at_ fs)
      (fun _ _ => Stands mounted dev (at_.step (.chdir (txt path)) true) fs)
      fun left _ => Ended overlay mounted left := by
  refine must_ensures (.request fun (done : Bool) _ log stands => ?_)
  have next := stands.next ⟨.chdir (txt path), done⟩ fun _ => rfl
  cases done with
  | true => exact next
  | false => exact next.idle idle

/-- The root is where it was changed to. -/
theorem chroot_stands (path : String) (idle : at_.running = none) :
    (must msg (Session.request (BootCall.chroot (txt path)))).Ensures
      (fun _ => Stands mounted dev at_ fs)
      (fun _ _ => Stands mounted dev (at_.step (.chroot (txt path)) true) fs)
      fun left _ => Ended overlay mounted left := by
  refine must_ensures (.request fun (done : Bool) _ log stands => ?_)
  have next := stands.next ⟨.chroot (txt path), done⟩ fun _ => rfl
  cases done with
  | true => exact next
  | false => exact next.idle idle

/-- What is executed runs. -/
theorem execl_stands (path : String) (idle : at_.running = none) :
    (must msg (Session.request (BootCall.execl (txt path)))).Ensures
      (fun _ => Stands mounted dev at_ fs)
      (fun _ _ => Stands mounted dev (at_.step (.execl (txt path)) true) fs)
      fun left _ => Ended overlay mounted left := by
  refine must_ensures (.request fun (done : Bool) _ log stands => ?_)
  have next := stands.next ⟨.execl (txt path), done⟩ fun _ => rfl
  cases done with
  | true => exact next
  | false => exact next.idle idle

/-- **From userdata on init never returns**: it ends with the system started, or dead. -/
theorem switchTo_ensures (there : dev ∈ userdataPaths) :
    (switchTo overlay dev).Ensures
      (fun _ log => tree log = booted ∧ (⟨.access dev, true⟩ : Exchange BootCall Reply) ∈ log)
      (fun _ _ _ => False) fun left _ => Ended overlay mounted left := by
  have newroot : (mkpath "/newroot").Ensures
      (fun _ log => tree log = booted ∧ (⟨.access dev, true⟩ : Exchange BootCall Reply) ∈ log)
      (fun _ _ log => tree log = booted ∧ (⟨.access dev, true⟩ : Exchange BootCall Reply) ∈ log)
      fun left _ => Ended overlay mounted left :=
    ((mkpath_ensures "/newroot" rfl).frame fun exchange _ member =>
      List.mem_cons_of_mem exchange member).early fun _ _ _ both => both.1
  refine .bind _ newroot fun _ => ?_
  refine .bind _ (mounts_userdata booted rfl) fun _ => ?_
  refine .bind _ deployOverlay_stands fun _ => ?_
  refine .bind _ (mkpath_stands "/newroot/proc" rfl) fun _ => ?_
  refine .bind _ (mkpath_stands "/newroot/sys" rfl) fun _ => ?_
  refine .bind _ (mkpath_stands "/newroot/dev" rfl) fun _ => ?_
  refine .bind _ (move_stands "/proc" "/newroot/proc" rfl) fun _ => ?_
  refine .bind _ (move_stands "/sys" "/newroot/sys" rfl) fun _ => ?_
  refine .bind _ (move_stands "/dev" "/newroot/dev" rfl) fun _ => ?_
  refine .bind _ (chdir_stands "/newroot" rfl) fun _ => ?_
  refine .bind _ (move_stands "." "/" rfl) fun _ => ?_
  refine .bind _ (chroot_stands "." rfl) fun _ => ?_
  refine .bind _ (execl_stands "/sbin/init" rfl) fun _ => ?_
  exact .exit fun _ log stands =>
    ⟨dev, there, stands.found, stands.tree.trans rfl, stands.grows, stands.files⟩

/-- **Init never returns.** -/
theorem main_ensures :
    (main overlay).Ensures (fun _ log => tree log = {}) (fun _ _ _ => False)
      fun left _ => Ended overlay mounted left := by
  refine .bind _ (mkpath_ensures "/proc" rfl) fun _ => ?_
  refine .bind _ (mkpath_ensures "/sys" rfl) fun _ => ?_
  refine .bind _ (mkpath_ensures "/dev" rfl) fun _ => ?_
  refine .bind _ (mount_ensures .proc "/proc" rfl) fun _ => ?_
  refine .bind _ (mount_ensures .sysfs "/sys" rfl) fun _ => ?_
  refine .bind _ (mount_ensures .devtmpfs "/dev" rfl) fun _ => ?_
  refine .bind _ (findUserdata_ensures 240) fun found => ?_
  cases found with
  | none => exact die_ensures.before fun _ log found => congrArg Tree.running found.1
  | some dev =>
      refine .assume (fun _ _ found => (found.2 dev rfl).1) fun there => ?_
      exact (switchTo_ensures there).before fun _ _ found => ⟨found.1, (found.2 dev rfl).2⟩

end Rules

/-! ## How long init waits -/

section Waiting

/-- A call that does not sleep costs no time. -/
theorem request_costs {call : BootCall} (free : ∀ answer, micros ⟨call, answer⟩ = 0) :
    (Session.request call : Init (Reply call)).Costs micros 0 :=
  .request fun answer => (free answer).le

/-- Dying costs none. -/
theorem die_costs (msg : String) : (die msg : Init Unit).Costs micros 0 :=
  (request_costs fun _ => rfl).after fun _ => (request_costs fun _ => rfl).after fun _ => .exit

/-- What must succeed costs what it is. -/
theorem must_costs {msg : String} {call : Init Bool} (free : call.Costs micros 0) :
    (must msg call).Costs micros 0 :=
  free.after fun _ => .ite .pure (die_costs msg)

/-- Triggering costs none. -/
theorem triggerAll_costs (names : List Text) : (triggerAll names).Costs micros 0 := by
  induction names with
  | nil => exact .pure
  | cons name rest ih =>
      exact .ite ih ((request_costs fun _ => rfl).after fun _ => ih)

/-- A fifth of a second is slept after triggering. -/
theorem triggerBlockUevents_costs : triggerBlockUevents.Costs micros 200000 := by
  refine (request_costs fun _ => rfl).after fun (names : Option (List Text)) => ?_
  cases names with
  | none => exact .pure
  | some names => exact (triggerAll_costs names).after fun _ => .request fun _ => Int.le_refl 200000

/-- Looking for a path costs nothing. -/
theorem firstThere_costs (paths : List Text) : (firstThere paths).Costs micros 0 := by
  induction paths with
  | nil => exact .pure
  | cons path rest ih => exact (request_costs fun _ => rfl).after fun _ => .ite .pure ih

/-- A round takes less than half a second. -/
theorem findUserdata_costs (n : Nat) : (findUserdata n).Costs micros (450000 * n) := by
  induction n with
  | zero => exact .pure
  | succ n ih =>
      have total : 200000 + (250000 + 450000 * n) = 450000 * (n + 1) := by omega
      have slept : ((Session.request (BootCall.usleep 250000) : Init Unit) >>= fun _ =>
          findUserdata n).Costs micros (250000 + 450000 * n) :=
        (Session.Costs.request fun _ => Int.le_refl 250000).bind fun _ => ih
      rw [← total]
      refine triggerBlockUevents_costs.bind fun _ => (firstThere_costs userdataPaths).after
        fun found => ?_
      cases found with
      | some path => exact .pure
      | none => exact slept

/-- The deployment costs nothing. -/
theorem deployOverlay_costs (overlay : Overlay) : (deployOverlay overlay).Costs micros 0 :=
  fun spent => ((deployOverlay_deploys overlay).keeps (weigh_stable spent)).mono (fun _ _ => id)
    (fun _ _ _ within => by omega) fun _ _ _ within => by omega

/-- Switching to userdata does not either. -/
theorem switchTo_costs (overlay : Overlay) (dev : Text) : (switchTo overlay dev).Costs micros 0 :=
  (must_costs (request_costs fun _ => rfl)).after fun _ =>
    (must_costs (request_costs fun _ => rfl)).after fun _ =>
    (deployOverlay_costs overlay).after fun _ =>
    (must_costs (request_costs fun _ => rfl)).after fun _ =>
    (must_costs (request_costs fun _ => rfl)).after fun _ =>
    (must_costs (request_costs fun _ => rfl)).after fun _ =>
    (must_costs (request_costs fun _ => rfl)).after fun _ =>
    (must_costs (request_costs fun _ => rfl)).after fun _ =>
    (must_costs (request_costs fun _ => rfl)).after fun _ =>
    (must_costs (request_costs fun _ => rfl)).after fun _ =>
    (must_costs (request_costs fun _ => rfl)).after fun _ =>
    (must_costs (request_costs fun _ => rfl)).after fun _ =>
    (must_costs (request_costs fun _ => rfl)).after fun _ => .exit

/-- Init waits 108 seconds at most. -/
theorem main_costs (overlay : Overlay) : (main overlay).Costs micros (450000 * 240) := by
  have gone : (die "userdata partition not found" : Init Unit).Costs micros 0 := die_costs _
  refine (must_costs (request_costs fun _ => rfl)).after fun _ =>
    (must_costs (request_costs fun _ => rfl)).after fun _ =>
    (must_costs (request_costs fun _ => rfl)).after fun _ =>
    (must_costs (request_costs fun _ => rfl)).after fun _ =>
    (must_costs (request_costs fun _ => rfl)).after fun _ =>
    (must_costs (request_costs fun _ => rfl)).after fun _ =>
    (findUserdata_costs 240).followed fun found => ?_
  cases found with
  | none => exact gone
  | some dev => exact switchTo_costs overlay dev

end Waiting

/-- A phone whose userdata partition comes up while init looks for it a second time, and whose
file system is full: nothing can be written. -/
def lateUserdata : Nat → (call : BootCall) → Reply call × Nat
  | n, .mkdir _ | n, .mount _ _ | n, .move _ _ => (true, n)
  | n, .chdir _ | n, .chroot _ | n, .execl _ => (true, n)
  | n, .opendir _ | n, .readdir _ | n, .lstat _ | n, .readlink _ | n, .openIn _ => (true, n)
  | n, .symlink _ _ | n, .openOut _ => (false, n)
  | n, .access _ => (6 ≤ n, n + 1)
  | n, .readBlocks => (some [txt "mmcblk0", txt "mmcblk0p87", txt "zram0"], n)
  | n, .read left => (left, n)
  | n, .write _ => (0, n)
  | n, .writeUevent _ | n, .usleep _ | n, .say _ | n, .sleep _ => ((), n)

/-- Init on such a phone, where the overlay masks the display manager. -/
def lateBoot : (Except End Unit × Unit) × BootLog × Nat :=
  (main Overlay.maskGdm ()).eval lateUserdata 0 []

end Ginkgo.SwitchRoot
