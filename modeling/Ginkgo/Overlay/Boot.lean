import Ginkgo.Calls.Cost
import Ginkgo.Overlay.Faithful

/-!
# What init does

`init.c` as a session: `main` mounts the file systems of the kernel, waits for the userdata
partition, mounts it, deploys the overlay into it and makes it the root. Any call may fail. Where
`main` looks at a call it dies when the call has failed; `deploy_overlay` and what it calls go on.

What the calls have come to is read off those that have succeeded: what is mounted where and what
runs (`Ginkgo.SwitchRoot.tree`), and the files below `/newroot` (`Ginkgo.SwitchRoot.files`).
-/

namespace Ginkgo.SwitchRoot

open CText Calls Files

/-- What can be mounted; the initramfs is the root from the start. -/
inductive FileSystem where
  | initramfs
  | proc
  | sysfs
  | devtmpfs
  | ext4 (dev : Text)
  deriving DecidableEq

/-- What init calls. `readBlocks` lists `/sys/class/block`, and `writeUevent` opens the `uevent` of
a block device and writes `add`. `openIn` opens for reading, `openOut` with `O_CREAT` and
`O_TRUNC`; `read` comes with the bytes that the file still has, and reads into an array of 4096. -/
inductive BootCall where
  | mkdir (path : Text)
  | mount (fs : FileSystem) (target : Text)
  | move (source target : Text)
  | readBlocks
  | writeUevent (name : Text)
  | access (path : Text)
  | usleep (micros : Nat)
  | opendir (path : Text)
  | readdir (path : Text)
  | lstat (path : Text)
  | readlink (path : Text)
  | symlink (target path : Text)
  | openIn (path : Text)
  | openOut (path : Text)
  | read (left : Nat)
  | write (bytes : List UInt8)
  | chdir (path : Text)
  | chroot (path : Text)
  | execl (path : Text)
  | say (msg : Text)
  | sleep (seconds : Nat)
  deriving DecidableEq

/-- What is answered. Most calls succeed or not, and `mkdir` also does where the name is taken.
`readdir` tells whether it has delivered the next entry, `read` and `write` how many bytes have
come and gone, none when they have failed. -/
abbrev Reply : BootCall → Type
  | .mkdir _ | .mount _ _ | .move _ _ | .access _ | .chdir _ | .chroot _ | .execl _ => Bool
  | .opendir _ | .readdir _ | .lstat _ | .readlink _ | .symlink _ _ | .openIn _ | .openOut _ => Bool
  | .read _ | .write _ => Nat
  | .readBlocks => Option (List Text)
  | .writeUevent _ | .usleep _ | .say _ | .sleep _ => Unit

/-- The calls of init and their answers, the last one first. -/
abbrev BootLog := Log BootCall Reply

/-- How init ends: it has said what failed, or another program runs in its place. -/
inductive End where
  | died (msg : Text)
  | started

/-- A piece of init; it has no variables that live on. -/
abbrev Init := Session Unit End BootCall Reply

/-! ## Calls that must succeed -/

/-- `die` -/
def die {α : Type} (msg : String) : Init α := do
  let _ : Unit ← Session.request (BootCall.say (txt msg))
  let _ : Unit ← Session.request (BootCall.sleep 5)
  Session.exit (.died (txt msg))

/-- A call that must succeed. -/
def must (msg : String) (call : Init Bool) : Init Unit := do
  let done ← call
  if done then pure () else die msg

/-- `mkpath` -/
def mkpath (path : String) : Init Unit :=
  must "mkdir failed" (Session.request (BootCall.mkdir (txt path)))

/-! ## Finding userdata -/

/-- `userdata_paths` -/
def userdataPaths : List Text :=
  [txt "/dev/block/by-name/userdata", txt "/dev/block/mmcblk0p87", txt "/dev/mmcblk0p87",
    txt "/dev/disk/by-partlabel/userdata"]

/-- The loop of `trigger_block_uevents` over the names of the block devices. -/
def triggerAll : List Text → Init Unit
  | [] => pure ()
  | name :: rest =>
      if name.take 6 ≠ txt "mmcblk" then triggerAll rest
      else do
        let _ : Unit ← Session.request (BootCall.writeUevent name)
        triggerAll rest

/-- `trigger_block_uevents` -/
def triggerBlockUevents : Init Unit := do
  let names : Option (List Text) ← Session.request BootCall.readBlocks
  match names with
  | none => pure ()
  | some names => do
      triggerAll names
      Session.request (BootCall.usleep 200000)

/-- The first path that is there. -/
def firstThere : List Text → Init (Option Text)
  | [] => pure none
  | path :: rest => do
      let there : Bool ← Session.request (BootCall.access path)
      if there then pure (some path) else firstThere rest

/-- `find_userdata`, with the rounds that are left. -/
def findUserdata : Nat → Init (Option Text)
  | 0 => pure none
  | n + 1 => do
      triggerBlockUevents
      let found ← firstThere userdataPaths
      match found with
      | some path => pure (some path)
      | none => do
          let _ : Unit ← Session.request (BootCall.usleep 250000)
          findUserdata n

/-! ## Deploying the overlay -/

/-- What is done when a call has succeeded, and left when it has not. -/
def onlyIf (call : Init Bool) (rest : Init Unit) : Init Unit := do
  let done ← call
  if done then rest else pure ()

/-- `mkdir` where the result is not looked at. -/
def mkdirAnyway (path : Text) : Init Unit := do
  let _ : Bool ← Session.request (BootCall.mkdir path)
  pure ()

/-- The loop of `copy_file`, with the bytes that have not been read. What `write` leaves of the
bytes that have been read is lost. -/
def copyLoop (bytes : List UInt8) : Init Unit := do
  let (got : Nat) ← Session.request (BootCall.read bytes.length)
  let n := min got (min 4096 bytes.length)
  if _more : n ≠ 0 then do
    let _ : Nat ← Session.request (BootCall.write (bytes.take n))
    copyLoop (bytes.drop n)
  else pure ()
termination_by bytes.length
decreasing_by
  simp only [List.length_drop]
  omega

/-- `copy_file` -/
def copyFile (src dst : Text) (bytes : List UInt8) : Init Unit :=
  onlyIf (Session.request (BootCall.openIn src)) <|
    onlyIf (Session.request (BootCall.openOut dst)) <| copyLoop bytes

/-- The calls of `mkdir_p`, one after the other. -/
def mkdirAll : List Text → Init Unit
  | [] => pure ()
  | path :: rest => do
      mkdirAnyway path
      mkdirAll rest

/-- `mkdir_p` -/
def mkdirP (path : Text) : Init Unit :=
  let tmp := pathText path
  let ends := (List.range tmp.length).filter fun i => 1 ≤ i ∧ tmp[i]? = some slash
  mkdirAll (ends.map tmp.take ++ [tmp])

/-- The directories above a path are made. -/
def makeParent (dst : Text) : Init Unit :=
  match parentOf dst with
  | none => pure ()
  | some parent => mkdirP (pathText parent)

mutual

/-- `deploy_entry` -/
def deployEntry (src dst : Text) : Item → Init Unit
  | .dir entries =>
      onlyIf (Session.request (BootCall.lstat src)) do
        mkdirAnyway dst
        onlyIf (Session.request (BootCall.opendir src)) (deployLoop src dst entries)
  | .link target =>
      onlyIf (Session.request (BootCall.lstat src)) do
        makeParent dst
        onlyIf (Session.request (BootCall.readlink src)) do
          let _ : Bool ← Session.request (BootCall.symlink (target.take 511) dst)
          pure ()
  | .file bytes =>
      onlyIf (Session.request (BootCall.lstat src)) do
        makeParent dst
        copyFile src dst bytes

/-- The loop of `deploy_dir`, over the entries that are still to be read. -/
def deployLoop (src dst : Text) : Entries → Init Unit
  | .nil => pure ()
  | .cons name item rest =>
      onlyIf (Session.request (BootCall.readdir src)) do
        if name = dot ∨ name = dotdot then deployLoop src dst rest
        else do
          deployEntry (pathText (src ++ slash :: name)) (pathText (dst ++ slash :: name)) item
          deployLoop src dst rest

end

/-- `deploy_dir` -/
def deployDir (src dst : Text) (entries : Entries) : Init Unit :=
  onlyIf (Session.request (BootCall.opendir src)) (deployLoop src dst entries)

/-- `deploy_overlay` -/
def deployOverlay (overlay : Overlay) : Init Unit :=
  onlyIf (Session.request (BootCall.access (txt "/overlay")))
    (deployDir (txt "/overlay") (slash :: newroot) overlay.entries)

/-! ## The whole of init -/

/-- From the mount of userdata on. -/
def switchTo (overlay : Overlay) (rootdev : Text) : Init Unit := do
  mkpath "/newroot"
  must "mount userdata failed" (Session.request (BootCall.mount (.ext4 rootdev) (txt "/newroot")))
  deployOverlay overlay
  mkpath "/newroot/proc"
  mkpath "/newroot/sys"
  mkpath "/newroot/dev"
  must "move proc failed" (Session.request (BootCall.move (txt "/proc") (txt "/newroot/proc")))
  must "move sys failed" (Session.request (BootCall.move (txt "/sys") (txt "/newroot/sys")))
  must "move dev failed" (Session.request (BootCall.move (txt "/dev") (txt "/newroot/dev")))
  must "chdir /newroot failed" (Session.request (BootCall.chdir (txt "/newroot")))
  must "move root failed" (Session.request (BootCall.move (txt ".") (txt "/")))
  must "chroot failed" (Session.request (BootCall.chroot (txt ".")))
  must "exec /sbin/init failed" (Session.request (BootCall.execl (txt "/sbin/init")))
  Session.exit .started

/-- `main` of `init.c` -/
def main (overlay : Overlay) : Init Unit := do
  mkpath "/proc"
  mkpath "/sys"
  mkpath "/dev"
  must "mount proc failed" (Session.request (BootCall.mount .proc (txt "/proc")))
  must "mount sysfs failed" (Session.request (BootCall.mount .sysfs (txt "/sys")))
  must "mount devtmpfs failed" (Session.request (BootCall.mount .devtmpfs (txt "/dev")))
  let rootdev ← findUserdata 240
  match rootdev with
  | none => die "userdata partition not found"
  | some rootdev => switchTo overlay rootdev

/-! ## What is mounted where -/

/-- The mounts with the latest first, the directory and the root of init, and the program that has
taken over, with the file system it has been taken from. -/
structure Tree where
  mounts : List (Files.Path × FileSystem) := [([], .initramfs)]
  cwd : Files.Path := []
  root : FileSystem := .initramfs
  running : Option (FileSystem × Text) := none
  deriving DecidableEq

namespace Tree

/-- The path that a path name leads to. -/
def place (tree : Tree) (path : Text) : Files.Path :=
  if path.head? = some slash then components path else tree.cwd ++ components path

/-- Where a path is when a mount has been moved. -/
def moved (source target path : Files.Path) : Files.Path :=
  if source <+: path then target ++ path.drop source.length else path

/-- What a call changes. The file system that is mounted last at a path hides the others, but a
process keeps its root until it calls `chroot`. -/
def step (tree : Tree) : (call : BootCall) → Reply call → Tree
  | .mount fs target, done =>
      if done then { tree with mounts := (tree.place target, fs) :: tree.mounts } else tree
  | .move source target, done =>
      let move := moved (tree.place source) (tree.place target)
      let (inside, others) := tree.mounts.partition fun at_ => tree.place source <+: at_.1
      if done then
        { tree with
          mounts := inside.map (fun at_ => (move at_.1, at_.2)) ++ others
          cwd := move tree.cwd }
      else tree
  | .chdir path, done => if done then { tree with cwd := tree.place path } else tree
  | .chroot path, done =>
      if done then { tree with root := (tree.mounts.lookup (tree.place path)).getD tree.root }
      else tree
  | .execl path, done => if done then { tree with running := some (tree.root, path) } else tree
  | _, _ => tree

end Tree

/-- What all calls have come to. -/
def tree : BootLog → Tree
  | [] => {}
  | exchange :: earlier => (tree earlier).step exchange.request exchange.answer

/-- How long init waits in a call, in microseconds. -/
def micros : Exchange BootCall Reply → Int
  | ⟨.usleep micros, _⟩ => micros
  | _ => 0

/-! ## The files -/

/-- The files, and the one that is open for writing. -/
abbrev Written := Fs × Option Files.Path

/-- What a call changes in the files. When userdata has been mounted they are the given ones, and
a call that fails changes nothing. -/
def written (mounted : Fs) (now : Written) : (call : BootCall) → Reply call → Written
  | .mount (.ext4 _) _, done => if done then (mounted, none) else now
  | .mkdir path, done => if done then (now.1.mkdir path, now.2) else now
  | .symlink target path, done => if done then (now.1.symlink target path, now.2) else now
  | .openOut path, done => if done then now.1.openTrunc path else now
  | .write bytes, n => (now.2.elim now.1 fun out => now.1.write out (bytes.take n), now.2)
  | _, _ => now

/-- The files when userdata has had the given ones, and what the calls have made of them. -/
def files (mounted : Fs) : BootLog → Written
  | [] => (mounted, none)
  | exchange :: earlier => written mounted (files mounted earlier) exchange.request exchange.answer

/-- A call of the deployment that has done all that the files allow: the overlay can be read, what
has not been made could not have been made, and nothing is read or written short. -/
def Complete (now : Written) : (call : BootCall) → Reply call → Prop
  | .mkdir path, done => done = true ∨ now.1.mkdir path = now.1
  | .symlink target path, done => done = true ∨ now.1.symlink target path = now.1
  | .opendir _, done | .readdir _, done | .lstat _, done | .readlink _, done | .openIn _, done =>
      done = true
  | .openOut path, done => done = (now.1.openTrunc path).2.isSome
  | .read left, n => min 4096 left ≤ n
  | .write bytes, n => bytes.length ≤ n
  | .access path, done => path = txt "/overlay" → done = true
  | _, _ => True

/-- No call of the deployment has failed to do what the files allow. -/
def Smooth (mounted : Fs) : BootLog → Prop
  | [] => True
  | exchange :: earlier =>
      Smooth mounted earlier ∧ Complete (files mounted earlier) exchange.request exchange.answer

/-- Surroundings in which nothing fails: the files decide what is answered. -/
def kernel (mounted : Fs) (now : Written) (call : BootCall) : Reply call × Written :=
  let answer : Reply call :=
    match call with
    | .mkdir _ | .mount _ _ | .move _ _ | .access _ | .chdir _ | .chroot _ | .execl _ => true
    | .opendir _ | .readdir _ | .lstat _ | .readlink _ | .symlink _ _ | .openIn _ => true
    | .openOut path => (now.1.openTrunc path).2.isSome
    | .read left => left
    | .write bytes => bytes.length
    | .readBlocks => some []
    | .writeUevent _ | .usleep _ | .say _ | .sleep _ => ()
  (answer, written mounted now call answer)

/-- Where nothing fails, each call does what the files allow. -/
theorem kernel_complete (mounted : Fs) (now : Written) (call : BootCall) :
    Complete now call (kernel mounted now call).1 := by
  cases call with
  | mkdir path | symlink target path => exact .inl rfl
  | access path => exact fun _ => rfl
  | read left => exact Nat.min_le_right 4096 left
  | write bytes => exact Nat.le_refl bytes.length
  | opendir path | readdir path | lstat path | readlink path | openIn path | openOut path => rfl
  | mount fs target | move source target | readBlocks | writeUevent name | usleep micros
  | chdir path | chroot path | execl path | say msg | sleep seconds => trivial

/-- Where nothing fails, no call of the deployment has. -/
theorem smooth_kernel {α : Type} (mounted : Fs) (program : Program BootCall Reply α)
    (log : BootLog) (smooth : Smooth mounted log) :
    Smooth mounted (program.eval (kernel mounted) (files mounted log) log).2.1 := by
  induction program generalizing log with
  | done value => exact smooth
  | call request next ih =>
      exact ih _ (⟨request, (kernel mounted (files mounted log) request).1⟩ :: log)
        ⟨smooth, kernel_complete mounted _ request⟩

end Ginkgo.SwitchRoot
