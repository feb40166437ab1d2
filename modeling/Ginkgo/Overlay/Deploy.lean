import Ginkgo.CText.Buffer
import Ginkgo.Files.Tree

/-!
# Deploying the overlay

`deploy_overlay` of `init.c`: every directory, file and link of `/overlay` is made under
`/newroot`. Path names are built in arrays of 512 bytes. The results of the calls are
looked at only where the source does: a file is copied when it could be opened.

The overlay is read as a tree, in the order in which `readdir` delivers it. Reading its
files and links succeeds.
-/

namespace Ginkgo

open CText Files

mutual

/-- What the overlay has under a name. -/
inductive Item where
  | dir (entries : Entries)
  | file (bytes : List UInt8)
  | link (target : Text)

/-- The entries of a directory. -/
inductive Entries where
  | nil
  | cons (name : Name) (item : Item) (rest : Entries)

end

/-- The loop of `copy_file`: what has been read is written, 4096 bytes at a time. -/
def copyLoop (out : Files.Path) (bytes : List UInt8) (fs : Fs) : Fs :=
  if bytes = [] then fs else copyLoop out (bytes.drop 4096) (fs.write out (bytes.take 4096))
termination_by bytes.length
decreasing_by
  have := List.length_pos_of_ne_nil ‹_›
  simp only [List.length_drop]
  omega

/-- `copy_file` -/
def copyFile (bytes : List UInt8) (dst : Text) (fs : Fs) : Fs :=
  match fs.openTrunc dst with
  | (fs, none) => fs
  | (fs, some out) => copyLoop out bytes fs

/-- Make every directory that the path name goes through, and the one it names. -/
def mkdirP (path : Text) (fs : Fs) : Fs :=
  let tmp := (Buf.print 512 path).text
  let ends := (List.range tmp.length).filter fun i => 1 ≤ i ∧ tmp[i]? = some slash
  (ends.foldl (fun fs i => fs.mkdir (tmp.take i)) fs).mkdir tmp

/-- A path name as an array of 512 bytes holds it. -/
def pathText (path : Text) : Text := (Buf.print 512 path).text

/-- What is before the last slash of a path name. -/
def parentOf (path : Text) : Option Text :=
  if slash ∈ path then some (path.reverse.dropWhile fun c => c ≠ slash).tail.reverse else none

/-- The directories above a path. -/
def makeParent (dst : Text) (fs : Fs) : Fs :=
  match parentOf dst with
  | none => fs
  | some parent => mkdirP (Buf.print 512 parent).text fs

mutual

/-- `deploy_entry` -/
def deployEntry (dst : Text) : Item → Fs → Fs
  | .dir entries, fs => deployDir dst entries (fs.mkdir dst)
  | .link target, fs => (makeParent dst fs).symlink (target.take 511) dst
  | .file bytes, fs => copyFile bytes dst (makeParent dst fs)

/-- `deploy_dir` -/
def deployDir (dst : Text) : Entries → Fs → Fs
  | .nil, fs => fs
  | .cons name item rest, fs =>
      if name = dot ∨ name = dotdot then deployDir dst rest fs
      else
        let dstpath := (Buf.print 512 (dst ++ slash :: name)).text
        deployDir dst rest (deployEntry dstpath item fs)

end

/-- The component `/newroot`. -/
def newroot : Name := txt "newroot"

/-- `deploy_overlay`; without an overlay it does nothing. -/
def deployOverlay (overlay : Option Entries) (fs : Fs) : Fs :=
  match overlay with
  | none => fs
  | some entries => deployDir (slash :: newroot) entries fs

/-! ## What is at a path of the overlay -/

/-- The node that an item stands for. -/
def Item.node : Item → Node
  | .dir _ => .dir
  | .file bytes => .file bytes
  | .link target => .link target

mutual

/-- What an item has at a path below it. -/
def Item.find : Item → Files.Path → Option Node
  | item, [] => some item.node
  | .dir entries, name :: path => entries.find (name :: path)
  | _, _ :: _ => none

/-- What some entries have at a path. -/
def Entries.find : Entries → Files.Path → Option Node
  | .nil, _ => none
  | _, [] => none
  | .cons other item rest, name :: path =>
      if name = other then item.find path else rest.find (name :: path)

end

mutual

/-- The names in a directory are different, can be names, and fit into path names that start
with so many bytes; the targets of links are not empty and fit. -/
def Item.fits (length : Nat) : Item → Bool
  | .dir entries => entries.fits length
  | .file _ => true
  | .link target => target ≠ [] ∧ target.length < 512

/-- The names of the entries are plain and different, and their paths fit the arrays. -/
def Entries.fits (length : Nat) : Entries → Bool
  | .nil => true
  | .cons name item rest =>
      Plain name ∧ rest.find [name] = none ∧ length + 1 + name.length < 512 ∧
        item.fits (length + 1 + name.length) ∧ rest.fits length

end

/-- **An overlay**: a tree whose paths are shorter than 512 bytes. -/
structure Overlay where
  entries : Entries
  fits : entries.fits (slash :: newroot).length = true

/-- What the overlay has at a path. -/
def Overlay.find (overlay : Overlay) : Files.Path → Option Node := overlay.entries.find

/-- `deploy_overlay` -/
def Overlay.deploy (overlay : Overlay) : Fs → Fs := deployOverlay (some overlay.entries)

end Ginkgo
