import Ginkgo.Calls.Session
import Ginkgo.Raster.Shelf

/-!
# The picture on the framebuffer device

The software path of `present` in `ginkgo-status.c`, with `write_all`. The back buffer is written to
the device in one piece when its rows follow each other there, and row by row otherwise. A seek may
fail, and a write may fail or write a part only.
-/

namespace Ginkgo.Fbdev

open Calls Raster

/-- The calls for the device. -/
inductive FbCall where
  | lseek (off : Nat)
  | write (bytes : List UInt8)
  | waitForVsync

/-- What a write of some bytes returns. -/
abbrev Written (count : Nat) : Type := { n : Int // n ≤ count }

/-- Whether a seek has succeeded, and what a write returns. -/
abbrev Reply : FbCall → Type
  | .lseek _ => Bool
  | .write bytes => Written bytes.length
  | .waitForVsync => Unit

/-- The calls of a run and their answers, the last one first. -/
abbrev FbLog := Log FbCall Reply

/-- A function that draws to the device. -/
abbrev Fb := Session Unit Unit FbCall Reply

/-- The size of the picture, the length of a row on the device, and the back buffer. `open_fbdev`
has checked the sizes. -/
structure Screen where
  W : Nat
  H : Nat
  pitch : Nat
  back : Nat → UInt32
  large : 480 ≤ W ∧ 480 ≤ H
  wide : W * 4 ≤ pitch

/-- `write_all`, after `off` bytes. -/
def writeAll (buf : List UInt8) (off : Nat) : Fb Int :=
  if off < buf.length then do
    let n : Written (buf.drop off).length ← Session.request (FbCall.write (buf.drop off))
    if n.val < 0 then pure (-1)
    else if n.val = 0 then pure off
    else writeAll buf (off + n.val.toNat)
  else pure off
termination_by buf.length - off

namespace Screen

variable (screen : Screen)

/-- A byte of the back buffer. -/
def byte (i : Nat) : UInt8 := (screen.back (i / 4) >>> UInt32.ofNat (8 * (i % 4))).toUInt8

/-- `count` bytes of the back buffer. -/
def bytes (start count : Nat) : List UInt8 := (List.range count).map fun i => screen.byte (start + i)

/-- The loop over the rows from `y` on, `left` of them. -/
def rows : Nat → Nat → Fb Unit
  | _, 0 => pure ()
  | y, left + 1 => do
      let found : Bool ← Session.request (FbCall.lseek (y * screen.pitch))
      if found then do
        let _ ← writeAll (screen.bytes (y * screen.W * 4) (screen.W * 4)) 0
        rows (y + 1) left
      else pure ()

/-- `present` of a screen without a GPU. -/
def present : Fb Unit := do
  let found : Bool ← Session.request (FbCall.lseek 0)
  if found then do
    if screen.pitch = screen.W * 4 then do
      let _ ← writeAll (screen.bytes 0 (screen.W * screen.H * 4)) 0
      let _ : Unit ← Session.request FbCall.waitForVsync
    else do
      screen.rows 0 screen.H
      let _ : Unit ← Session.request FbCall.waitForVsync
  else pure ()

end Screen

/-! ## The device -/

/-- The open file: where it stands, and what is in it. -/
structure Device where
  pos : Nat
  file : Nat → UInt8

/-- The file after some calls. -/
def Device.after (start : Device) : FbLog → Device
  | [] => start
  | ⟨.lseek off, found⟩ :: earlier =>
      let found : Bool := found
      if found then { start.after earlier with pos := off } else start.after earlier
  | ⟨.write bytes, n⟩ :: earlier =>
      let n : Written bytes.length := n
      let device := start.after earlier
      ⟨device.pos + n.val.toNat,
        copy device.pos n.val.toNat (fun i => bytes.getD i 0) device.file⟩
  | ⟨.waitForVsync, _⟩ :: earlier => start.after earlier

/-- A call that goes well: a write writes something if there is something to write. -/
def Fine (exchange : Exchange FbCall Reply) : Prop :=
  match exchange with
  | ⟨.lseek _, found⟩ => (show Bool from found) = true
  | ⟨.write bytes, n⟩ => bytes ≠ [] → 0 < (show Written bytes.length from n).val
  | ⟨.waitForVsync, _⟩ => True

/-- The byte of the picture that has its place at `i`. -/
def Screen.picture (screen : Screen) (i : Nat) : Option UInt8 :=
  if i % screen.pitch < screen.W * 4 ∧ i / screen.pitch < screen.H then
    some (screen.byte (i / screen.pitch * screen.W * 4 + i % screen.pitch))
  else none

/-! ## What is written -/

section Rules

variable {screen : Screen} {start : Device} {log : FbLog}

/-- The file has nothing but the picture and what was there before, and, if all calls have gone
well, the picture up to some place. -/
structure Painted (screen : Screen) (start : Device) (upto : Nat) (log : FbLog) : Prop where
  sound : ∀ i, (start.after log).file i = start.file i ∨
    screen.picture i = some ((start.after log).file i)
  done : (∀ exchange ∈ log, Fine exchange) →
    ∀ i < upto, ∀ b, screen.picture i = some b → (start.after log).file i = b

/-- Painted, and the file stands there. -/
def At (screen : Screen) (start : Device) (upto : Nat) (log : FbLog) : Prop :=
  Painted screen start upto log ∧ (start.after log).pos = upto

/-- A call that leaves the file leaves it painted. -/
theorem Painted.still {upto : Nat} (painted : Painted screen start upto log)
    {exchange : Exchange FbCall Reply} (file : (start.after (exchange :: log)).file =
      (start.after log).file) : Painted screen start upto (exchange :: log) := by
  refine ⟨fun i => file ▸ painted.sound i, fun fine i below b pictured => ?_⟩
  rw [file]
  exact painted.done (fun other member => fine other (List.mem_cons_of_mem _ member)) i below b
    pictured

/-- After a call that goes wrong nothing is promised of how far. -/
theorem Painted.failed {upto other : Nat} (painted : Painted screen start upto log)
    {exchange : Exchange FbCall Reply} (file : (start.after (exchange :: log)).file =
      (start.after log).file) (failed : ¬Fine exchange) :
    Painted screen start other (exchange :: log) :=
  ⟨(painted.still file).sound, fun fine => absurd (fine exchange List.mem_cons_self) failed⟩

/-- What `write_all` writes is the picture at that place. -/
def Fits (screen : Screen) (buf : List UInt8) (base : Nat) : Prop :=
  ∀ k (inside : k < buf.length), screen.picture (base + k) = some buf[k]

/-- What is written at its place is part of the picture. -/
theorem At.write {buf : List UInt8} {base off : Nat} (at_ : At screen start (base + off) log)
    (fits : Fits screen buf base) (n : Written (buf.drop off).length) :
    At screen start (base + (off + n.val.toNat)) (⟨.write (buf.drop off), n⟩ :: log) := by
  obtain ⟨painted, stands⟩ := at_
  have part : n.val ≤ (buf.length - off : Nat) := n.property.trans (by rw [List.length_drop])
  have written {i : Nat} (low : base + off ≤ i) (high : i < base + off + n.val.toNat) :
      screen.picture i = some ((buf.drop off).getD (i - (base + off)) 0) := by
    have pictured := fits (i - base) (by omega)
    rw [Nat.add_sub_cancel' (by omega)] at pictured
    have place : off + (i - (base + off)) = i - base := by omega
    rw [pictured, List.getD_eq_getElem?_getD, List.getElem?_drop, place,
      List.getElem?_eq_getElem (by omega)]
    rfl
  have file (i : Nat) : (start.after (⟨.write (buf.drop off), n⟩ :: log)).file i =
      if base + off ≤ i ∧ i < base + off + n.val.toNat then
        (buf.drop off).getD (i - (base + off)) 0
      else (start.after log).file i := by
    rw [← stands]
    rfl
  refine ⟨⟨fun i => ?_, fun fine i below b pictured => ?_⟩, ?_⟩
  · rw [file]
    split
    · next inside => exact .inr (written inside.1 inside.2)
    · exact painted.sound i
  · rw [file]
    split
    · next inside =>
        exact Option.some.inj ((written inside.1 inside.2).symm.trans pictured)
    · exact painted.done (fun other member => fine other (List.mem_cons_of_mem _ member)) i
        (by omega) b pictured
  · change (start.after log).pos + n.val.toNat = _
    omega

/-- `write_all` paints its bytes, or something goes wrong. -/
theorem writeAll_ensures {buf : List UInt8} {base : Nat} (fits : Fits screen buf base) (off : Nat)
    (inside : off ≤ buf.length) :
    (writeAll buf off).Ensures (fun _ => At screen start (base + off))
      (fun _ _ => Painted screen start (base + buf.length)) fun _ _ _ => False := by
  induction off using writeAll.induct buf with
  | case1 off more ih =>
      rw [writeAll, if_pos more]
      refine .bind (fun (n : Written (buf.drop off).length) _ log =>
        At screen start (base + (off + n.val.toNat)) log ∧
          (n.val ≤ 0 → ¬∀ exchange ∈ log, Fine exchange)) (.request fun n _ log at_ => ?_) fun n => ?_
      · refine ⟨at_.write fits n, fun failed fine => ?_⟩
        have some : buf.drop off ≠ [] := fun none => by
          rw [List.drop_eq_nil_iff] at none
          omega
        exact absurd (fine _ List.mem_cons_self some) (Int.not_lt.mpr failed)
      · have part : n.val ≤ (buf.length - off : Nat) := n.property.trans (by rw [List.length_drop])
        have broken {result : Int} (failed : n.val ≤ 0) : Session.Ensures
            (fun _ log => At screen start (base + (off + n.val.toNat)) log ∧
              (n.val ≤ 0 → ¬∀ exchange ∈ log, Fine exchange)) (pure result : Fb Int)
            (fun _ _ => Painted screen start (base + buf.length)) fun _ _ _ => False :=
          .pure fun _ log ⟨at_, unwell⟩ => ⟨at_.1.sound, fun fine => absurd fine (unwell failed)⟩
        split
        · exact broken (by omega)
        · split
          · exact broken (by omega)
          · exact (ih n (by assumption) (by assumption) (by omega)).before fun _ _ => And.left
  | case2 off ended =>
      rw [writeAll, if_neg ended]
      obtain rfl : off = buf.length := by omega
      exact .pure fun _ _ => And.left

/-- The bytes of a row are the picture's. -/
theorem bytes_fits {start base count : Nat}
    (same : ∀ k < count, screen.picture (base + k) = some (screen.byte (start + k))) :
    Fits screen (screen.bytes start count) base := by
  intro k inside
  rw [Screen.bytes, List.length_map, List.length_range] at inside
  simp [Screen.bytes, same k inside]

/-- A row of the picture stands at the row of the device. -/
theorem picture_row {y k : Nat} (row : y < screen.H) (inside : k < screen.pitch) :
    screen.picture (y * screen.pitch + k) =
      if k < screen.W * 4 then some (screen.byte (y * screen.W * 4 + k)) else none := by
  have column : (y * screen.pitch + k) % screen.pitch = k := by
    rw [Nat.mul_comm, Nat.mul_add_mod, Nat.mod_eq_of_lt inside]
  have place : (y * screen.pitch + k) / screen.pitch = y := by
    rw [Nat.mul_comm, Nat.mul_add_div (Nat.zero_lt_of_lt inside), Nat.div_eq_of_lt inside,
      Nat.add_zero]
  rw [Screen.picture, column, place]
  simp only [row, and_true]

/-- When the rows follow each other, the buffer is the picture. -/
theorem picture_whole (follow : screen.pitch = screen.W * 4) {k : Nat}
    (inside : k < screen.W * screen.H * 4) : screen.picture k = some (screen.byte k) := by
  have positive : 0 < screen.pitch := by
    have := screen.large
    omega
  have row : k / screen.pitch < screen.H := by
    rw [Nat.div_lt_iff_lt_mul positive, follow, Nat.mul_comm, Nat.mul_right_comm]
    exact inside
  rw [Screen.picture, if_pos ⟨follow ▸ Nat.mod_lt k positive, row⟩, Nat.mul_assoc, ← follow,
    Nat.div_add_mod']

/-- **The loop over the rows** paints them all. -/
theorem rows_ensures (y left : Nat) (all : y + left = screen.H) :
    (screen.rows y left).Ensures (fun _ => Painted screen start (y * screen.pitch))
      (fun _ _ => Painted screen start (screen.H * screen.pitch)) fun _ _ _ => False := by
  induction left generalizing y with
  | zero =>
      obtain rfl : y = screen.H := all
      exact .pure fun _ _ => id
  | succ left ih =>
      refine .bind (fun (found : Bool) _ log => if found = true then
        At screen start (y * screen.pitch) log else Painted screen start (screen.H * screen.pitch) log)
        (.request fun (found : Bool) _ log painted => ?_) fun (found : Bool) => ?_
      · cases found with
        | true => exact ⟨painted.still rfl, rfl⟩
        | false => exact painted.failed rfl Bool.false_ne_true
      · cases found with
        | false => exact .pure fun _ _ => id
        | true =>
            have below : y < screen.H := by omega
            have wide := screen.wide
            have fits : Fits screen (screen.bytes (y * screen.W * 4) (screen.W * 4))
                (y * screen.pitch) := by
              refine bytes_fits fun k inside => ?_
              rw [picture_row below (by omega), if_pos inside]
            refine .bind _ (writeAll_ensures fits 0 (Nat.zero_le _)) fun _ => ?_
            refine (ih (y + 1) (by omega)).before fun _ log painted => ⟨painted.sound, ?_⟩
            intro fine i inside b pictured
            by_cases written : i < y * screen.pitch + screen.W * 4
            · refine painted.done fine i ?_ b pictured
              rwa [Screen.bytes, List.length_map, List.length_range]
            · rw [Nat.succ_mul] at inside
              have place : i = y * screen.pitch + (i - y * screen.pitch) := by omega
              rw [place, picture_row below (by omega), if_neg (by omega)] at pictured
              cases pictured

end Rules

/-- Each pixel of the back buffer is in its row on the device, the lowest byte first. -/
def Screen.Shown (screen : Screen) (device : Device) : Prop :=
  ∀ y < screen.H, ∀ x < screen.W, ∀ b < 4, device.file (y * screen.pitch + x * 4 + b) =
    (screen.back (y * screen.W + x) >>> UInt32.ofNat (8 * b)).toUInt8

/-- **The device has the picture.** Whichever calls fail and however little a write writes, a byte of
the device is one of the picture at its place or what it was before; and when every call goes well,
each pixel of the back buffer is in its row. -/
theorem present_exact {screen : Screen} {start : Device} {outcome : Except Unit Unit × Unit}
    {log : FbLog} (runs : (screen.present ()).Runs [] outcome log) :
    (∀ i, (start.after log).file i = start.file i ∨
        screen.picture i = some ((start.after log).file i)) ∧
      ((∀ exchange ∈ log, Fine exchange) → screen.Shown (start.after log)) := by
  have ensures : screen.present.Ensures (fun _ log => log = [])
      (fun _ _ => Painted screen start (screen.H * screen.pitch)) fun _ _ _ => False := by
    have shown : (do
        let _ : Unit ← Session.request FbCall.waitForVsync : Fb Unit).Ensures
        (fun _ => Painted screen start (screen.H * screen.pitch))
        (fun _ _ => Painted screen start (screen.H * screen.pitch)) fun _ _ _ => False :=
      .request fun _ _ _ painted => painted.still rfl
    refine .bind (fun (found : Bool) _ log => if found = true then At screen start 0 log else
      Painted screen start (screen.H * screen.pitch) log)
      (.request fun (found : Bool) _ log empty => ?_) fun (found : Bool) => ?_
    · subst empty
      have blank : Painted screen start 0 [] :=
        ⟨fun _ => .inl rfl, fun _ i below => absurd below (Nat.not_lt_zero i)⟩
      cases found with
      | true => exact ⟨blank.still rfl, rfl⟩
      | false => exact blank.failed rfl Bool.false_ne_true
    · cases found with
      | false => exact .pure fun _ _ => id
      | true =>
          rw [if_pos rfl]
          refine .ite (fun follow => ?_) fun _ => ?_
          · have fits : Fits screen (screen.bytes 0 (screen.W * screen.H * 4)) 0 := by
              refine bytes_fits fun k inside => ?_
              rw [Nat.zero_add]
              exact picture_whole follow inside
            refine .bind _ (writeAll_ensures fits 0 (Nat.zero_le _)) fun _ => shown.before ?_
            intro _ log painted
            rw [Screen.bytes, List.length_map, List.length_range, Nat.zero_add] at painted
            rw [follow, Nat.mul_comm, Nat.mul_right_comm]
            exact painted
          · refine .bind _ ((rows_ensures 0 screen.H (Nat.zero_add _)).before fun _ log at_ => ?_)
              fun _ => shown
            rw [Nat.zero_mul]
            exact at_.1
  have painted : Painted screen start (screen.H * screen.pitch) log := by
    have ends := Program.wp_iff_runs.mp (ensures () [] rfl) _ _ runs
    obtain ⟨result, _⟩ := outcome
    cases result with
    | ok _ => exact ends
    | error _ => exact ends.elim
  refine ⟨painted.sound, fun fine y row x column b byte => ?_⟩
  have wide := screen.wide
  have inside : x * 4 + b < screen.pitch := by omega
  have pictured := picture_row row inside
  rw [if_pos (by omega), ← Nat.add_assoc] at pictured
  have below : y * screen.pitch + x * 4 + b < screen.H * screen.pitch := by
    have := Nat.mul_le_mul_right screen.pitch (Nat.succ_le_of_lt row)
    rw [Nat.succ_mul] at this
    omega
  rw [painted.done fine _ below _ pictured, Screen.byte]
  have pixel : (y * screen.W * 4 + (x * 4 + b)) / 4 = y * screen.W + x := by omega
  have part : (y * screen.W * 4 + (x * 4 + b)) % 4 = b := by omega
  rw [pixel, part]

/-- A small screen whose rows are longer on the device. -/
def smallScreen : Screen where
  W := 480
  H := 480
  pitch := 2048
  back i := UInt32.ofNat i
  large := ⟨Nat.le_refl _, Nat.le_refl _⟩
  wide := Nat.le_of_ble_eq_true rfl

/-- A device that takes one byte at a time. -/
def sips : Unit → (request : FbCall) → Reply request × Unit
  | (), .lseek _ => (true, ())
  | (), .write [] => (⟨0, Int.le_refl 0⟩, ())
  | (), .write (_ :: bytes) => (⟨1, Int.ofNat_le.mpr (Nat.succ_le_succ (Nat.zero_le bytes.length))⟩, ())
  | (), .waitForVsync => ((), ())

/-- Every call of the device goes well. -/
theorem sips_fine {request : FbCall} : Fine ⟨request, (sips () request).1⟩ := by
  cases request with
  | lseek off => rfl
  | write bytes =>
      intro some
      cases bytes with
      | nil => exact absurd rfl some
      | cons byte bytes => exact Int.one_pos
  | waitForVsync => trivial

/-- The small screen is shown by such a device. -/
theorem present_exact_small :
    smallScreen.Shown
      ((Device.mk 9 fun _ => 0).after ((smallScreen.present ()).eval sips () []).2.1) := by
  apply (present_exact (Program.runs_eval sips (smallScreen.present ()) () [])).2
  intro exchange member
  rcases Program.answer_of_mem_eval member with before | ⟨_, answered⟩
  · exact absurd before List.not_mem_nil
  · obtain ⟨request, answer⟩ := exchange
    obtain rfl : answer = (sips () request).1 := answered
    exact sips_fine

end Ginkgo.Fbdev
