import Ginkgo.CText.Buffer
import Ginkgo.Hud.WifiFlow
import Mathlib.Algebra.Order.Ring.Rat

/-!
# The state of the HUD

The globals of `ginkgo-status.c`, grouped by the part of the program they belong
to. Flags are Booleans, character arrays are `CText.Buf`, and an index that the
source sets to −1 is an option. The animation position `sheet_t` is a rational:
the program computes it in floating point, and every frame may set it freely.

Some functions take pointers into these arrays and overwrite one array while they
still read another through a pointer. `Ginkgo.Arg` names what a pointer points to,
and `Ginkgo.Hud.snprintf` copies through it. `Hud.trace` and `Hud.overlapped`
are history: they record what the program did and are never read by it.
-/

namespace Ginkgo

open CText

/-- `MAX_AP` -/
def maxAp : Nat := 24

/-- `PW_MAX` -/
def pwMax : Nat := 64

/-! The sizes of the arrays: each leaves room for the terminator. -/

instance neZero_16 : NeZero 16 := ⟨by decide⟩
instance neZero_24 : NeZero 24 := ⟨by decide⟩
instance neZero_32 : NeZero 32 := ⟨by decide⟩
instance neZero_40 : NeZero 40 := ⟨by decide⟩
instance neZero_64 : NeZero 64 := ⟨by decide⟩
instance neZero_96 : NeZero 96 := ⟨by decide⟩
instance neZero_160 : NeZero 160 := ⟨by decide⟩
instance neZero_192 : NeZero 192 := ⟨by decide⟩
instance neZero_16384 : NeZero 16384 := ⟨by decide⟩

/-- `clampi` -/
def clampi (v a b : Int) : Int := if v < a then a else if b < v then b else v

/-- `enum sheet` -/
inductive Sheet where
  | none
  | list
  | detail
  | pass
  deriving DecidableEq

/-- One row of the scan list. -/
structure Ap where
  ssid : Buf 96
  security : Buf 40
  freq : Buf 24
  signal : Int
  secure : Bool
  active : Bool
  deriving DecidableEq

/-- The live network. -/
structure Wifi where
  haveDev : Bool := false
  connected : Bool := false
  busy : Bool := false
  iface : Buf 32 := .empty 32
  ssid : Buf 96 := .empty 96
  ip : Buf 64 := .empty 64
  gw : Buf 64 := .empty 64
  freq : Buf 32 := .empty 32
  signal : Int := 0
  signalDbm : Int := 0

/-- The scan list and the selected network. -/
structure Scan where
  aps : List Ap := []
  selectedAp : Option Nat := none
  hoverAp : Option Nat := none
  selectedSsid : Buf 96 := .empty 96
  selectedSec : Buf 40 := .empty 40
  selectedFreq : Buf 24 := .empty 24
  selectedSignal : Int := 0
  selectedSecure : Bool := false
  selectedActive : Bool := false

/-- The join in progress and the queued join. -/
structure Join where
  connecting : Bool := false
  connectFail : Bool := false
  connectNeedPass : Bool := false
  joinWaitLive : Bool := false
  tJoinWait : Nat := 0
  lastFailKind : FailKind := .unknown
  lastFailRaw : Buf 192 := .empty 192
  wantConnect : Bool := false

/-- The names and passwords of joins, with the static arrays of `wifi_connect`. -/
structure Bufs where
  connectSsid : Buf 96 := .empty 96
  knownPskSsid : Buf 96 := .empty 96
  knownPsk : Buf 64 := .empty 64
  pendSsid : Buf 96 := .empty 96
  pendPass : Buf 64 := .empty 64
  pendSec : Buf 40 := .empty 40
  s1 : Buf 96 := .empty 96
  s2 : Buf 64 := .empty 64
  s3 : Buf 32 := .empty 32
  s4 : Buf 40 := .empty 40

/-- The forget in progress, its hold, and the queued one. -/
structure Forget where
  forgetting : Bool := false
  forgetSsid : Buf 96 := .empty 96
  wantForget : Bool := false
  pendForget : Buf 96 := .empty 96

/-- What a child process was started for. -/
inductive JobKind where
  | radio
  | info
  | scan
  | connect
  | link
  | forget
  deriving DecidableEq

/-- The job slot: the running child, the arguments it was started with and what it has
printed so far. -/
structure Job where
  pid : Option Nat := none
  kind : JobKind := .radio
  argv : List Text := []
  buf : Buf 16384 := .empty 16384

/-- The queued reports and the times of the last periodic ones. -/
structure Want where
  scan : Bool := false
  info : Bool := false
  link : Bool := false
  tScan : Nat := 0
  tWifi : Nat := 0

/-- What a key of the on-screen keyboard does. -/
inductive OskKind where
  | char
  | shift
  | sym
  | more
  | space
  | bksp
  | go
  deriving DecidableEq

/-- A key of the on-screen keyboard and where it is. -/
structure OskKey where
  ch : UInt8
  kind : OskKind
  x : Int
  y : Int
  w : Int
  h : Int

/-- The password and the on-screen keyboard. `typed` is history: the characters of the
password in order, each with the name the password sheet showed when it was typed, if it
was open. -/
structure Osk where
  password : Cells 64 := .zero 64
  pwLen : Nat := 0
  shiftOn : Bool := false
  symOn : Bool := false
  oskSym2 : Bool := false
  keys : List OskKey := []
  nosk : Nat := 0
  held : Bool := false
  hi : Option Nat := none
  typed : List (UInt8 × Option Text) := []

/-- The picture and the sheets, and where the list is. -/
structure Ui where
  W : Int
  H : Int
  sheet : Sheet := .none
  sheetTgt : Sheet := .none
  sheetT : ℚ := 0
  listScroll : Int := 0
  listScrollTgt : Int := 0
  langEn : Bool := false
  statusLine : Buf 96 := .empty 96

/-- One slot of the HUD's copy of the touch controller's slot table. -/
structure Slot where
  id : Int := -1
  x : Int := 0
  y : Int := 0
  haveX : Bool := false
  haveY : Bool := false
  major : Int := 0
  z : Int := 0
  fresh : Bool := false
  deriving DecidableEq

/-- `MAX_SLOTS` -/
abbrev maxSlots : Nat := 12

instance neZero_maxSlots : NeZero maxSlots := ⟨by decide⟩

/-- A slot number inside the bounds is a slot. -/
theorem toNat_lt_maxSlots {value : Int} (inside : 0 ≤ value ∧ value < maxSlots) :
    value.toNat < maxSlots := by
  omega

/-- The touch state: the slot table, the slot followed and the contact it carries. -/
structure Touch where
  mtCur : Fin maxSlots := 0
  slots : Fin maxSlots → Slot := fun _ => {}
  mtNslots : Nat := maxSlots
  mtNraw : Nat := 0
  bindSlot : Option (Fin maxSlots) := none
  mtGotPos : Bool := false
  slotX : Int := 0
  slotY : Int := 0
  slotId : Int := -1
  downX : Int := 0
  downY : Int := 0
  dragging : Bool := false
  contactArmed : Bool := false
  tDown : Nat := 0

/-- The backlight; `device` is the value last written to it. -/
structure Light where
  blMax : Int := 0
  blCur : Int := 0
  blPct : Int := -1
  blKeep : Int := 80
  draggingBl : Bool := false
  blPath : Bool := false
  device : Int := 0

/-- Whether the screen is off, and when it was switched and used last. -/
structure Screen where
  screenOff : Bool := false
  tUnblank : Nat := 0
  tBlank : Nat := 0
  tPowerKey : Nat := 0
  tUser : Nat := 0

/-- The arrays whose address is passed to a function. -/
inductive Var where
  | connectSsid
  | selectedSsid
  | selectedSec
  | pendSsid
  | pendPass
  | pendSec
  | knownPsk
  | password
  | iface
  | s1
  | s2
  | s3
  | s4
  deriving DecidableEq

/-- What a `const char *` argument points to. -/
inductive Arg where
  | var (name : Var)
  | apSecurity (row : Nat)
  | lit (text : Text)
  deriving DecidableEq

/-- The arrays that `wifi_connect` and `wifi_submit_pass` copy an argument to. -/
inductive Dst where
  | connectSsid
  | pendSsid
  | pendPass
  | pendSec
  | s1
  | s2
  | s3
  | s4
  deriving DecidableEq

/-- The name of a destination. -/
def Dst.var : Dst → Var
  | .connectSsid => .connectSsid
  | .pendSsid => .pendSsid
  | .pendPass => .pendPass
  | .pendSec => .pendSec
  | .s1 => .s1
  | .s2 => .s2
  | .s3 => .s3
  | .s4 => .s4

/-- What `wifi_connect` did with its arguments: put them into the arguments of the
script, queued them, or kept an already queued request. -/
inductive ConnectOutcome where
  | argv (s1 s2 s4 : Text)
  | queued (pendSsid pendPass pendSec : Text)
  | kept
  deriving DecidableEq

/-- A call of `wifi_connect` with a nonempty name: its arguments, the strings they
pointed to at entry, and what became of them. -/
structure ConnectCall where
  ssid : Arg
  pass : Arg
  sec : Arg
  ssidText : Text
  passText : Text
  secText : Text
  outcome : ConnectOutcome
  deriving DecidableEq

/-- What the program did, as far as properties of runs speak of it. -/
inductive Obs where
  | tap (x y : Int)
  | connect (call : ConnectCall)
  | start (kind : JobKind) (argv : List Text) (started : Bool)
  deriving DecidableEq

/-- **The state of the HUD.** `trace` is history, the latest observation first. -/
structure Hud where
  wifi : Wifi := {}
  scan : Scan := {}
  join : Join := {}
  bufs : Bufs := {}
  forget : Forget := {}
  job : Job := {}
  want : Want := {}
  osk : Osk := {}
  ui : Ui
  touch : Touch := {}
  light : Light := {}
  screen : Screen := {}
  tAssoc : Nat := 0
  trace : List Obs := []
  overlapped : Bool := false

namespace Hud

/-- `T(zh, en)`. -/
def T (h : Hud) (zh en : String) : Text := if h.ui.langEn then txt en else txt zh

/-- `snprintf(status_line, sizeof(status_line), "%s", s)`. -/
def setStatus (h : Hud) (s : Text) : Hud := { h with ui.statusLine := .print 96 s }

/-- History goes on. -/
def observe (h : Hud) (obs : Obs) : Hud := { h with trace := obs :: h.trace }

/-- The string an array holds. -/
def get (h : Hud) : Var → Text
  | .connectSsid => h.bufs.connectSsid.text
  | .selectedSsid => h.scan.selectedSsid.text
  | .selectedSec => h.scan.selectedSec.text
  | .pendSsid => h.bufs.pendSsid.text
  | .pendPass => h.bufs.pendPass.text
  | .pendSec => h.bufs.pendSec.text
  | .knownPsk => h.bufs.knownPsk.text
  | .password => h.osk.password.text
  | .iface => h.wifi.iface.text
  | .s1 => h.bufs.s1.text
  | .s2 => h.bufs.s2.text
  | .s3 => h.bufs.s3.text
  | .s4 => h.bufs.s4.text

/-- The string an argument points to. -/
def load (h : Hud) : Arg → Text
  | .var name => h.get name
  | .apSecurity row => (h.scan.aps[row]?.map fun ap => ap.security.text).getD []
  | .lit text => text

/-- Writing a buffer, which cuts what does not fit. -/
def put (h : Hud) (s : Text) : Dst → Hud
  | .connectSsid => { h with bufs.connectSsid := .print 96 s }
  | .pendSsid => { h with bufs.pendSsid := .print 96 s }
  | .pendPass => { h with bufs.pendPass := .print 64 s }
  | .pendSec => { h with bufs.pendSec := .print 40 s }
  | .s1 => { h with bufs.s1 := .print 96 s }
  | .s2 => { h with bufs.s2 := .print 64 s }
  | .s3 => { h with bufs.s3 := .print 32 s }
  | .s4 => { h with bufs.s4 := .print 40 s }

/-- `snprintf(dst, sizeof(dst), "%s", src)`. The library terminates the destination
before it reads the source, so copying an array to itself leaves the empty string. -/
def snprintf (h : Hud) (dst : Dst) (src : Arg) : Hud :=
  if src = .var dst.var then { h.put [] dst with overlapped := true }
  else h.put (h.load src) dst

/-- A copy from elsewhere is written whole, up to the size of the buffer. -/
theorem snprintf_of_ne {h : Hud} {dst : Dst} {src : Arg} (other : src ≠ .var dst.var) :
    h.snprintf dst src = h.put (h.load src) dst := if_neg other

/-- Writing one array leaves what the others hold. -/
theorem load_put_of_ne {h : Hud} {s : Text} {dst : Dst} {arg : Arg} (other : arg ≠ .var dst.var) :
    (h.put s dst).load arg = h.load arg := by
  cases arg with
  | var name =>
      have differs : name ≠ dst.var := fun same => other (congrArg Arg.var same)
      cases dst <;> cases name <;> first | rfl | exact absurd rfl differs
  | apSecurity row => cases dst <;> rfl
  | lit text => rfl

/-- A copy leaves what other arguments point to. -/
theorem load_snprintf_of_ne {h : Hud} {dst : Dst} {src arg : Arg} (other : arg ≠ .var dst.var) :
    (h.snprintf dst src).load arg = h.load arg := by
  unfold snprintf
  split
  · exact load_put_of_ne other
  · exact load_put_of_ne other

/-! Copying through a pointer changes the arrays of the join only. -/

section Frame

variable (h : Hud) (dst : Dst) (src : Arg)

@[simp] theorem snprintf_wifi : (h.snprintf dst src).wifi = h.wifi := by
  unfold snprintf
  split <;> cases dst <;> rfl

@[simp] theorem snprintf_scan : (h.snprintf dst src).scan = h.scan := by
  unfold snprintf
  split <;> cases dst <;> rfl

@[simp] theorem snprintf_join : (h.snprintf dst src).join = h.join := by
  unfold snprintf
  split <;> cases dst <;> rfl

@[simp] theorem snprintf_forget : (h.snprintf dst src).forget = h.forget := by
  unfold snprintf
  split <;> cases dst <;> rfl

@[simp] theorem snprintf_job : (h.snprintf dst src).job = h.job := by
  unfold snprintf
  split <;> cases dst <;> rfl

@[simp] theorem snprintf_want : (h.snprintf dst src).want = h.want := by
  unfold snprintf
  split <;> cases dst <;> rfl

@[simp] theorem snprintf_osk : (h.snprintf dst src).osk = h.osk := by
  unfold snprintf
  split <;> cases dst <;> rfl

@[simp] theorem snprintf_ui : (h.snprintf dst src).ui = h.ui := by
  unfold snprintf
  split <;> cases dst <;> rfl

@[simp] theorem snprintf_trace : (h.snprintf dst src).trace = h.trace := by
  unfold snprintf
  split <;> cases dst <;> rfl

end Frame

end Hud

end Ginkgo
