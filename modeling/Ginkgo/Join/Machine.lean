import Ginkgo.Hud.State
import Mathlib.Logic.Relation

/-!
# The join machine

An abstract view of the HUD that keeps what joins depend on and forgets the rest:
reports, drawing, animations and the touch controller are not in it. A
`Ginkgo.JoinState` changes by the moves of `Ginkgo.JoinState.Move`, in any order, and
by opening the password sheet at the end of a connect job (`Ginkgo.JoinState.openPass`).
What opening may do to the name on display is kept apart from the moves, because no
other change lets the sheet and the join disagree.
-/

namespace Ginkgo

open CText

/-- What joins depend on: their flags, names and queue, the job slot, the password, the
selected name, the target sheet and the history. -/
structure JoinState where
  connecting : Bool
  joinWaitLive : Bool
  wantConnect : Bool
  connectSsid : Buf 96
  pendSsid : Buf 96
  pid : Option Nat
  kind : JobKind
  password : Cells 64
  pwLen : Nat
  typed : List (UInt8 × Option Text)
  selectedSsid : Buf 96
  sheetTgt : Sheet
  trace : List Obs
  overlapped : Bool

namespace JoinState

/-- A connect job is in flight. -/
def InFlight (v : JoinState) : Prop := v.pid ≠ none ∧ v.kind = .connect

instance (v : JoinState) : Decidable v.InFlight := inferInstanceAs (Decidable (_ ∧ _))

/-- The name the password sheet shows. -/
def shownName (v : JoinState) : Text :=
  if v.selectedSsid.text ≠ [] then v.selectedSsid.text else v.connectSsid.text

/-- The name the password is for. -/
def passName (v : JoinState) : Text :=
  if v.connectSsid.text ≠ [] then v.connectSsid.text else v.selectedSsid.text

/-- A character is typed; the history notes the name on display, if the sheet is open. -/
def type (v : JoinState) (c : UInt8) : JoinState :=
  { v with
    password := (v.password.store v.pwLen c).store (v.pwLen + 1) 0
    pwLen := v.pwLen + 1
    typed := v.typed ++ [(c, if v.sheetTgt = .pass then some v.shownName else none)] }

/-- The last character is erased. -/
def erase (v : JoinState) : JoinState :=
  { v with
    password := v.password.store (v.pwLen - 1) 0
    pwLen := v.pwLen - 1
    typed := v.typed.dropLast }

/-- A child is started, or its start fails. -/
def start (v : JoinState) (kind : JobKind) (argv : List Text) : Option Nat → JoinState
  | some pid =>
      { v with pid := some pid, kind := kind, trace := .start kind argv true :: v.trace }
  | none => { v with trace := .start kind argv false :: v.trace }

/-- A call of `wifi_connect` that gets as far as the script. An argument that is the
array `connect_ssid` itself is lost on the way. -/
def connect (v : JoinState) (call : ConnectCall) (argv : List Text) (child : Option Nat) :
    JoinState :=
  { v with
    connecting := true
    joinWaitLive := false
    connectSsid := if call.ssid = Arg.var .connectSsid then .empty 96 else .print 96 call.ssidText
    pid := none
    overlapped := v.overlapped || call.ssid = Arg.var .connectSsid
    trace := .connect call :: v.trace }.start .connect argv child

/-- The call's arguments: the name is one of the arrays, the password and the security
reach the script as they are, and the name does unless it is `connect_ssid`. -/
structure Passes (call : ConnectCall) (array : Var) (name : Text) : Prop where
  ssid : call.ssid = .var array
  ssidText : call.ssidText = name
  nonempty : name ≠ []
  outcome : call.outcome =
    .argv (if array = .connectSsid then [] else name) call.passText call.secText

/-- The end of a connect job opens the password sheet for a selected name. -/
def openPass (v : JoinState) (shown : Buf 96) : JoinState :=
  { v with pid := none, connecting := false, selectedSsid := shown, sheetTgt := .pass }

/-- A name the password sheet may be opened for: the selected one or a joined one. -/
def Offers (v : JoinState) (shown : Buf 96) : Prop :=
  shown = v.selectedSsid ∨ shown = v.connectSsid ∧ v.connectSsid.text ≠ []

/-- **The moves of the join machine**: the user's, the queue's, the reports' and those
ends of a connect job that do not open the password sheet. -/
inductive Move : JoinState → JoinState → Prop
  | tapped (v : JoinState) (x y : Int) : Move v { v with trace := .tap x y :: v.trace }
  | typed (v : JoinState) (c : UInt8) (nonzero : c ≠ 0) (room : v.pwLen < 63) : Move v (v.type c)
  | erased (v : JoinState) (filled : 0 < v.pwLen) : Move v v.erase
  | left (v : JoinState) (sheet : Sheet) (other : sheet ≠ .pass) :
      Move v { v with sheetTgt := sheet }
  | selected (v : JoinState) (name : Buf 96) (nonempty : name.text ≠ [])
      (elsewhere : v.sheetTgt ≠ .pass) : Move v { v with selectedSsid := name }
  | queued (v : JoinState) (name : Buf 96) (nonempty : name.text ≠ [])
      (asked : name.text = v.passName) (busy : v.connecting = true) :
      Move v { v with pendSsid := name, wantConnect := true }
  | started (v : JoinState) (kind : JobKind) (argv : List Text) (child : Option Nat)
      (other : kind ≠ .connect) (free : child ≠ none → v.pid = none) : Move v (v.start kind argv child)
  | joined (v : JoinState) (call : ConnectCall) (argv : List Text) (child : Option Nat)
      (passes : Passes call .selectedSsid v.selectedSsid.text ∨
        Passes call .connectSsid v.connectSsid.text)
      (idle : v.connecting = false) (free : ¬v.InFlight) : Move v (v.connect call argv child)
  | kicked (v : JoinState) (call : ConnectCall) (argv : List Text) (child : Option Nat)
      (passes : Passes call .pendSsid v.pendSsid.text) (wants : v.wantConnect = true)
      (free : v.pid = none) : Move v ({ v with wantConnect := false }.connect call argv child)
  | dropped (v : JoinState) (empty : v.pendSsid.text = []) (wants : v.wantConnect = true)
      (free : v.pid = none) : Move v { v with wantConnect := false }
  | forgot (v : JoinState) (argv : List Text) (child : Option Nat) :
      Move v ({ v with
        joinWaitLive := false
        connecting := false
        wantConnect := false
        pid := none }.start .forget argv child)
  | confirmed (v : JoinState) (waits : v.joinWaitLive = true) :
      Move v { v with joinWaitLive := false, connecting := false }
  | ended (v : JoinState) (other : v.kind ≠ .connect) : Move v { v with pid := none }
  | succeeded (v : JoinState) (want : Bool) (sheet : Sheet) (running : v.InFlight)
      (kept : want = true → v.wantConnect = true) (other : sheet ≠ .pass) :
      Move v { v with
        pid := none
        connecting := true
        joinWaitLive := true
        wantConnect := want
        sheetTgt := sheet }
  | retried (v : JoinState) (want : Bool) (call : ConnectCall) (argv : List Text)
      (child : Option Nat) (running : v.InFlight) (kept : want = true → v.wantConnect = true)
      (passes : Passes call .connectSsid v.connectSsid.text) :
      Move v ({ v with wantConnect := want }.connect call argv child)
  | waited (v : JoinState) (running : v.InFlight) (wants : v.wantConnect = true)
      (nonempty : v.pendSsid.text ≠ []) : Move v { v with pid := none, connecting := false }
  | failed (v : JoinState) (sheet : Sheet) (running : v.InFlight) (other : sheet ≠ .pass) :
      Move v { v with pid := none, connecting := false, sheetTgt := sheet }

/-- Any number of moves. -/
abbrev Moves : JoinState → JoinState → Prop := Relation.ReflTransGen Move

/-! ## What every move keeps -/

/-- **The password is what was typed, and a connect job keeps the HUD busy.** -/
structure Sound (v : JoinState) : Prop where
  password : v.password.text = v.typed.map Prod.fst
  pwLen : v.pwLen = v.typed.length
  room : v.pwLen < 64
  busy : v.InFlight → v.connecting = true ∧ v.joinWaitLive = false

variable {v v' : JoinState}

/-- The password is as long as is counted. -/
theorem Sound.textLength (sound : v.Sound) : v.password.text.length = v.pwLen := by
  rw [sound.password, sound.pwLen, List.length_map]

/-- A character that is typed where there is room keeps the state sound. -/
theorem Sound.type (sound : v.Sound) {c : UInt8} (nonzero : c ≠ 0) (room : v.pwLen < 63) :
    (v.type c).Sound where
  password := by
    have appended := Cells.store_append_text (a := v.password) nonzero
      (by rw [sound.textLength]; omega)
    rw [sound.textLength] at appended
    change ((v.password.store v.pwLen c).store (v.pwLen + 1) 0).text = _
    rw [appended, sound.password]
    simp [JoinState.type]
  pwLen := by simp [JoinState.type, sound.pwLen]
  room := by simp only [JoinState.type]; omega
  busy := sound.busy

/-- One that is erased does too. -/
theorem Sound.erase (sound : v.Sound) (filled : 0 < v.pwLen) : v.erase.Sound where
  password := by
    have room := sound.room
    have length := sound.textLength
    change (v.password.store (v.pwLen - 1) 0).text = v.typed.dropLast.map Prod.fst
    rw [Cells.store_zero_text (by omega) (by omega), sound.password, sound.pwLen,
      List.map_dropLast, List.dropLast_eq_take, List.length_map]
  pwLen := by simp [JoinState.erase, sound.pwLen]
  room := by
    have room := sound.room
    simp only [JoinState.erase]
    omega
  busy := sound.busy

/-- Starting a child other than a connect job, or failing to. -/
theorem Sound.start (sound : v.Sound) {kind : JobKind} {argv : List Text} {child : Option Nat}
    (other : kind ≠ .connect) : (v.start kind argv child).Sound := by
  cases child with
  | none => exact ⟨sound.password, sound.pwLen, sound.room, sound.busy⟩
  | some pid =>
      refine ⟨sound.password, sound.pwLen, sound.room, fun running => ?_⟩
      exact absurd running.2 other

theorem Sound.connect (sound : v.Sound) (call : ConnectCall) (argv : List Text)
    (child : Option Nat) : (v.connect call argv child).Sound := by
  cases child <;> exact ⟨sound.password, sound.pwLen, sound.room, fun _ => ⟨rfl, rfl⟩⟩

/-- A change of the flags and the queue that leaves the password alone. -/
theorem Sound.flags (sound : v.Sound) (password : v'.password = v.password)
    (pwLen : v'.pwLen = v.pwLen) (typed : v'.typed = v.typed)
    (busy : v'.InFlight → v'.connecting = true ∧ v'.joinWaitLive = false) : v'.Sound where
  password := by rw [password, typed, sound.password]
  pwLen := by rw [pwLen, typed, sound.pwLen]
  room := by rw [pwLen]; exact sound.room
  busy := busy

theorem Sound.openPass (sound : v.Sound) (shown : Buf 96) : (v.openPass shown).Sound :=
  sound.flags rfl rfl rfl fun running => absurd rfl running.1

/-- **Every move keeps the state sound.** -/
theorem Move.sound (move : Move v v') (sound : v.Sound) : v'.Sound := by
  cases move with
  | tapped x y => exact sound.flags rfl rfl rfl sound.busy
  | typed c nonzero room => exact sound.type nonzero room
  | erased filled => exact sound.erase filled
  | left sheet other => exact sound.flags rfl rfl rfl sound.busy
  | selected name nonempty elsewhere => exact sound.flags rfl rfl rfl sound.busy
  | queued name nonempty asked busy => exact sound.flags rfl rfl rfl sound.busy
  | started kind argv child other free => exact sound.start other
  | joined call argv child passes idle free => exact sound.connect call argv child
  | kicked call argv child passes wants free =>
      refine Sound.connect ?_ call argv child
      exact sound.flags rfl rfl rfl sound.busy
  | dropped empty wants free => exact sound.flags rfl rfl rfl sound.busy
  | forgot argv child =>
      have other : JobKind.forget ≠ .connect := by decide
      refine Sound.start ?_ other
      exact sound.flags rfl rfl rfl fun running => absurd rfl running.1
  | confirmed waits =>
      refine sound.flags rfl rfl rfl fun running => ?_
      have idle := (sound.busy running).2
      rw [waits] at idle
      cases idle
  | ended other => exact sound.flags rfl rfl rfl fun running => absurd rfl running.1
  | succeeded want sheet running kept other =>
      exact sound.flags rfl rfl rfl fun running => absurd rfl running.1
  | retried want call argv child running kept passes =>
      refine Sound.connect ?_ call argv child
      exact sound.flags rfl rfl rfl sound.busy
  | waited running wants nonempty =>
      exact sound.flags rfl rfl rfl fun running => absurd rfl running.1
  | failed sheet running other =>
      exact sound.flags rfl rfl rfl fun running => absurd rfl running.1

/-- What every move keeps, any number of moves keep. -/
theorem Moves.keep {predicate : JoinState → Prop}
    (keeps : ∀ v v', Move v v' → predicate v → predicate v') (moves : Moves v v')
    (initial : predicate v) : predicate v' := by
  induction moves with
  | refl => exact initial
  | tail _ move ih => exact keeps _ _ move ih

end JoinState

/-- The join state of the HUD. -/
def Hud.joinState (h : Hud) : JoinState where
  connecting := h.join.connecting
  joinWaitLive := h.join.joinWaitLive
  wantConnect := h.join.wantConnect
  connectSsid := h.bufs.connectSsid
  pendSsid := h.bufs.pendSsid
  pid := h.job.pid
  kind := h.job.kind
  password := h.osk.password
  pwLen := h.osk.pwLen
  typed := h.osk.typed
  selectedSsid := h.scan.selectedSsid
  sheetTgt := h.ui.sheetTgt
  trace := h.trace
  overlapped := h.overlapped

end Ginkgo
