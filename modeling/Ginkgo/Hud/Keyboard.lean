import Ginkgo.Hud.Connect

/-!
# The on-screen keyboard

The keys are laid out anew before every lookup. A press picks a key, a move may
change the picked key and the release activates one. Only the press looks at the
sheet that is open.
-/

namespace Ginkgo

open CText

/-- A C comparison `rx <= x < rx + rw`, `ry <= y < ry + rh`. -/
def hit (x y rx ry rw rh : Int) : Bool := rx ≤ x ∧ ry ≤ y ∧ x < rx + rw ∧ y < ry + rh

/-- `OSK_MAX` -/
def oskMax : Nat := 48

/-- `osk_kh` -/
def oskKh : Int := 86

/-- `osk_gap` -/
def oskGap : Int := 10

/-- A number that is cut to a `short`. -/
def toShort (v : Int) : Int := v.bmod (2 ^ 16)

namespace Hud

/-- The name `draw_pass_sheet` shows. -/
def passSheetName (h : Hud) : Text :=
  if h.scan.selectedSsid.text ≠ [] then h.scan.selectedSsid.text else h.bufs.connectSsid.text

/-- `osk_top` -/
def oskTop (h : Hud) : Int := h.ui.H - 4 * (oskKh + oskGap) - 18

end Hud

/-- `osk_add` -/
def oskAdd (kind : OskKind) (ch : UInt8) (x y w h : Int) (keys : List OskKey) : List OskKey :=
  if oskMax ≤ keys.length ∨ w < 8 ∨ h < 8 then keys
  else keys ++ [{ ch, kind, x := toShort x, y := toShort y, w := toShort w, h := toShort h }]

/-- Character keys of one width, a gap apart. -/
def oskAddChars (kw y : Int) : Int → Text → List OskKey → List OskKey
  | _, [], keys => keys
  | x, c :: rest, keys =>
      oskAddChars kw y (x + kw + oskGap) rest (oskAdd .char c x y kw oskKh keys)

/-- `osk_add_row` -/
def oskAddRow (W : Int) (s : Text) (y inset : Int) (keys : List OskKey) : List OskKey :=
  if s = [] then keys
  else
    let n : Int := s.length
    let inner := W - 10 * 2 - inset * 2
    let kw := (inner - (n - 1) * oskGap).tdiv n
    let kw := if kw < 48 then 48 else kw
    let extra := inner - n * kw - (n - 1) * oskGap
    oskAddChars kw y (10 + inset + extra.tdiv 2) s keys

/-- The two long rows of the current mode, and its third row: letters, or punctuation
next to the key for the other symbols. -/
def oskRows (osk : Osk) : Text × Text × Option Text × Text :=
  if osk.symOn then
    if osk.oskSym2 then (txt "[]\x7b\x7d#%^*+=", txt "_\\|~<>$&@*", none, txt ".,?!'")
    else (txt "1234567890", txt "-/:;()$&@\"", none, txt ".,?!'<>")
  else if osk.shiftOn then (txt "QWERTYUIOP", txt "ASDFGHJKL", some (txt "ZXCVBNM"), [])
  else (txt "qwertyuiop", txt "asdfghjkl", some (txt "zxcvbnm"), [])

namespace Hud

/-- The keys of the current mode, row by row. -/
def oskLayout (h : Hud) : List OskKey :=
  let W := h.ui.W
  let (r0, r1, r2, punct) := oskRows h.osk
  let side : Int := 10
  let y := h.oskTop
  let keys := oskAddRow W r0 y 0 []
  let kw10 := (W - side * 2 - 9 * oskGap).tdiv 10
  let inset := (kw10 + oskGap).tdiv 2
  let y := y + oskKh + oskGap
  let keys := oskAddRow W r1 y (if r2 ≠ none ∧ r1.length = 9 then inset else 0) keys
  let y := y + oskKh + oskGap
  let inner := W - side * 2
  let spec : Int := 132
  let bk : Int := 132
  let third := r2.getD punct
  let n : Int := third.length
  let rest := inner - spec - bk - 2 * oskGap
  let kw := (rest - (n - 1) * oskGap).tdiv n
  let keys := oskAdd (if r2 ≠ none then .shift else .more) 0 side y spec oskKh keys
  let keys := oskAddChars kw y (side + spec + oskGap) third keys
  let keys := oskAdd .bksp 0 (side + inner - bk) y bk oskKh keys
  let y := y + oskKh + oskGap
  let spec : Int := 156
  let bk : Int := 176
  let rest := inner - spec - bk - 2 * oskGap
  let keys := oskAdd .sym 0 side y spec oskKh keys
  let keys := oskAdd .space 32 (side + spec + oskGap) y rest oskKh keys
  oskAdd .go 0 (side + spec + oskGap + rest + oskGap) y bk oskKh keys

end Hud

/-- The key whose middle is nearest among those whose padded rectangle is hit: the keys
after `i` against the best so far and its distance. -/
def oskNearest (x y : Int) : List OskKey → Nat → Option Nat → Int → Option Nat
  | [], _, best, _ => best
  | k :: rest, i, best, bd =>
      let pad := oskGap.tdiv 2 + 2
      if hit x y (k.x - pad) (k.y - pad) (k.w + pad * 2) (k.h + pad * 2) = false then
        oskNearest x y rest (i + 1) best bd
      else
        let dx := x - (k.x + k.w.tdiv 2)
        let dy := y - (k.y + k.h.tdiv 2)
        let d := dx * dx + dy * dy
        if d < bd then oskNearest x y rest (i + 1) (some i) d
        else oskNearest x y rest (i + 1) best bd

namespace Hud

/-- Lay the keys out; the array keeps old entries past the new number of keys. -/
def layoutKeys (h : Hud) : Hud :=
  let keys := h.oskLayout
  { h with osk.keys := keys ++ h.osk.keys.drop keys.length, osk.nosk := keys.length }

/-- `osk_key_at` -/
def oskKeyAt (x y : Int) (h : Hud) : Option Nat :=
  oskNearest x y (h.osk.keys.take h.osk.nosk) 0 none (2 ^ 30)

/-- `osk_feed("bk")`. -/
def oskErase (h : Hud) : Hud :=
  if 0 < h.osk.pwLen then
    { h with
      osk.pwLen := h.osk.pwLen - 1
      osk.password := h.osk.password.store (h.osk.pwLen - 1) 0
      osk.typed := h.osk.typed.dropLast }
  else h

/-- `osk_feed` of a character. -/
def oskFeed (c : UInt8) (h : Hud) : Hud :=
  if pwMax - 1 ≤ h.osk.pwLen then h
  else
    { h with
      osk.password := (h.osk.password.store h.osk.pwLen c).store (h.osk.pwLen + 1) 0
      osk.pwLen := h.osk.pwLen + 1
      osk.typed := h.osk.typed ++
        [(c, if h.ui.sheetTgt = .pass then some h.passSheetName else none)] }

/-- `osk_activate` -/
def oskActivate (k : OskKey) (sys : Sys) (h : Hud) : Hud :=
  match k.kind with
  | .char =>
      let h := h.oskFeed k.ch
      if h.osk.shiftOn ∧ h.osk.symOn = false then { h with osk.shiftOn := false } else h
  | .shift => { h with osk.shiftOn := !h.osk.shiftOn }
  | .sym =>
      { h with
        osk.symOn := !h.osk.symOn
        osk.oskSym2 := false
        osk.shiftOn := if h.osk.symOn then h.osk.shiftOn else false }
  | .more => { h with osk.oskSym2 := !h.osk.oskSym2 }
  | .space => h.oskFeed 32
  | .bksp => h.oskErase
  | .go => h.wifiSubmitPass sys

/-- A press; whether it is the keyboard's. -/
def oskOnDown (x y : Int) (h : Hud) : Hud × Bool :=
  if h.ui.sheetTgt ≠ .pass ∨ h.ui.sheetT < 45 / 100 then (h, false)
  else
    let h := h.layoutKeys
    if y < h.oskTop - 12 then (h, false)
    else ({ h with osk.held := true, osk.hi := h.oskKeyAt x y }, true)

/-- `osk_on_move` -/
def oskOnMove (x y : Int) (h : Hud) : Hud :=
  if h.osk.held = false then h
  else
    let h := h.layoutKeys
    { h with osk.hi := h.oskKeyAt x y }

/-- A release; whether it was the keyboard's. -/
def oskOnUp (x y : Int) (sys : Sys) (h : Hud) : Hud × Bool :=
  if h.osk.held = false then (h, false)
  else
    let h := h.layoutKeys
    let h := match (h.oskKeyAt x y <|> h.osk.hi).bind fun i => h.osk.keys[i]? with
      | some k => h.oskActivate k sys
      | none => h
    ({ h with osk.held := false, osk.hi := none }, true)

end Hud

end Ginkgo
