import Ginkgo.Flow.Connects
import Ginkgo.Transition.Run

/-!
# Typing a password

The on-screen keyboard has four pages: small letters, capitals and two of symbols. A key that
is not a character's switches between them, and a capital switches back by itself. Every page
can be reached from every other (`Ginkgo.Hud.reaches_page`), so a password can be typed if each
of its characters is on some page, and it reaches the join as it was typed
(`Ginkgo.Hud.typed_iff`).

The grave accent is on no page. On a screen that is too narrow for some keys
(`Ginkgo.Typeable`) their characters cannot be typed either.
-/

namespace Ginkgo

open CText Transition

/-! ## What is on the keys -/

/-- The kinds and characters of the keys. -/
def faces (keys : List OskKey) : List (OskKind × UInt8) := keys.map fun k => (k.kind, k.ch)

/-- Every key has a face. -/
theorem faces_length (keys : List OskKey) : (faces keys).length = keys.length := List.length_map _

/-- What it means that a face is among those of the keys. -/
theorem mem_faces {keys : List OskKey} {kind : OskKind} {c : UInt8} :
    (kind, c) ∈ faces keys ↔ ∃ k ∈ keys, k.kind = kind ∧ k.ch = c := by
  simp [faces]

/-- `osk_add` adds one key at most. -/
theorem oskAdd_length (kind : OskKind) (ch : UInt8) (x y w k : Int) (keys : List OskKey) :
    (oskAdd kind ch x y w k keys).length ≤ keys.length + 1 := by
  unfold oskAdd
  split <;> simp

/-- A key is added when there is room for it and it is neither too narrow nor too low. -/
theorem faces_oskAdd (kind : OskKind) (ch : UInt8) (x y w k : Int) {keys : List OskKey}
    (room : keys.length < oskMax) (high : 8 ≤ k) :
    faces (oskAdd kind ch x y w k keys) = faces keys ++ if 8 ≤ w then [(kind, ch)] else [] := by
  unfold oskAdd
  by_cases wide : 8 ≤ w
  · rw [if_neg (by omega), if_pos wide]
    exact List.map_append
  · rw [if_pos (by omega), if_neg wide, List.append_nil]

/-- The characters of a row are added one after the other. -/
theorem faces_oskAddChars (kw y x : Int) {s : Text} {keys : List OskKey}
    (room : keys.length + s.length ≤ oskMax) :
    faces (oskAddChars kw y x s keys) =
      faces keys ++ if 8 ≤ kw then s.map (OskKind.char, ·) else [] := by
  induction s generalizing x keys with
  | nil => simp [oskAddChars]
  | cons c rest ih =>
      rw [List.length_cons] at room
      have more := oskAdd_length .char c x y kw oskKh keys
      rw [oskAddChars, ih _ (by omega), faces_oskAdd _ _ _ _ _ _ (by omega) (by decide)]
      split <;> simp

/-- A row of characters is laid out whole. -/
theorem faces_oskAddRow (W y inset : Int) {s : Text} {keys : List OskKey}
    (room : keys.length + s.length ≤ oskMax) :
    faces (oskAddRow W s y inset keys) = faces keys ++ s.map (OskKind.char, ·) := by
  unfold oskAddRow
  simp only
  split
  · next empty => simp [empty]
  · rw [faces_oskAddChars _ _ _ room, if_pos]
    split <;> omega

/-- So many keys are laid out at most as have a face. -/
theorem length_le_of_faces {keys : List OskKey} {faced : List (OskKind × UInt8)}
    (same : faces keys = faced) {bound : Nat} (few : faced.length ≤ bound) :
    keys.length ≤ bound := by
  rwa [← faces_length, same]

/-- The pages of the keyboard. -/
inductive Page where
  | small
  | capital
  | symbols
  | more
  deriving DecidableEq

/-- The page that the three flags select. -/
def Osk.page (osk : Osk) : Page :=
  if osk.symOn then if osk.oskSym2 then .more else .symbols
  else if osk.shiftOn then .capital else .small

namespace Page

/-- The characters of a page, row by row, as `osk_rows` has them. -/
def rows : Page → Text × Text × Option Text × Text
  | .small => (txt "qwertyuiop", txt "asdfghjkl", some (txt "zxcvbnm"), [])
  | .capital => (txt "QWERTYUIOP", txt "ASDFGHJKL", some (txt "ZXCVBNM"), [])
  | .symbols => (txt "1234567890", txt "-/:;()$&@\"", none, txt ".,?!'<>")
  | .more => (txt "[]\x7b\x7d#%^*+=", txt "_\\|~<>$&@*", none, txt ".,?!'")

/-- The characters in the two long rows. -/
def long (page : Page) : Text := page.rows.1 ++ page.rows.2.1

/-- The characters in the third row, which is shorter. -/
def third (page : Page) : Text := page.rows.2.2.1.getD page.rows.2.2.2

/-- The key at the start of the third row. -/
def switch (page : Page) : OskKind := if page.rows.2.2.1 ≠ none then .shift else .more

/-- How wide the screen must be for the characters of the third row. -/
def width : Page → Int
  | .more => 384
  | _ => 420

/-- How long the rows of a page are at most. -/
theorem rows_length (page : Page) : page.rows.1.length ≤ 10 ∧ page.rows.2.1.length ≤ 10 ∧
    page.third.length ≤ 7 := by
  cases page <;> decide

end Page

/-- `osk_rows` gives the rows of the page that is selected. -/
theorem oskRows_page (osk : Osk) : oskRows osk = osk.page.rows := by
  unfold oskRows Osk.page
  split_ifs <;> rfl

/-- A quotient that is cut off toward zero reaches a positive bound when the dividend does. -/
theorem le_tdiv_iff {a n k : Int} (positive : 0 < n) (least : 0 < k) :
    k ≤ a.tdiv n ↔ k * n ≤ a := by
  rcases le_or_gt 0 a with nonneg | negative
  · rw [Int.tdiv_eq_ediv_of_nonneg nonneg, Int.le_ediv_iff_mul_le positive]
  · have low : a.tdiv n ≤ 0 := by
      rw [← neg_neg a, Int.neg_tdiv]
      have := Int.tdiv_nonneg (a := -a) (b := n) (by omega) positive.le
      omega
    have product : 0 < k * n := Int.mul_pos least positive
    omega

/-- The rows of the layout, wherever they stand. -/
theorem faces_rows {W y0 y1 inset x2 y2 x3 kw x4 x5 y5 x6 wide x7 : Int} {kind : OskKind}
    {r0 r1 third : Text} (first : r0.length ≤ 10) (second : r1.length ≤ 10)
    (last : third.length ≤ 7) :
    faces (oskAdd .go 0 x7 y5 176 oskKh (oskAdd .space 32 x6 y5 wide oskKh
      (oskAdd .sym 0 x5 y5 156 oskKh (oskAdd .bksp 0 x4 y2 132 oskKh
        (oskAddChars kw y2 x3 third (oskAdd kind 0 x2 y2 132 oskKh
          (oskAddRow W r1 y1 inset (oskAddRow W r0 y0 0 [])))))))) =
      (r0 ++ r1).map (OskKind.char, ·) ++ [(kind, 0)] ++
        (if 8 ≤ kw then third.map (OskKind.char, ·) else []) ++ [(.bksp, 0), (.sym, 0)] ++
        (if 8 ≤ wide then [(.space, 32)] else []) ++ [(.go, 0)] := by
  have row0 : faces (oskAddRow W r0 y0 0 []) = r0.map (OskKind.char, ·) :=
    faces_oskAddRow W y0 0 (by simp [oskMax]; omega)
  have few0 : (oskAddRow W r0 y0 0 []).length ≤ 10 := length_le_of_faces row0 (by simpa)
  generalize oskAddRow W r0 y0 0 [] = keys0 at row0 few0 ⊢
  have row1 := @faces_oskAddRow W y1 inset r1 keys0 (by simp [oskMax]; omega)
  have few1 : (oskAddRow W r1 y1 inset keys0).length ≤ 20 :=
    length_le_of_faces row1 (by simp [row0]; omega)
  generalize oskAddRow W r1 y1 inset keys0 = keys1 at row1 few1 ⊢
  have key2 := @faces_oskAdd kind 0 x2 y2 132 oskKh keys1 (by simp [oskMax]; omega) (by decide)
  have few2 := oskAdd_length kind 0 x2 y2 132 oskKh keys1
  generalize oskAdd kind 0 x2 y2 132 oskKh keys1 = keys2 at key2 few2 ⊢
  have row2 := @faces_oskAddChars kw y2 x3 third keys2 (by simp [oskMax]; omega)
  have few3 : (oskAddChars kw y2 x3 third keys2).length ≤ 28 := by
    apply length_le_of_faces row2
    rw [List.length_append, faces_length]
    split
    · rw [List.length_map]
      omega
    · rw [List.length_nil]
      omega
  generalize oskAddChars kw y2 x3 third keys2 = keys3 at row2 few3 ⊢
  have key4 := @faces_oskAdd .bksp 0 x4 y2 132 oskKh keys3 (by simp [oskMax]; omega) (by decide)
  have few4 := oskAdd_length .bksp 0 x4 y2 132 oskKh keys3
  generalize oskAdd .bksp 0 x4 y2 132 oskKh keys3 = keys4 at key4 few4 ⊢
  have key5 := @faces_oskAdd .sym 0 x5 y5 156 oskKh keys4 (by simp [oskMax]; omega) (by decide)
  have few5 := oskAdd_length .sym 0 x5 y5 156 oskKh keys4
  generalize oskAdd .sym 0 x5 y5 156 oskKh keys4 = keys5 at key5 few5 ⊢
  have key6 := @faces_oskAdd .space 32 x6 y5 wide oskKh keys5 (by simp [oskMax]; omega)
    (by decide)
  have few6 := oskAdd_length .space 32 x6 y5 wide oskKh keys5
  generalize oskAdd .space 32 x6 y5 wide oskKh keys5 = keys6 at key6 few6 ⊢
  rw [@faces_oskAdd .go 0 x7 y5 176 oskKh keys6 (by simp [oskMax]; omega) (by decide), key6, key5,
    key4, row2, key2, row1, row0]
  simp

/-- The third row fits. -/
theorem Page.fits_iff (page : Page) (W : Int) :
    8 ≤ (W - 10 * 2 - 132 - 132 - 2 * oskGap - ((page.third.length : Int) - 1) * oskGap).tdiv
      (page.third.length : Int) ↔ page.width ≤ W := by
  have count : page.third.length = if page = .more then 5 else 7 := by cases page <;> decide
  rw [count, le_tdiv_iff (by split <;> decide) (by decide), oskGap]
  cases page <;> simp only [width, reduceCtorEq, if_true, if_false] <;> omega

/-- **The keys of a page.** -/
theorem faces_oskLayout (h : Hud) : faces h.oskLayout =
    h.osk.page.long.map (OskKind.char, ·) ++ [(h.osk.page.switch, 0)] ++
      (if h.osk.page.width ≤ h.ui.W then h.osk.page.third.map (OskKind.char, ·) else []) ++
      [(.bksp, 0), (.sym, 0)] ++ (if 380 ≤ h.ui.W then [(.space, 32)] else []) ++ [(.go, 0)] := by
  have space : (8 ≤ h.ui.W - 10 * 2 - 156 - 176 - 2 * oskGap) = (380 ≤ h.ui.W) := by
    rw [eq_iff_iff, oskGap]
    omega
  have fits := h.osk.page.fits_iff h.ui.W
  obtain ⟨first, second, last⟩ := h.osk.page.rows_length
  unfold Hud.oskLayout
  rw [oskRows_page]
  unfold Page.long Page.switch Page.third at *
  generalize h.osk.page.rows = rows at first second last fits ⊢
  obtain ⟨r0, r1, r2, punct⟩ := rows
  apply (faces_rows first second last).trans
  simp only [space, fits]

/-- A character that some page has, on a screen of this width. -/
def Shown (W : Int) (page : Page) (c : UInt8) : Prop :=
  c ∈ page.long ∨ page.width ≤ W ∧ c ∈ page.third

/-- The characters among the faces are those that the page shows. -/
theorem char_mem_faces {h : Hud} {c : UInt8} :
    (OskKind.char, c) ∈ faces h.oskLayout ↔ Shown h.ui.W h.osk.page c := by
  have switch : h.osk.page.switch ≠ .char := by
    cases h.osk.page <;> decide
  rw [faces_oskLayout]
  unfold Shown
  by_cases fits : h.osk.page.width ≤ h.ui.W
  · by_cases wide : 380 ≤ h.ui.W <;> simp [fits, wide, Ne.symm switch]
  · by_cases wide : 380 ≤ h.ui.W <;> simp [fits, wide, Ne.symm switch]

/-- The key at the start of the third row is always there. -/
theorem switch_mem_faces (h : Hud) : (h.osk.page.switch, 0) ∈ faces h.oskLayout := by
  rw [faces_oskLayout]
  simp

/-- So is the key for the symbols. -/
theorem sym_mem_faces (h : Hud) : (OskKind.sym, 0) ∈ faces h.oskLayout := by
  rw [faces_oskLayout]
  simp

theorem go_mem_faces (h : Hud) : (OskKind.go, 0) ∈ faces h.oskLayout := by
  rw [faces_oskLayout]
  simp

/-- The space bar is there when the screen is wide enough. -/
theorem space_mem_faces {h : Hud} :
    (∃ c, (OskKind.space, c) ∈ faces h.oskLayout) ↔ 380 ≤ h.ui.W := by
  have switch : h.osk.page.switch ≠ .space := by
    cases h.osk.page <;> decide
  rw [faces_oskLayout]
  by_cases fits : h.osk.page.width ≤ h.ui.W
  · by_cases wide : 380 ≤ h.ui.W <;> simp [fits, wide, Ne.symm switch]
  · by_cases wide : 380 ≤ h.ui.W <;> simp [fits, wide, Ne.symm switch]

/-- The character is on a key of some page, on a screen of this width. -/
def OnKeys (W : Int) (c : UInt8) : Prop := (∃ page, Shown W page c) ∨ 380 ≤ W ∧ c = 32

/-! ## Pressing the keys -/

/-- A press of a key. What the system answers matters only when a join is started. -/
structure Press where
  key : OskKey
  sys : Sys

/-- The key enters the character. -/
def OskKey.Enters (key : OskKey) (c : UInt8) : Prop :=
  key.kind = .char ∧ key.ch = c ∨ key.kind = .space ∧ c = 32

namespace Hud

variable {h g : Hud} {p : Text} {c : UInt8}

/-- What a press does. -/
def press (h : Hud) (press : Press) : Hud := h.oskActivate press.key press.sys

/-- The key is on the page that is shown. -/
def Offered (h : Hud) (press : Press) : Prop := press.key ∈ h.oskLayout

/-- Some presses of offered keys lead from one state to the other. -/
abbrev Presses : Hud → Hud → Prop := Reaches press Offered

/-- A key that is shown can be pressed. -/
theorem presses_face {kind : OskKind} (shown : (kind, c) ∈ faces h.oskLayout)
    (does : ∀ key : OskKey, key.kind = kind → key.ch = c → ∀ sys, h.oskActivate key sys = g) :
    Presses h g := by
  obtain ⟨key, member, isKind, isChar⟩ := mem_faces.mp shown
  have pressed : Presses h (h.press ⟨key, { spawn := .noPipe }⟩) := .single member
  rwa [press, does key isKind isChar] at pressed

/-! ### Between the pages -/

/-- The state with another page shown. -/
def turn (h : Hud) (shift sym more : Bool) : Hud :=
  { h with osk.shiftOn := shift, osk.symOn := sym, osk.oskSym2 := more }

/-- The key for the symbols turns to the other half of the pages. -/
theorem presses_sym (h : Hud) :
    Presses h (h.turn (if h.osk.symOn then h.osk.shiftOn else false) (!h.osk.symOn) false) := by
  refine presses_face (sym_mem_faces h) fun key isSym _ sys => ?_
  rw [oskActivate, isSym]
  rfl

/-- The key at the start of the third row changes the letters' case or the symbols. -/
theorem presses_switch (h : Hud) :
    Presses h (if h.osk.symOn then h.turn h.osk.shiftOn h.osk.symOn (!h.osk.oskSym2)
      else h.turn (!h.osk.shiftOn) h.osk.symOn h.osk.oskSym2) := by
  refine presses_face (switch_mem_faces h) fun key isSwitch _ sys => ?_
  by_cases symbols : h.osk.symOn
  · have more : key.kind = .more := by
      rw [isSwitch, Osk.page, if_pos symbols]
      split <;> rfl
    rw [if_pos symbols, oskActivate, more]
    rfl
  · have shift : key.kind = .shift := by
      rw [isSwitch, Osk.page, if_neg symbols]
      split <;> rfl
    rw [if_neg symbols, oskActivate, shift]
    rfl

/-- From every page there is a way to the letters. -/
theorem reaches_letters (h : Hud) : ∃ shift more, Presses h (h.turn shift false more) := by
  by_cases symbols : h.osk.symOn
  · refine ⟨h.osk.shiftOn, false, ?_⟩
    simpa [symbols] using h.presses_sym
  · refine ⟨h.osk.shiftOn, h.osk.oskSym2, ?_⟩
    rw [turn, ← Bool.eq_false_iff.mpr symbols]
    exact .refl h

/-- **Every page can be reached, and nothing but the page changes.** -/
theorem reaches_page (h : Hud) (page : Page) : ∃ shift sym more,
    Presses h (h.turn shift sym more) ∧ (h.turn shift sym more).osk.page = page := by
  obtain ⟨shift, more, letters⟩ := h.reaches_letters
  have shifted : Presses h (h.turn (!shift) false more) := letters.trans (presses_switch _)
  have symbols : Presses h (h.turn false true false) := letters.trans (presses_sym _)
  cases page with
  | small =>
      cases shift with
      | false => exact ⟨_, _, _, letters, rfl⟩
      | true => exact ⟨_, _, _, shifted, rfl⟩
  | capital =>
      cases shift with
      | false => exact ⟨_, _, _, shifted, rfl⟩
      | true => exact ⟨_, _, _, letters, rfl⟩
  | symbols => exact ⟨_, _, _, symbols, rfl⟩
  | more => exact ⟨_, _, _, symbols.trans (presses_switch _), rfl⟩

/-! ### The password -/

/-- The password, its length and the width of the screen. -/
def line (h : Hud) : Cells 64 × Nat × Int := (h.osk.password, h.osk.pwLen, h.ui.W)

/-- Writing a buffer of a call leaves the password line. -/
theorem snprintf_line (h : Hud) (dst : Dst) (src : Arg) : (h.snprintf dst src).line = h.line := by
  rw [line, snprintf_osk, snprintf_ui, line]

/-- Starting a child leaves it. -/
theorem startNmcli_line (h : Hud) (kind : JobKind) (argv : List Text) (spawn : Spawn) :
    (startNmcli kind argv spawn h).1.line = h.line := by
  rcases startNmcli_cases kind argv spawn h with ⟨pid, -, same⟩ | ⟨line, same⟩
  · rw [same]
    rfl
  · rw [same]
    rfl

/-- So does the start of a join. -/
theorem beginConnect_line (h : Hud) (ssid : Arg) : (h.beginConnect ssid).line = h.line := by
  have copied : (h.joinFlags.snprintf .connectSsid ssid).line = h.line := snprintf_line _ _ _
  unfold beginConnect abortJob
  simp only
  generalize h.joinFlags.snprintf .connectSsid ssid = g at copied ⊢
  split_ifs <;> exact copied

/-- A queued join copies the password and leaves it. -/
theorem queueConnect_line (h : Hud) (ssid pass sec : Arg) :
    (h.queueConnect ssid pass sec).line = h.line := by
  unfold queueConnect
  exact (snprintf_line _ _ _).trans ((snprintf_line _ _ _).trans (snprintf_line _ _ _))

/-- The arguments are filled from it. -/
theorem fillArgv_line (h : Hud) (ssid pass sec : Arg) :
    (h.fillArgv ssid pass sec).line = h.line := by
  unfold fillArgv
  exact (snprintf_line _ _ _).trans ((snprintf_line _ _ _).trans
    ((snprintf_line _ _ _).trans (snprintf_line _ _ _)))

/-- A call of `wifi_connect` leaves it, whatever it starts. -/
theorem wifiConnect_line (h : Hud) (ssid pass sec : Arg) (sys : Sys) :
    (h.wifiConnect ssid pass sec sys).line = h.line := by
  have begun := h.beginConnect_line ssid
  unfold wifiConnect
  simp only
  generalize h.beginConnect ssid = g at begun ⊢
  split_ifs
  · rfl
  · exact begun
  · exact (queueConnect_line _ _ _ _).trans begun
  · exact (startNmcli_line _ _ _ _).trans ((fillArgv_line _ _ _ _).trans begun)

/-- Remembering a password leaves it. -/
theorem rememberPsk_line (h : Hud) (ssid pass : Text) :
    (h.rememberPsk ssid pass).line = h.line := by
  unfold rememberPsk
  split
  · rfl
  · rfl

/-- The password that is submitted stays in its line. -/
theorem wifiSubmitPass_line (h : Hud) (sys : Sys) : (h.wifiSubmitPass sys).line = h.line := by
  unfold wifiSubmitPass
  simp only
  split_ifs
  · rfl
  · rfl
  · rfl
  · exact (queueConnect_line _ _ _ _).trans (rememberPsk_line _ _ _)
  · exact (wifiConnect_line _ _ _ _ _).trans (rememberPsk_line _ _ _)

/-- **What a press does to the password**: nothing, or it erases or enters one character. -/
theorem press_line (h : Hud) (pressed : Press) : (h.press pressed).line = h.line ∨
    (h.press pressed).line = h.oskErase.line ∨
    ∃ c, pressed.key.Enters c ∧ (h.press pressed).line = (h.oskFeed c).line := by
  obtain ⟨key, sys⟩ := pressed
  unfold press oskActivate
  cases kind : key.kind with
  | char =>
      refine .inr (.inr ⟨key.ch, .inl ⟨kind, rfl⟩, ?_⟩)
      dsimp only
      split <;> rfl
  | shift => exact .inl rfl
  | sym => exact .inl rfl
  | more => exact .inl rfl
  | space => exact .inr (.inr ⟨32, .inr ⟨kind, rfl⟩, rfl⟩)
  | bksp => exact .inr (.inl rfl)
  | go => exact .inl (wifiSubmitPass_line _ _)

/-- The password is as long as is counted, and there is room for its end. -/
structure Counted (h : Hud) : Prop where
  pwLen : h.osk.pwLen = h.osk.password.text.length
  room : h.osk.pwLen ≤ pwMax - 1

/-- A character is put at the end when there is room. -/
theorem oskFeed_text (counted : h.Counted) (nonzero : c ≠ 0) (room : h.osk.pwLen < pwMax - 1) :
    (h.oskFeed c).osk.password.text = h.osk.password.text ++ [c] := by
  have length := counted.pwLen
  rw [oskFeed, if_neg (by omega)]
  change ((h.osk.password.store h.osk.pwLen c).store (h.osk.pwLen + 1) 0).text = _
  rw [length] at room ⊢
  exact Cells.store_append_text nonzero (by simp only [pwMax] at room; omega)

/-- Erasing takes the last character. -/
theorem oskErase_text (counted : h.Counted) :
    h.oskErase.osk.password.text = h.osk.password.text.dropLast := by
  have length := counted.pwLen
  have room := counted.room
  unfold oskErase
  split
  · change (h.osk.password.store (h.osk.pwLen - 1) 0).text = _
    rw [List.dropLast_eq_take, ← length]
    exact Cells.store_zero_text (by omega) (by simp only [pwMax] at room; omega)
  · have empty : h.osk.password.text = [] := List.eq_nil_of_length_eq_zero (by omega)
    rw [empty, List.dropLast_nil]

/-- The count goes up with a character. -/
theorem Counted.feed (counted : h.Counted) (nonzero : c ≠ 0) : (h.oskFeed c).Counted := by
  by_cases room : h.osk.pwLen < pwMax - 1
  · have text := oskFeed_text counted nonzero room
    have length : (h.oskFeed c).osk.pwLen = h.osk.pwLen + 1 := by
      rw [oskFeed, if_neg (by omega)]
    refine ⟨?_, by omega⟩
    rw [text, length, counted.pwLen, List.length_append, List.length_singleton]
  · rwa [oskFeed, if_pos (by omega)]

/-- And down with one that is erased. -/
theorem Counted.erase (counted : h.Counted) : h.oskErase.Counted := by
  have text := oskErase_text counted
  have room := counted.room
  have length : h.oskErase.osk.pwLen = h.osk.pwLen - 1 := by
    unfold oskErase
    split
    · rfl
    · omega
  refine ⟨?_, by omega⟩
  rw [text, length, counted.pwLen, List.length_dropLast]

/-- The count depends on the line only. -/
theorem Counted.congr (counted : h.Counted) (same : g.line = h.line) : g.Counted := by
  have password : g.osk.password = h.osk.password := congrArg Prod.fst same
  have pwLen : g.osk.pwLen = h.osk.pwLen := congrArg (·.2.1) same
  refine ⟨?_, ?_⟩
  · rw [password, pwLen, counted.pwLen]
  · rw [pwLen]
    exact counted.room

/-- Entering a character leaves the width. -/
theorem oskFeed_width (h : Hud) (c : UInt8) : (h.oskFeed c).ui.W = h.ui.W := by
  unfold oskFeed
  split <;> rfl

theorem oskErase_width (h : Hud) : h.oskErase.ui.W = h.ui.W := by
  unfold oskErase
  split <;> rfl

/-! ### What can be entered -/

/-- What an offered key enters is on a key. -/
theorem enters_onKeys {key : OskKey} (offered : key ∈ h.oskLayout) (enters : key.Enters c) :
    OnKeys h.ui.W c := by
  rcases enters with ⟨kind, rfl⟩ | ⟨kind, rfl⟩
  · exact .inl ⟨h.osk.page, char_mem_faces.mp (mem_faces.mpr ⟨_, offered, kind, rfl⟩)⟩
  · exact .inr ⟨space_mem_faces.mp ⟨_, mem_faces.mpr ⟨_, offered, kind, rfl⟩⟩, rfl⟩

/-- No key enters the end of a string. -/
theorem enters_nonzero {key : OskKey} (offered : key ∈ h.oskLayout) (enters : key.Enters c) :
    c ≠ 0 := by
  rcases enters with ⟨kind, rfl⟩ | ⟨kind, rfl⟩
  · exact h.oskLayout_lettered _ offered kind
  · decide

/-- A key of any page keeps the count. -/
theorem Counted.press {pressed : Press} (counted : h.Counted)
    (offered : ∃ page : Hud, page.Offered pressed) : (h.press pressed).Counted := by
  obtain ⟨page, offered⟩ := offered
  rcases h.press_line pressed with same | same | ⟨c, enters, same⟩
  · exact counted.congr same
  · exact counted.erase.congr same
  · exact (counted.feed (enters_nonzero offered enters)).congr same

/-- The password has only characters that are on keys. -/
structure Spelt (W : Int) (h : Hud) : Prop where
  width : h.ui.W = W
  counted : h.Counted
  onKeys : ∀ c ∈ h.osk.password.text, OnKeys W c

/-- A press leaves the width. -/
theorem press_width (h : Hud) (pressed : Press) : (h.press pressed).ui.W = h.ui.W := by
  rcases h.press_line pressed with same | same | ⟨c, -, same⟩
  · exact congrArg (·.2.2) same
  · exact (congrArg (·.2.2) same).trans h.oskErase_width
  · exact (congrArg (·.2.2) same).trans (h.oskFeed_width c)

/-- A press erases or enters one character of the keys at most. -/
theorem press_text {pressed : Press} (counted : h.Counted) (offered : h.Offered pressed) :
    (h.press pressed).osk.password.text = h.osk.password.text ∨
      (h.press pressed).osk.password.text = h.osk.password.text.dropLast ∨
      ∃ c, OnKeys h.ui.W c ∧ (h.press pressed).osk.password.text = h.osk.password.text ++ [c] := by
  have read {g : Hud} (same : (h.press pressed).line = g.line) :
      (h.press pressed).osk.password.text = g.osk.password.text :=
    congrArg (Cells.text ·.1) same
  rcases h.press_line pressed with same | same | ⟨c, enters, same⟩
  · exact .inl (read same)
  · exact .inr (.inl ((read same).trans (oskErase_text counted)))
  · by_cases room : h.osk.pwLen < pwMax - 1
    · refine .inr (.inr ⟨c, enters_onKeys offered enters, (read same).trans ?_⟩)
      exact oskFeed_text counted (enters_nonzero offered enters) room
    · refine .inl ((read same).trans ?_)
      rw [oskFeed, if_pos (by omega)]

/-- **An offered key keeps the password to characters of keys.** -/
theorem Spelt.press {W : Int} {pressed : Press} (spelt : Spelt W h) (offered : h.Offered pressed) :
    Spelt W (h.press pressed) := by
  obtain ⟨rfl, counted, on⟩ := spelt
  refine ⟨h.press_width pressed, counted.press ⟨h, offered⟩, fun d member => ?_⟩
  rcases press_text counted offered with same | same | ⟨c, entered, same⟩
  · exact on d (same ▸ member)
  · exact on d (List.mem_of_mem_dropLast (same ▸ member))
  · rw [same] at member
    rcases List.mem_append.mp member with before | new
    · exact on d before
    · rwa [List.mem_singleton.mp new]

/-- Only characters of the keys are ever entered. -/
theorem spelt_of_presses (empty : h.osk.password.text = []) (none : h.osk.pwLen = 0)
    (presses : Presses h g) : Spelt h.ui.W g := by
  refine presses.preserved (fun _ _ spelt offered => spelt.press offered) ⟨rfl, ⟨?_, ?_⟩, ?_⟩
  · rw [none, empty, List.length_nil]
  · omega
  · rw [empty]
    exact fun _ member => absurd member (List.not_mem_nil)

/-- Entering a character changes the keyboard only. -/
theorem enters_osk {key : OskKey} (enters : key.Enters c) (h : Hud) (sys : Sys) :
    ∃ osk : Osk, h.oskActivate key sys = { h with osk } ∧
      line { h with osk } = (h.oskFeed c).line := by
  have feeds : h.oskFeed c = { h with osk := (h.oskFeed c).osk } := by
    unfold oskFeed
    split <;> rfl
  unfold oskActivate
  rcases enters with ⟨kind, rfl⟩ | ⟨kind, rfl⟩
  · rw [kind]
    dsimp only
    rw [feeds]
    split
    · exact ⟨_, rfl, rfl⟩
    · exact ⟨_, rfl, rfl⟩
  · rw [kind]
    dsimp only
    rw [feeds]
    exact ⟨_, rfl, rfl⟩

/-- An offered key enters its character when there is room, and changes the keyboard only. -/
theorem presses_enters {key : OskKey} (offered : key ∈ h.oskLayout) (enters : key.Enters c)
    (counted : h.Counted) (room : h.osk.pwLen < pwMax - 1) : ∃ osk : Osk,
      Presses h { h with osk } ∧ osk.password.text = h.osk.password.text ++ [c] ∧
      Counted { h with osk } := by
  obtain ⟨osk, presses, same⟩ := enters_osk enters h { spawn := .noPipe }
  have pressed : Presses h (h.press ⟨key, { spawn := .noPipe }⟩) := .single offered
  rw [press, presses] at pressed
  have nonzero := enters_nonzero offered enters
  refine ⟨osk, pressed, ?_, (counted.feed nonzero).congr same⟩
  rw [← oskFeed_text counted nonzero room]
  exact congrArg (Cells.text ·.1) same

/-- **A character of the keys can be entered.** -/
theorem presses_char (counted : h.Counted) (room : h.osk.pwLen < pwMax - 1)
    (on : OnKeys h.ui.W c) : ∃ osk : Osk, Presses h { h with osk } ∧
      osk.password.text = h.osk.password.text ++ [c] ∧ Counted { h with osk } := by
  rcases on with ⟨page, shown⟩ | ⟨wide, rfl⟩
  · obtain ⟨shift, sym, more, turned, shows⟩ := h.reaches_page page
    rw [← shows] at shown
    obtain ⟨key, offered, kind, char⟩ := mem_faces.mp (char_mem_faces.mpr shown)
    obtain ⟨osk, pressed, typed⟩ := presses_enters offered (.inl ⟨kind, char⟩)
      (@Counted.congr h _ counted rfl) room
    exact ⟨osk, turned.trans pressed, typed⟩
  · obtain ⟨_, shown⟩ := space_mem_faces.mpr wide
    obtain ⟨key, offered, kind, -⟩ := mem_faces.mp shown
    exact presses_enters offered (.inr ⟨kind, rfl⟩) counted room

/-- **A string of characters of the keys can be entered.** -/
theorem presses_text {p : Text} (counted : h.Counted)
    (fits : h.osk.pwLen + p.length ≤ pwMax - 1) (on : ∀ c ∈ p, OnKeys h.ui.W c) :
    ∃ osk : Osk, Presses h { h with osk } ∧
      osk.password.text = h.osk.password.text ++ p ∧ Counted { h with osk } := by
  induction p generalizing h with
  | nil => exact ⟨h.osk, .refl h, (List.append_nil _).symm, counted⟩
  | cons c rest ih =>
      rw [List.length_cons] at fits
      obtain ⟨front, first, entered, counted'⟩ :=
        presses_char counted (by omega) (on c List.mem_cons_self)
      have length : front.pwLen = h.osk.pwLen + 1 := by
        rw [show front.pwLen = _ from counted'.pwLen]
        change front.password.text.length = _
        rw [entered, List.length_append, ← counted.pwLen, List.length_singleton]
      obtain ⟨osk, later, typed, counted''⟩ := ih counted' (by
        change front.pwLen + _ ≤ _
        omega) fun d member => on d (List.mem_cons_of_mem _ member)
      refine ⟨osk, first.trans later, typed.trans ?_, counted''⟩
      change front.password.text ++ rest = _
      rw [entered, List.append_assoc, List.singleton_append]

/-! ### Joining -/

/-- There is a network to join, and it takes a password. -/
structure Accepts (h : Hud) : Prop where
  named : h.load h.gwPassSsid ≠ []
  free : h.forget.forgetting = false
  personal : wifiSecEnterprise (h.load h.pickedSec) = false

/-- **The password is passed on**: it waits in the queue, or it is an argument of the script. -/
inductive Delivers (pass : Text) (h h' : Hud) : Prop
  | queued (wants : h'.join.wantConnect = true) (waits : h'.bufs.pendPass.text = pass)
  | launched (call : ConnectCall) (argv : List Text) (started : Bool)
      (trace : h'.trace = .start .connect argv started :: .connect call :: h.trace)
      (passed : argv[3]? = some pass)

/-- What is passed on from a state with the same past is passed on from this one. -/
theorem Delivers.after {pass : Text} {k : Hud} (delivers : Delivers pass g k)
    (past : g.trace = h.trace) : Delivers pass h k := by
  cases delivers with
  | queued wants waits => exact .queued wants waits
  | launched call argv started trace passed =>
      exact .launched call argv started (past ▸ trace) passed

/-- A child that is started has the password among its arguments. -/
theorem startNmcli_delivers {pass : Text} {call : ConnectCall} {argv : List Text}
    (past : g.trace = .connect call :: h.trace) (passed : argv[3]? = some pass) (spawn : Spawn) :
    Delivers pass h (startNmcli .connect argv spawn g).1 :=
  .launched call argv _ (startNmcli_snd.trans (congrArg _ past)) passed

/-- A queued join keeps its password. -/
theorem queueConnect_waits {ssid pass sec : Arg} (ssidApart : ssid ≠ .var .pendSsid)
    (passApart : pass ≠ .var .pendSsid ∧ pass ≠ .var .pendPass)
    (secApart : sec ≠ .var .pendSsid ∧ sec ≠ .var .pendPass ∧ sec ≠ .var .pendSec)
    (fits : (h.load pass).length < 64) :
    (h.queueConnect ssid pass sec).join.wantConnect = true ∧
      (h.queueConnect ssid pass sec).bufs.pendPass.text = h.load pass := by
  rw [queueConnect_eq ssidApart passApart secApart]
  exact ⟨rfl, Buf.print_of_lt fits⟩

section

variable {ssid sec : Arg} (source : ssid = .var .connectSsid ∨ ssid = .var .selectedSsid)
  (secApart : sec ≠ .var .pendSsid ∧ sec ≠ .var .pendPass ∧ sec ≠ .var .pendSec)

include source secApart

/-- A password that fits is kept with the queued join. -/
theorem queuePassword_waits (fits : (h.load (.var .password)).length < 64) :
    (h.queueConnect ssid (.var .password) sec).join.wantConnect = true ∧
      (h.queueConnect ssid (.var .password) sec).bufs.pendPass.text = h.load (.var .password) := by
  refine queueConnect_waits ?_ (by decide) secApart fits
  rcases source with rfl | rfl <;> decide

/-- **A call passes the password on**: to the script, or to the queue. -/
theorem wifiConnect_delivers (named : h.load ssid ≠ []) (steady : sec.Steady)
    (given : h.load (.var .password) ≠ []) (fits : (h.load (.var .password)).length < 64)
    (sys : Sys) :
    Delivers (h.load (.var .password)) h (h.wifiConnect ssid (.var .password) sec sys) := by
  have loaded : (h.beginConnect ssid).load (.var .password) = h.load (.var .password) :=
    beginConnect_load (by decide)
  have past := h.beginConnect_trace ssid
  unfold wifiConnect
  rw [if_neg named]
  simp only
  generalize h.beginConnect ssid = g at loaded past ⊢
  rw [← loaded] at given fits
  split
  · -- The slot is taken. A password is queued even if another request is.
    have asks : gwKeepPendingPsk (g.load (.var .password) = []) g.join.wantConnect
        g.bufs.pendSsid.text g.bufs.pendPass.text (g.load ssid) = false := by
      simp [gwKeepPendingPsk, given]
    rw [if_neg (by rw [asks]; decide), ← loaded]
    obtain ⟨wants, waits⟩ := queuePassword_waits source secApart fits
    exact .queued wants waits
  · have apart : ∀ dst ∈ [Dst.s1, .s2, .s3, .s4],
        ssid ≠ .var dst.var ∧ Arg.var .password ≠ .var dst.var ∧ sec ≠ .var dst.var := by
      intro dst member
      refine ⟨?_, ?_, steady dst (List.mem_cons_of_mem _ member)⟩
      · rcases source with rfl | rfl
        · exact sources_apart .connectSsid (by decide) dst member
        · exact sources_apart .selectedSsid (by decide) dst member
      · revert dst
        decide
    rw [fillArgv_eq apart]
    refine startNmcli_delivers (congrArg _ past) ?_ sys.spawn
    rw [← loaded]
    exact congrArg some (Buf.print_of_lt fits)

end

/-- **The password that was entered is passed on as it is.** -/
theorem wifiSubmitPass_delivers (counted : h.Counted) (long : 8 ≤ h.osk.pwLen)
    (accepts : h.Accepts) (sys : Sys) :
    Delivers h.osk.password.text h (h.wifiSubmitPass sys) := by
  obtain ⟨named, free, personal⟩ := accepts
  obtain ⟨length, room⟩ := counted
  have source := h.gwPassSsid_cases named
  unfold wifiSubmitPass
  simp only
  rw [if_neg (by simp [named, free]), if_neg (by simp [personal]), if_neg (by omega)]
  have loaded : ({ h with join.connectNeedPass := true }.rememberPsk
      ({ h with join.connectNeedPass := true }.load h.gwPassSsid)
      h.osk.password.text).load h.gwPassSsid = h.load h.gwPassSsid := by
    unfold rememberPsk gwPassSsid
    split_ifs <;> rfl
  have password : ({ h with join.connectNeedPass := true }.rememberPsk
      ({ h with join.connectNeedPass := true }.load h.gwPassSsid)
      h.osk.password.text).load (.var .password) = h.osk.password.text := by
    unfold rememberPsk
    split_ifs <;> rfl
  have past : ({ h with join.connectNeedPass := true }.rememberPsk
      ({ h with join.connectNeedPass := true }.load h.gwPassSsid)
      h.osk.password.text).trace = h.trace := by
    unfold rememberPsk
    split_ifs <;> rfl
  generalize Hud.rememberPsk _ _ _ = g at loaded password past ⊢
  have fits : (g.load (.var .password)).length < 64 := by
    rw [password]
    simp only [pwMax] at room
    omega
  rw [← password]
  split
  · obtain ⟨wants, waits⟩ := queuePassword_waits source h.pickedSec_apart fits
    exact .queued wants waits
  · have given : g.load (.var .password) ≠ [] := by
      rw [password]
      intro empty
      rw [empty, List.length_nil] at length
      omega
    exact (wifiConnect_delivers source h.pickedSec_apart (loaded ▸ named) h.pickedSec_steady given
      fits sys).after past

end Hud

/-! ## The passwords that can be typed -/

/-- The characters that can be typed on a screen of this width, among the printable ones. -/
def Typeable (W : Int) (c : UInt8) : Prop :=
  c ≠ 96 ∧ (c = 32 → 380 ≤ W) ∧ (c ∈ txt ".,?!'" → 384 ≤ W) ∧
    (c ∈ txt "zxcvbnmZXCVBNM" → 420 ≤ W)

instance (W : Int) (c : UInt8) : Decidable (Typeable W c) := inferInstanceAs (Decidable (_ ∧ _))

/-- A printable character is in a long row of some page unless it is one of these. -/
theorem exists_mem_long_iff : ∀ n ∈ List.range 127, 32 ≤ n →
    ((∃ page ∈ [Page.small, .capital, .symbols, .more], UInt8.ofNat n ∈ page.long) ↔
      UInt8.ofNat n ∉ 96 :: 32 :: (txt ".,?!'" ++ txt "zxcvbnmZXCVBNM")) := by
  decide +kernel

/-- The third rows have neither a grave accent nor a blank, and the symbols' no letters. -/
theorem Page.third_spares (page : Page) : ∀ c ∈ page.third,
    c ≠ 96 ∧ c ≠ 32 ∧ (page = .more → c ∉ txt "zxcvbnmZXCVBNM") := by
  cases page <;> decide +kernel

/-- A character of a third row is typeable when the row fits. -/
theorem Typeable.of_third {W : Int} {page : Page} (fits : page.width ≤ W) {c : UInt8}
    (third : c ∈ page.third) : Typeable W c := by
  obtain ⟨other, space, letter⟩ := page.third_spares c third
  have narrow : 384 ≤ page.width := by
    cases page <;> decide
  refine ⟨other, fun same => absurd same space, fun _ => by omega, fun letters => ?_⟩
  cases page with
  | more => exact absurd letters (letter rfl)
  | small | capital | symbols => exact fits

/-- **The typeable characters are those on the keys**, among the printable ones. -/
theorem onKeys_iff {W : Int} {c : UInt8} (least : 32 ≤ c) (greatest : c ≤ 126) :
    OnKeys W c ↔ Typeable W c := by
  have code : c.toNat ∈ List.range 127 := List.mem_range.mpr (Nat.lt_succ_of_le greatest)
  have inLong := exists_mem_long_iff c.toNat code least
  rw [UInt8.ofNat_toNat] at inLong
  constructor
  · rintro (⟨page, long | ⟨fits, third⟩⟩ | ⟨wide, rfl⟩)
    · have other := inLong.mp ⟨page, by cases page <;> decide, long⟩
      simp only [List.mem_cons, List.mem_append, not_or] at other
      obtain ⟨grave, space, mark, letter⟩ := other
      exact ⟨grave, (absurd · space), (absurd · mark), (absurd · letter)⟩
    · exact .of_third fits third
    · exact ⟨by decide, fun _ => wide, (absurd · (by decide)), (absurd · (by decide))⟩
  · rintro ⟨grave, space, mark, letter⟩
    by_cases isSpace : c = 32
    · exact .inr ⟨space isSpace, isSpace⟩
    by_cases isMark : c ∈ txt ".,?!'"
    · exact .inl ⟨.more, .inr ⟨mark isMark, isMark⟩⟩
    by_cases isLetter : c ∈ txt "zxcvbnmZXCVBNM"
    · have wide := letter isLetter
      have rows : c ∈ txt "zxcvbnm" ++ txt "ZXCVBNM" := isLetter
      rcases List.mem_append.mp rows with small | capital
      · exact .inl ⟨.small, .inr ⟨wide, small⟩⟩
      · exact .inl ⟨.capital, .inr ⟨wide, capital⟩⟩
    obtain ⟨page, -, long⟩ := inLong.mpr (by
      simp only [List.mem_cons, List.mem_append, not_or]
      exact ⟨grave, isSpace, isMark, isLetter⟩)
    exact .inl ⟨page, .inl long⟩

/-- **The passphrase can be typed**: presses of offered keys enter it and change the keyboard
only, and the join key, which is offered, then passes it on. -/
def Hud.Typed (h : Hud) (p : Text) : Prop :=
  ∃ g, h.Presses g ∧ g = { h with osk := g.osk } ∧
    g.osk.password.text = p ∧ g.osk.pwLen = p.length ∧
    (∃ join, g.Offered join ∧ join.key.kind = .go) ∧
    (g.Accepts → ∀ join : Press, join.key.kind = .go → g.Delivers p (g.press join))

namespace Hud

variable {h : Hud} {p : Text}

/-- A passphrase of characters on keys can be typed. -/
theorem typed_of_onKeys (empty : h.osk.password.text = []) (none : h.osk.pwLen = 0)
    (long : 8 ≤ p.length) (short : p.length ≤ 63) (on : ∀ c ∈ p, OnKeys h.ui.W c) :
    h.Typed p := by
  have counted : h.Counted := by
    refine ⟨?_, ?_⟩
    · rw [none, empty, List.length_nil]
    · omega
  obtain ⟨osk, presses, text, counted'⟩ := presses_text counted
    (by simp only [pwMax]; omega) on
  rw [empty, List.nil_append] at text
  have length : osk.pwLen = p.length := by
    rw [← text]
    exact counted'.pwLen
  refine ⟨_, presses, rfl, text, length, ?_, fun accepts join isJoin => ?_⟩
  · obtain ⟨key, offered, isJoin, -⟩ := mem_faces.mp (go_mem_faces { h with osk })
    exact ⟨⟨key, { spawn := .noPipe }⟩, offered, isJoin⟩
  · rw [press, oskActivate, isJoin, ← text]
    refine wifiSubmitPass_delivers counted' ?_ accepts _
    change 8 ≤ osk.pwLen
    omega

/-- **Which passphrases can be typed.** From an empty password every sequence of keys keeps
the length and the string together, and a passphrase of printable characters can be typed if
and only if each of them is typeable on this screen. -/
theorem typed_iff (h : Hud) (empty : h.osk.password.text = []) (none : h.osk.pwLen = 0) :
    (∀ g, Reaches press (fun _ pressed => ∃ page : Hud, page.Offered pressed) h g →
      g.osk.pwLen = g.osk.password.text.length ∧ g.osk.pwLen ≤ pwMax - 1) ∧
    ∀ p : Text, (∀ c ∈ p, 32 ≤ c ∧ c ≤ 126) → 8 ≤ p.length → p.length ≤ 63 →
      [h.Typed p, ∃ g, h.Presses g ∧ g.osk.password.text = p,
        ∀ c ∈ p, Typeable h.ui.W c].TFAE := by
  refine ⟨fun g reaches => ?_, fun p printable long short => ?_⟩
  · have counted : g.Counted := by
      refine reaches.preserved (fun _ _ counted offered => counted.press offered) ⟨?_, ?_⟩
      · rw [none, empty, List.length_nil]
      · omega
    exact ⟨counted.pwLen, counted.room⟩
  · tfae_have 1 → 2 := fun ⟨g, presses, _, text, _⟩ => ⟨g, presses, text⟩
    tfae_have 2 → 3 := by
      rintro ⟨g, presses, rfl⟩ c member
      obtain ⟨least, greatest⟩ := printable c member
      exact (onKeys_iff least greatest).mp ((spelt_of_presses empty none presses).onKeys c member)
    tfae_have 3 → 1 := by
      intro typeable
      refine typed_of_onKeys empty none long short fun c member => ?_
      obtain ⟨least, greatest⟩ := printable c member
      exact (onKeys_iff least greatest).mpr (typeable c member)
    tfae_finish

/-- The password sheet of a network called `home`, a symbol page left open. -/
def homeSheet : Hud where
  ui := { W := 1080, H := 2400, sheet := .pass, sheetTgt := .pass, sheetT := 1 }
  scan := { selectedSsid := .print 96 (txt "home"), selectedSec := .print 40 (txt "WPA2") }
  osk := { symOn := true, oskSym2 := true }

/-- A passphrase with all kinds of characters on it. -/
theorem typed_iff_home :
    homeSheet.Accepts ∧ homeSheet.Typed (txt "Tr0ub4dor & 3!") := by
  refine ⟨⟨by decide +kernel, rfl, by decide +kernel⟩, ?_⟩
  have typed := (typed_iff homeSheet (by decide +kernel) rfl).2 (txt "Tr0ub4dor & 3!")
    (by decide +kernel) (by decide +kernel) (by decide +kernel)
  exact (typed.out 0 2).mpr (by decide +kernel)

/-- **The grave accent cannot be typed.** -/
theorem grave_not_typed :
    (∀ c ∈ txt "pass`word", 32 ≤ c ∧ c ≤ 126) ∧ (txt "pass`word").length = 9 ∧
      homeSheet.osk.password.text = [] ∧ homeSheet.osk.pwLen = 0 ∧
      ¬∃ g, homeSheet.Presses g ∧ g.osk.password.text = txt "pass`word" := by
  have empty : homeSheet.osk.password.text = [] := by decide +kernel
  refine ⟨by decide +kernel, by decide +kernel, empty, rfl, ?_⟩
  rintro ⟨g, presses, entered⟩
  have grave : OnKeys homeSheet.ui.W 96 := by
    apply (spelt_of_presses empty rfl presses).onKeys 96
    rw [entered]
    decide +kernel
  exact ((onKeys_iff (by decide) (by decide)).mp grave).1 rfl

end Hud

end Ginkgo
