import Ginkgo.Hud.Tap
import Ginkgo.Text.Draw

/-!
# The rows of the network list

The loop of `draw_list_sheet` of `ginkgo-status.c` with `ap_meta`, next to the rows that `tap`
reacts to. What the loop draws is the list of its calls, row by row; the card around the rows,
its buttons and the line above them are left out.

`tap` gives the card a lower edge of 36 pixels for the rows and `draw_list_sheet` one of 40. So
a row that starts between the two is not drawn but can be selected, and `rows_agree_iff` says
that this is the only way in which the two differ.
-/

namespace Ginkgo

open CText

/-- The fonts of the list sheet. -/
inductive SheetFont where
  | body
  | title
  deriving DecidableEq

/-- What `draw_list_sheet` calls. -/
inductive SheetCall where
  | fillRound (x y w h r : Int) (c : UInt32)
  | text (font : SheetFont) (x y : Int) (s : Text) (c : UInt32)
  | textFit (font : SheetFont) (x y maxw : Int) (s : Text) (c : UInt32)
  | loader (cx y : Int)
  | signal (x y sig : Int)
  deriving DecidableEq

namespace Hud

/-- `ap_meta`, in the 96 bytes of the caller. -/
def apMeta (h : Hud) (a : Ap) : Buf 96 :=
  let mhz := atoi a.freq.text
  let band := if 4900 ≤ mhz then txt " · 5 GHz" else if 2000 ≤ mhz then txt " · 2.4 GHz" else []
  let active := if a.active then h.T " · 已连接" " · connected" else []
  if a.secure = false ∨ a.security.text = [] ∨ a.security.text = txt "--" then
    .print 96 (h.T "开放 · 无密码" "Open" ++ band ++ active)
  else .print 96 (a.security.text ++ txt " · " ++ h.T "加密" "secured" ++ band ++ active)

/-- The top of a row. -/
def rowTop (h : Hud) (y0 : Int) (i : Nat) : Int := listTopFrom y0 + i * listRowH + h.ui.listScroll

/-- One round of the loop of `draw_list_sheet`; nothing is drawn for a row that is culled. -/
def drawRow (h : Hud) (font : SheetFont → GsFont) (y0 : Int) (i : Nat) (a : Ap) :
    List SheetCall :=
  let listTop := listTopFrom y0
  let cx := sheetCardX
  let cw := h.sheetCardW
  let hover := h.scan.hoverAp.getD 0
  let listBot := y0 + h.sheetCardH - 40
  let sx := cx + cw - 148
  let yy := h.rowTop y0 i
  let joining : Bool := h.join.connecting ∧ h.bufs.connectSsid.text ≠ [] ∧
    a.ssid.text = h.bufs.connectSsid.text
  let on : Bool := i = hover ∨ joining
  if yy < listTop - listRowH ∨ listBot < yy then []
  else
    [.fillRound (cx + 20) yy (cw - 40) (listRowH - 18) 24
      (if on then px 52 78 118 else px 30 36 46)] ++
    (if on then [.fillRound (cx + 20) yy 10 (listRowH - 18) 6 (px 91 140 255)] else []) ++
    [.textFit .title (cx + 48) (yy + 20) (cw - 280) a.ssid.text (px 245 248 252),
     .textFit .body (cx + 48) (yy + 88) (cw - 280)
      (if joining then h.T "正在加入…" "Joining…" else (h.apMeta a).text)
      (if joining then px 91 140 255
       else if a.active then px 61 220 151 else px 150 162 178)] ++
    (if joining then [.loader (sx + 8) (yy + 36)]
     else
      let sig := (Buf.print 16 (decimal a.signal ++ txt "%")).text
      let sigW := textW (font .body) sig
      [.signal sx (yy + 18) a.signal,
       .text .body (sx + (52 - (sigW : Int)).tdiv 2) (yy + 100) sig (px 180 190 205)]) ++
    [.text .title (cx + cw - 64) (yy + 42) (txt ">") (px 120 130 148)]

/-- The rows of `draw_list_sheet`, one after the other. -/
def drawRows (h : Hud) (font : SheetFont → GsFont) (y0 : Int) : List (List SheetCall) :=
  h.scan.aps.mapIdx (h.drawRow font y0)

/-- Something is drawn for the row. -/
def DrawsRow (h : Hud) (font : SheetFont → GsFont) (y0 : Int) (i : Nat) : Prop :=
  ∃ calls, (h.drawRows font y0)[i]? = some calls ∧ calls ≠ []

/-- The rectangle of a row in the loop of `tap`. -/
def inRow (h : Hud) (y0 x y : Int) (i : Nat) : Bool :=
  hit x y (sheetCardX + 16) (h.rowTop y0 i) (h.sheetCardW - 32) (listRowH - 12)

/-- `tap` reaches its loop and selects the row. -/
def TapSelects (h : Hud) (y0 x y : Int) (i : Nat) : Prop :=
  hit x y sheetCardX y0 h.sheetCardW h.sheetCardH = true ∧
    hit x y (sheetCardX + 20) (y0 + 108) 220 80 = false ∧
    hit x y (sheetCardX + h.sheetCardW - 240) (y0 + 108) 220 80 = false ∧
    h.tapRow x y y0 = some i

/-- A tap that selects a row is a tap on that row. -/
theorem TapSelects.tapList_eq {h : Hud} {y0 x y : Int} {i : Nat} (selects : h.TapSelects y0 x y i)
    (sys : Sys) : h.tapList x y y0 sys = h.tapSelect i := by
  obtain ⟨card, back, refresh, row⟩ := selects
  simp only [tapList, card, back, refresh, row, Bool.true_eq_false, Bool.false_eq_true,
    ↓reduceIte]

/-- The row starts below the last line where a row is drawn, and not below the last line where
one can be selected; the point is on it and on the card. -/
def EdgeRow (h : Hud) (y0 x y : Int) (i : Nat) : Prop :=
  i < h.scan.aps.length ∧
    y0 + h.sheetCardH - 40 < h.rowTop y0 i ∧ h.rowTop y0 i ≤ y0 + h.sheetCardH - 36 ∧
    h.rowTop y0 i ≤ y ∧ y < y0 + h.sheetCardH ∧ 32 ≤ x ∧ x < h.ui.W - 32

variable {h : Hud} {font : SheetFont → GsFont} {y0 x y : Int}

/-- The card of a sheet is at least so high. -/
theorem sheetCardH_ge (h : Hud) : 520 ≤ h.sheetCardH := by
  unfold sheetCardH
  dsimp only
  split <;> omega

/-- Where a row is tapped. -/
theorem inRow_iff {i : Nat} :
    h.inRow y0 x y i = true ↔
      32 ≤ x ∧ x < h.ui.W - 32 ∧ h.rowTop y0 i ≤ y ∧ y < h.rowTop y0 i + 156 := by
  unfold inRow hit sheetCardX sheetCardW listRowH
  rw [decide_eq_true_iff]
  omega

/-- The rows do not overlap: they are closer than they are high. -/
theorem inRow_unique {i j : Nat} (first : h.inRow y0 x y i = true)
    (second : h.inRow y0 x y j = true) : i = j := by
  rw [inRow_iff] at first second
  unfold rowTop listRowH at first second
  omega

/-- Which rows are drawn. -/
theorem drawsRow_iff {i : Nat} :
    h.DrawsRow font y0 i ↔ i < h.scan.aps.length ∧
      listTopFrom y0 - listRowH ≤ h.rowTop y0 i ∧ h.rowTop y0 i ≤ y0 + h.sheetCardH - 40 := by
  unfold DrawsRow drawRows
  rw [List.getElem?_mapIdx]
  by_cases inside : i < h.scan.aps.length
  · rw [List.getElem?_eq_getElem inside, Option.map_some]
    simp only [Option.some.injEq, exists_eq_left', inside, true_and, drawRow]
    split
    · simp only [ne_eq, not_true_eq_false, false_iff]
      omega
    · simp only [ne_eq, List.append_eq_nil_iff, List.cons_ne_nil, and_false, not_false_eq_true,
        true_iff]
      omega
  · rw [List.getElem?_eq_none (by omega), Option.map_none]
    simp only [reduceCtorEq, false_and, exists_false, inside]

/-- The row that `tap` selects. -/
theorem tapRow_eq_some_iff {i : Nat} :
    h.tapRow x y y0 = some i ↔ i < h.scan.aps.length ∧ h.inRow y0 x y i = true ∧
      listTopFrom y0 ≤ h.rowTop y0 i + listRowH ∧ h.rowTop y0 i ≤ y0 + h.sheetCardH - 36 := by
  have row (j : Nat) : (if listTopFrom y0 + j * listRowH + h.ui.listScroll + listRowH <
        listTopFrom y0 ∨ listTopFrom y0 + (y0 + h.sheetCardH - 36 - listTopFrom y0) <
          listTopFrom y0 + j * listRowH + h.ui.listScroll then false
      else hit x y (sheetCardX + 16) (listTopFrom y0 + j * listRowH + h.ui.listScroll)
        (h.sheetCardW - 32) (listRowH - 12)) = true ↔
      h.inRow y0 x y j = true ∧ listTopFrom y0 ≤ h.rowTop y0 j + listRowH ∧
        h.rowTop y0 j ≤ y0 + h.sheetCardH - 36 := by
    unfold inRow rowTop
    split
    · simp only [Bool.false_eq_true, false_iff]
      omega
    · constructor
      · intro on
        exact ⟨on, by omega, by omega⟩
      · exact fun on => on.1
  unfold tapRow
  rw [List.find?_range_eq_some]
  dsimp only
  rw [row i, List.mem_range]
  constructor
  · rintro ⟨⟨on, above, below⟩, inside, -⟩
    exact ⟨inside, on, above, below⟩
  · rintro ⟨inside, on, above, below⟩
    refine ⟨⟨on, above, below⟩, inside, fun j earlier => ?_⟩
    -- No earlier row is at the point: rows do not overlap.
    rw [Bool.not_eq_true', ← Bool.not_eq_true, row j]
    intro also
    exact earlier.ne (inRow_unique also.1 on)

/-- At a point that is on no edge row, what is selected is drawn. -/
theorem rows_agree_at_iff (h : Hud) (font : SheetFont → GsFont) (y0 x y : Int) :
    (∀ i, h.TapSelects y0 x y i → h.DrawsRow font y0 i) ↔ ¬∃ i, h.EdgeRow y0 x y i := by
  constructor
  · rintro agrees ⟨i, inside, low, high, top, bottom, left, right⟩
    have tall := sheetCardH_ge h
    have selects : h.TapSelects y0 x y i := by
      refine ⟨?_, ?_, ?_, tapRow_eq_some_iff.mpr ⟨inside, ?_, ?_, high⟩⟩
      · unfold hit sheetCardX sheetCardW
        rw [decide_eq_true_iff]
        omega
      -- The row is below both buttons.
      · unfold hit
        rw [decide_eq_false_iff_not]
        omega
      · unfold hit
        rw [decide_eq_false_iff_not]
        omega
      · rw [inRow_iff]
        omega
      · unfold listTopFrom listRowH
        omega
    have drawn := drawsRow_iff.mp (agrees i selects)
    omega
  · rintro none i ⟨card, -, -, row⟩
    obtain ⟨inside, on, above, below⟩ := tapRow_eq_some_iff.mp row
    refine drawsRow_iff.mpr ⟨inside, by omega, ?_⟩
    by_contra low
    refine none ⟨i, inside, by omega, below, ?_⟩
    rw [inRow_iff] at on
    unfold hit at card
    rw [decide_eq_true_iff] at card
    omega

/-- **Taps and drawing on the network list.** For every state, sheet position and point, at most
one row rectangle of `tap` contains the point; and what `tap` selects there is drawn, exactly
when the point is on no row that starts in the four lines below the last one where rows are
drawn. -/
theorem rows_agree_iff (h : Hud) (font : SheetFont → GsFont) (y0 x y : Int) :
    (∀ i j, h.inRow y0 x y i = true → h.inRow y0 x y j = true → i = j) ∧
      ((∀ i, h.TapSelects y0 x y i → h.DrawsRow font y0 i) ↔ ¬∃ i, h.EdgeRow y0 x y i) :=
  ⟨fun _ _ => inRow_unique, rows_agree_at_iff h font y0 x y⟩

/-- Everywhere on the sheet taps and drawing agree exactly when no row starts in those four
lines, or the screen is too narrow for rows. -/
theorem rows_agree_everywhere_iff (h : Hud) (font : SheetFont → GsFont) (y0 : Int) :
    (∀ x y i, h.TapSelects y0 x y i → h.DrawsRow font y0 i) ↔
      ∀ i < h.scan.aps.length, 64 < h.ui.W →
        h.rowTop y0 i ≤ y0 + h.sheetCardH - 40 ∨ y0 + h.sheetCardH - 36 < h.rowTop y0 i := by
  constructor
  · intro agrees i inside wide
    by_contra edge
    refine (rows_agree_at_iff h font y0 32 (h.rowTop y0 i)).mp (agrees 32 _) ⟨i, inside, ?_⟩
    omega
  · intro apart x y
    rw [rows_agree_at_iff]
    rintro ⟨i, inside, edge⟩
    have := apart i inside
    omega

/-- A list of thirteen networks on a screen of 1080 by 2400 pixels, scrolled by 66 pixels. -/
def scrolledList : Hud where
  scan := { aps := List.replicate 13 ⟨.empty 96, .empty 40, .empty 24, 60, true, false⟩ }
  ui := { W := 1080, H := 2400, sheetTgt := .list, sheetT := 1, listScroll := -66 }

/-- So a tap may select a row that is not drawn. -/
theorem scrolledList_selects_undrawn :
    ¬∀ (h : Hud) (font : SheetFont → GsFont) (y0 x y : Int) (i : Nat),
      h.TapSelects y0 x y i → h.DrawsRow font y0 i := by
  intro always
  have agrees := always scrolledList (fun _ => bareFont) scrolledList.sheetY0 500 2370
  refine (rows_agree_at_iff _ _ _ _ _).mp agrees ⟨12, by decide, ?_⟩
  decide +kernel

end Hud

end Ginkgo
