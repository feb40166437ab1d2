import Ginkgo.Hud.Keyboard

/-!
# Taps

The places that react to a tap, sheet by sheet. `Ginkgo.Hud.tap_refines` lists what a
tap can do.
-/

namespace Ginkgo

open CText

/-- The integer part of a rational, as a C cast takes it. -/
def ratTrunc (q : ℚ) : Int := q.num.tdiv q.den

/-- `list_row_h` -/
def listRowH : Int := 168

/-- `wifi_card_y` -/
def wifiCardY : Int := 324

/-- `list_top_from` -/
def listTopFrom (y0 : Int) : Int := y0 + 280

/-- `sheet_card_x` -/
def sheetCardX : Int := 16

namespace Hud

/-- `wifi_is_joining` -/
def wifiIsJoining (h : Hud) : Bool :=
  h.join.connecting || h.join.joinWaitLive || (h.wifi.busy && !h.wifi.connected)

/-- `wifi_is_assoc` -/
def wifiIsAssoc (h : Hud) : Bool := h.join.connecting || h.wifi.busy

/-- `wifi_card_h` -/
def wifiCardH (h : Hud) : Int :=
  if h.wifiIsJoining then 380 else if h.wifi.connected then 488 else 260

/-- `sheet_peek` -/
def sheetPeek (h : Hud) : Int :=
  let p := h.ui.H.tdiv 15
  let p := if p < 100 then 100 else p
  if 168 < p then 168 else p

/-- `sheet_card_w` -/
def sheetCardW (h : Hud) : Int := h.ui.W - 32

/-- `sheet_card_h` -/
def sheetCardH (h : Hud) : Int :=
  let height := h.ui.H - h.sheetPeek + 28
  if height < 520 then 520 else height

/-- `sheet_y0` -/
def sheetY0 (h : Hud) : Int :=
  let openY := h.ui.H - h.sheetCardH
  let closedY := h.ui.H + 40
  ratTrunc ((closedY : ℚ) + ((openY : ℚ) - (closedY : ℚ)) * h.ui.sheetT)

/-- `hit_lang` -/
def hitLang (x y : Int) (h : Hud) : Bool := hit x y (h.ui.W - 48 - 216) 20 216 76

/-- The highlighted row follows the finger. -/
def hoverFromPoint (x y : Int) (h : Hud) : Hud :=
  let top := listTopFrom h.sheetY0
  if h.ui.sheetTgt ≠ .list then h
  else
    let row (i : Nat) : Bool :=
      hit x y (sheetCardX + 16) (top + i * listRowH + h.ui.listScroll) (h.sheetCardW - 32)
        (listRowH - 12)
    match (List.range h.scan.aps.length).find? row with
    | some i => { h with scan.hoverAp := some i }
    | none => h

/-- The row of the list sheet at a point. -/
def tapRow (x y y0 : Int) (h : Hud) : Option Nat :=
  let listTop := listTopFrom y0
  let sh := y0 + h.sheetCardH - 36 - listTop
  let row (i : Nat) : Bool :=
    let yy := listTop + i * listRowH + h.ui.listScroll
    if yy + listRowH < listTop ∨ listTop + sh < yy then false
    else hit x y (sheetCardX + 16) yy (h.sheetCardW - 32) (listRowH - 12)
  (List.range h.scan.aps.length).find? row

/-- The status line counts the networks. -/
def countStatus (h : Hud) : Hud :=
  h.setStatus (h.T "找到 " "Found " ++ decimal h.scan.aps.length ++ h.T " 个网络" " networks")

/-- A tap on the language. -/
def tapLang (h : Hud) : Hud :=
  let h := { h with ui.langEn := !h.ui.langEn }
  if h.scan.aps ≠ [] then h.countStatus else h

/-- Leave the password sheet. -/
def tapCancel (h : Hud) : Hud :=
  { h with
    ui.sheetTgt := if h.scan.selectedSsid.text ≠ [] then .detail else .list
    join.connectFail := false
    osk.held := false
    osk.hi := none
    osk.oskSym2 := false }

/-- Select a row of the list and open its sheet, unless a job is in the way. -/
def tapSelect (i : Nat) (h : Hud) : Hud :=
  let h := h.selectApIdx i
  if h.join.connecting ∨ h.forget.forgetting then h
  else { h with join.connectFail := false, ui.sheetTgt := .detail }

/-- A tap on the password sheet: cancel or join. -/
def tapPass (x y y0 : Int) (sys : Sys) (h : Hud) : Hud :=
  if hit x y 40 (y0 + 304) 200 80 then h.tapCancel
  else if hit x y (h.ui.W - 280) (y0 + 304) 240 80 then h.wifiSubmitPass sys
  else h

/-- A tap on a network's own sheet: back, join or forget. -/
def tapDetail (x y y0 : Int) (sys : Sys) (h : Hud) : Hud :=
  let cx := sheetCardX
  let joinY := y0 + h.sheetCardH - 280
  let forgetY := y0 + h.sheetCardH - 176
  if hit x y (cx + 24) (y0 + 108) 220 80 then
    if h.forget.forgetting then h else { h with ui.sheetTgt := .list }
  else if hit x y (cx + 24) joinY (h.sheetCardW - 48) 80 then h.wifiJoinPicked sys
  else if hit x y (cx + 24) forgetY (h.sheetCardW - 48) 80 then
    if h.scan.selectedSsid.text ≠ [] then h.wifiForget h.scan.selectedSsid.text sys else h
  else h

/-- A tap on the list: leave it, scan again, or select a row. -/
def tapList (x y y0 : Int) (sys : Sys) (h : Hud) : Hud :=
  let cx := sheetCardX
  let cw := h.sheetCardW
  if hit x y cx y0 cw h.sheetCardH = false then
    if h.join.connecting then h else { h with ui.sheetTgt := .none }
  else if hit x y (cx + 20) (y0 + 108) 220 80 then
    if h.join.connecting then h else { h with ui.sheetTgt := .none }
  else if hit x y (cx + cw - 240) (y0 + 108) 220 80 then
    if h.join.connecting then h
    else
      let h := h.wifiScan sys
      h.setStatus (h.T "正在扫描…" "Scanning…")
  else match h.tapRow x y y0 with
    | some i => h.tapSelect i
    | none => h

/-- A tap on the home sheet: the card of the network opens the list. -/
def tapHome (x y : Int) (sys : Sys) (h : Hud) : Hud :=
  if hit x y 40 wifiCardY (h.ui.W - 80) h.wifiCardH then
    if h.wifiIsAssoc ∧ h.wifi.connected = false then h
    else
      let h := { h with ui.sheetTgt := .list }
      if h.scan.aps = [] then h.wifiScan sys else h
  else h

/-- `tap` -/
def tap (x y : Int) (sys : Sys) (h : Hud) : Hud :=
  let y0 := h.sheetY0
  let shown := h.ui.sheetT
  let h := h.observe (.tap x y)
  if shown < 45 / 100 ∧ h.hitLang x y then h.tapLang
  else if 1 / 2 < shown ∧ h.ui.sheetTgt = .pass then h.tapPass x y y0 sys
  else if 1 / 2 < shown ∧ h.ui.sheetTgt = .detail then h.tapDetail x y y0 sys
  else if 45 / 100 < shown ∧ h.ui.sheetTgt = .list then h.tapList x y y0 sys
  else h.tapHome x y sys

end Hud

end Ginkgo
