import Ginkgo.Flow.View

/-!
# What an event asks of the network

The user reaches the network through four functions: `wifi_submit_pass`, `wifi_join_picked`,
`wifi_forget` and `wifi_scan`. `Ginkgo.Hud.request` is the one that an event calls, if it calls
any, and an event of an input device does nothing else to the network state
(`Ginkgo.Hud.input_performs`).
-/

namespace Ginkgo

open CText

/-- A call that reaches the network. -/
inductive Request where
  | submit
  | join
  | forget (ssid : Buf 96)
  | scan
  deriving DecidableEq

/-- The call is `wifi_submit_pass` or `wifi_join_picked`. -/
def Request.asks : Request → Bool
  | .submit => true
  | .join => true
  | .forget _ => false
  | .scan => false

namespace Hud

/-- The call is made. -/
def perform (sys : Sys) (request : Option Request) (h : Hud) : Hud :=
  match request with
  | none => h
  | some .submit => h.wifiSubmitPass sys
  | some .join => h.wifiJoinPicked sys
  | some (.forget ssid) => h.wifiForget ssid.text sys
  | some .scan => h.wifiScan sys

/-! ## What a tap asks for -/

/-- What a tap on the password sheet asks for. -/
def passRequest (x y y0 : Int) (h : Hud) : Option Request :=
  if hit x y 40 (y0 + 304) 200 80 then none
  else if hit x y (h.ui.W - 280) (y0 + 304) 240 80 then some .submit
  else none

/-- What a tap on a network's own sheet asks for. -/
def detailRequest (x y y0 : Int) (h : Hud) : Option Request :=
  let joinY := y0 + h.sheetCardH - 280
  let forgetY := y0 + h.sheetCardH - 176
  if hit x y (sheetCardX + 24) (y0 + 108) 220 80 then none
  else if hit x y (sheetCardX + 24) joinY (h.sheetCardW - 48) 80 then some .join
  else if hit x y (sheetCardX + 24) forgetY (h.sheetCardW - 48) 80 then
    if h.scan.selectedSsid.text ≠ [] then some (.forget h.scan.selectedSsid) else none
  else none

/-- What a tap on the list asks for. -/
def listRequest (x y y0 : Int) (h : Hud) : Option Request :=
  let cw := h.sheetCardW
  if hit x y sheetCardX y0 cw h.sheetCardH = false then none
  else if hit x y (sheetCardX + 20) (y0 + 108) 220 80 then none
  else if hit x y (sheetCardX + cw - 240) (y0 + 108) 220 80 then
    if h.join.connecting then none else some .scan
  else none

/-- What a tap on the home sheet asks for. -/
def homeRequest (x y : Int) (h : Hud) : Option Request :=
  if hit x y 40 wifiCardY (h.ui.W - 80) h.wifiCardH then
    if h.wifiIsAssoc ∧ h.wifi.connected = false then none
    else if h.scan.aps = [] then some .scan
    else none
  else none

/-- What a tap asks for. -/
def tapRequest (x y : Int) (h : Hud) : Option Request :=
  let y0 := h.sheetY0
  let shown := h.ui.sheetT
  if shown < 45 / 100 ∧ h.hitLang x y then none
  else if 1 / 2 < shown ∧ h.ui.sheetTgt = .pass then h.passRequest x y y0
  else if 1 / 2 < shown ∧ h.ui.sheetTgt = .detail then h.detailRequest x y y0
  else if 45 / 100 < shown ∧ h.ui.sheetTgt = .list then h.listRequest x y y0
  else h.homeRequest x y

end Hud

/-- What the end of a contact asks for. -/
def ContactEnd.request (c : ContactEnd) : Option Request :=
  if c.committed.osk.held then
    match c.activation with
    | some (k, _) => if k.kind = .go then some .submit else none
    | none => none
  else if c.isTap then c.committed.tapRequest c.point.1 c.point.2
  else none

namespace Hud

/-- The end of a contact that a part of the main loop brings. -/
def contactEnd (h : Hud) : Event → Option ContactEnd
  | .input input => h.evEnd input.dev input.ev input.env
  | _ => none

/-- What an event asks for. -/
def request (h : Hud) (event : Event) : Option Request :=
  (h.contactEnd event).bind ContactEnd.request

/-- **The user acts**: an event calls `wifi_submit_pass` or `wifi_join_picked`. -/
def asks (h : Hud) (event : Event) : Bool := (h.request event).any Request.asks

/-- The network state changes by what is asked for. -/
def Performs (request : Option Request) (h h' : Hud) : Prop :=
  ∃ sys g, Still h g ∧ Still (g.perform sys request) h'

namespace Performs

variable {h h' h'' : Hud} {request : Option Request}

/-- Nothing is asked for when the network state is left alone. -/
theorem still (same : Still h h') : Performs none h h' := ⟨⟨.noNmcli, true⟩, h, .refl h, same⟩

/-- A call performs itself. -/
theorem of_eq (sys : Sys) (request : Option Request) (h : Hud) :
    Performs request h (h.perform sys request) := ⟨sys, h, .refl h, .refl _⟩

/-- What leaves the network state alone may come first. -/
theorem after (performs : Performs request h' h'') (first : Still h h') :
    Performs request h h'' := by
  obtain ⟨sys, g, before, after⟩ := performs
  exact ⟨sys, g, first.trans before, after⟩

theorem trans (performs : Performs request h h') (last : Still h' h'') :
    Performs request h h'' := by
  obtain ⟨sys, g, before, after⟩ := performs
  exact ⟨sys, g, before, after.trans last⟩

theorem ite {condition : Prop} [Decidable condition] {yes no : Option Request} {h₁ h₂ : Hud}
    (first : condition → Performs yes h h₁) (second : ¬condition → Performs no h h₂) :
    Performs (if condition then yes else no) h (if condition then h₁ else h₂) := by
  by_cases holds : condition
  · rw [if_pos holds, if_pos holds]
    exact first holds
  · rw [if_neg holds, if_neg holds]
    exact second holds

/-- Where nothing is asked for, the two branches only have to be still. -/
theorem quiet {condition : Prop} [Decidable condition] {h₁ h₂ : Hud} (first : Still h h₁)
    (second : Still h h₂) : Performs none h (if condition then h₁ else h₂) :=
  .still (.ite first second)

end Performs

/-- The key that joins asks for a join. -/
theorem oskActivate_performs (h : Hud) (k : OskKey) (sys : Sys) :
    Performs (if k.kind = .go then some .submit else none) h (h.oskActivate k sys) := by
  obtain ⟨ch, kind, x, y, w, height⟩ := k
  cases kind with
  | char => exact .still ((h.oskFeed_still ch).trans (.ite rfl (.refl _)))
  | shift => exact .still rfl
  | sym => exact .still rfl
  | more => exact .still rfl
  | space => exact .still (h.oskFeed_still 32)
  | bksp => exact .still h.oskErase_still
  | go => exact .of_eq sys (some .submit) h

/-- What is done on the password sheet is what the tap asks for. -/
theorem tapPass_performs (h : Hud) (x y y0 : Int) (sys : Sys) :
    Performs (h.passRequest x y y0) h (h.tapPass x y y0 sys) :=
  .ite (fun _ => .still rfl) fun _ => .ite (fun _ => .of_eq sys (some .submit) h) fun _ =>
    .still (.refl h)

/-- So it is on a network's own sheet. -/
theorem tapDetail_performs (h : Hud) (x y y0 : Int) (sys : Sys) :
    Performs (h.detailRequest x y y0) h (h.tapDetail x y y0 sys) := by
  refine .ite (fun _ => .quiet (.refl h) rfl) fun _ => .ite (fun _ => .of_eq sys (some .join) h)
    fun _ => .ite (fun _ => ?_) fun _ => .still (.refl h)
  exact .ite (fun _ => .of_eq sys (some (.forget h.scan.selectedSsid)) h) fun _ =>
    .still (.refl h)

theorem tapList_performs (h : Hud) (x y y0 : Int) (sys : Sys) :
    Performs (h.listRequest x y y0) h (h.tapList x y y0 sys) := by
  have closed : Performs none h (if h.join.connecting then h else { h with ui.sheetTgt := .none }) :=
    .quiet (.refl h) rfl
  refine .ite (fun _ => closed) fun _ => .ite (fun _ => closed) fun _ =>
    .ite (fun _ => ?_) fun _ => ?_
  · exact .ite (fun _ => .still (.refl h)) fun _ => (Performs.of_eq sys (some .scan) h).trans rfl
  · cases h.tapRow x y y0 with
    | none => exact .still (.refl h)
    | some i => exact .still (h.tapSelect_still i)

/-- So it is on the home sheet. -/
theorem tapHome_performs (h : Hud) (x y : Int) (sys : Sys) :
    Performs (h.homeRequest x y) h (h.tapHome x y sys) := by
  refine .ite (fun _ => .ite (fun _ => .still (.refl h)) fun _ => ?_) fun _ => .still (.refl h)
  have opened : Still h { h with ui.sheetTgt := .list } := rfl
  exact .ite (fun _ => (Performs.of_eq sys (some .scan) _).after opened) fun _ => .still opened

/-- **What a tap does to the network state is what it asks for.** -/
theorem tap_performs (h : Hud) (x y : Int) (sys : Sys) :
    Performs (h.tapRequest x y) h (h.tap x y sys) := by
  have noted : Still h (h.observe (.tap x y)) := rfl
  refine .ite (fun _ => .still (noted.trans (tapLang_still _))) fun _ =>
    .ite (fun _ => ?_) fun _ => .ite (fun _ => ?_) fun _ => .ite (fun _ => ?_) fun _ => ?_
  · exact ((h.observe (.tap x y)).tapPass_performs x y _ sys).after noted
  · exact ((h.observe (.tap x y)).tapDetail_performs x y _ sys).after noted
  · exact ((h.observe (.tap x y)).tapList_performs x y _ sys).after noted
  · exact ((h.observe (.tap x y)).tapHome_performs x y sys).after noted

/-- The end of a contact does to the network state what it asks for. -/
theorem up_performs (c : ContactEnd) : Performs c.request c.hud c.up := by
  refine Performs.after ?_ c.committed_handles.still
  rw [c.up_eq]
  unfold ContactEnd.request
  refine .ite (fun held => ?_) fun _ => .ite (fun _ => c.committed.tap_performs _ _ _) fun _ =>
    .still (.refl _)
  simp only
  cases found : c.activation with
  | none =>
      have laid := c.committed.layoutKeys_handles.still
      generalize c.committed.layoutKeys = g at laid ⊢
      exact .still (laid.trans rfl)
  | some pressed =>
      obtain ⟨k, g⟩ := pressed
      have laid : g = c.committed.layoutKeys := by
        rw [ContactEnd.activation, if_pos held] at found
        simp only [Option.map_eq_some_iff, Prod.mk.injEq] at found
        obtain ⟨_, -, -, same⟩ := found
        exact same.symm
      subst laid
      refine Performs.after ?_ c.committed.layoutKeys_handles.still
      exact (oskActivate_performs _ k c.env.sys).trans rfl

/-- **An event of an input device does to the network state what it asks for.** -/
theorem input_performs (h : Hud) (input : Input) :
    Performs (h.request (.input input)) h (h.step (.input input)) := by
  change Performs ((h.evEnd input.dev input.ev input.env).bind ContactEnd.request) h
    (h.handleEv input.dev input.ev input.env)
  cases found : h.evEnd input.dev input.ev input.env with
  | none => exact .still (handleEv_handles found).still
  | some c =>
      obtain ⟨before, after⟩ := handleEv_ends found
      exact ((up_performs c).after before.still).trans after.still

end Hud

end Ginkgo
