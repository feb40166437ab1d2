import Ginkgo.Flow.Exclusive

/-!
# A forgotten network stays out of sight

While a forget is held, the forgotten network is presented neither as the live one nor as an
active row of the scan list (`Ginkgo.Hud.Concealed`). Each writer keeps that: a live name that
is the forgotten one is ignored, another name releases the hold, a scan lists the forgotten
network as inactive, and a confirmed join marks the live network, which is another one.
`Ginkgo.Hud.forgotten_concealed` is the statement for every run. The rows of a scan hold names
shorter than their arrays; a longer name is cut off only after it has been compared.
-/

namespace Ginkgo

open CText Transition

/-- The names in a scan report are shorter than the arrays they are copied to. -/
def ShortNames (report : Text) : Prop :=
  ∀ line ∈ lines (if Hud.scanError report then cutAt newline report else report),
    ∀ name ∈ (splitFields 8 line).head?, (unescape name).length < 96

instance (report : Text) : Decidable (ShortNames report) :=
  inferInstanceAs (Decidable (∀ line ∈ _, ∀ name ∈ _, _))

namespace Hud

/-- **The forgotten network is not presented as current.** -/
def ForgottenHidden (h : Hud) : Prop :=
  h.forget.forgetSsid.text ≠ [] →
    h.wifi.ssid.text ≠ h.forget.forgetSsid.text ∧ h.apIsCurrent h.forget.forgetSsid.text = false

/-- **No row of the forgotten network is marked as in use.** -/
def ForgottenUnmarked (h : Hud) : Prop :=
  h.forget.forgetSsid.text ≠ [] →
    ∀ ap ∈ h.scan.aps, ap.ssid.text = h.forget.forgetSsid.text → ap.active = false

/-- A scan report that the event completes has short names. -/
def ScansShortNames (h : Hud) : Event → Prop
  | .poll poll =>
      poll.exit ≠ none → h.job.pid ≠ none → h.job.kind = .scan → ShortNames (h.collected poll)
  | _ => True

instance (h : Hud) (event : Event) : Decidable (h.ScansShortNames event) :=
  match event with
  | .poll _ => inferInstanceAs (Decidable (_ → _ → _ → _))
  | .input _ | .idleOff _ | .confirm _ | .animate _ | .render | .sample _ | .kick _
  | .schedule _ _ => .isTrue trivial

/-- What the invariant is about: the live name, and the rows where the scans are tidy. -/
structure Concealed (tidy : Prop) (h : Hud) : Prop where
  live : h.forget.forgetSsid.text ≠ [] → h.wifi.ssid.text ≠ h.forget.forgetSsid.text
  rows : tidy → h.forget.forgetSsid.text ≠ [] → ∀ row ∈ h.rows,
    row.1.text = h.forget.forgetSsid.text → row.2 = false

/-- Its live name is not the forgotten one. -/
theorem Concealed.hidden {tidy : Prop} {h : Hud} (concealed : Concealed tidy h) :
    h.ForgottenHidden := by
  intro held
  refine ⟨concealed.live held, ?_⟩
  unfold apIsCurrent
  rw [if_pos (gwSsidEq_iff.mpr ⟨held, rfl⟩)]

/-- Where the scans are tidy, its rows are not either. -/
theorem Concealed.unmarked {tidy : Prop} {h : Hud} (concealed : Concealed tidy h) (holds : tidy) :
    h.ForgottenUnmarked := by
  intro held ap member named
  exact concealed.rows holds held (ap.ssid, ap.active) (List.mem_map.mpr ⟨ap, member, rfl⟩) named

/-- A change that takes names and marks away but brings none. -/
structure Fades (h h' : Hud) : Prop where
  hold : h'.forget.forgetSsid = h.forget.forgetSsid ∨ h'.forget.forgetSsid = .empty 96
  live : h'.wifi.ssid = h.wifi.ssid ∨ h'.wifi.ssid = .empty 96
  rows : ∀ row ∈ h'.rows, row ∈ h.rows ∨ row.2 = false

/-- The rows of a name that is marked inactive. -/
theorem markApInactive_rows (h : Hud) (ssid : Text) :
    ∀ row ∈ (h.markApInactive ssid).rows, row ∈ h.rows ∧ row.1.text ≠ ssid ∨ row.2 = false := by
  intro row member
  obtain ⟨changed, listed, rfl⟩ := List.mem_map.mp member
  obtain ⟨ap, inside, rfl⟩ := List.mem_map.mp listed
  split
  · exact .inr rfl
  · next other =>
      rw [not_or] at other
      exact .inl ⟨List.mem_map.mpr ⟨ap, inside, rfl⟩, other.2⟩

/-- A device list fades. -/
theorem applyInfo_fades (h : Hud) (now : Nat) (seen : InfoScan) :
    Fades h (h.applyInfo now seen) := by
  obtain ⟨wifi, hold, tAssoc, same, released, live⟩ := h.applyInfo_writes now seen
  rw [same]
  exact ⟨released, live, fun _ => .inl⟩

/-- Dropping a password fades. -/
theorem forgetPsk_fades (h : Hud) (ssid : Text) : Fades h (h.forgetPsk ssid) := by
  unfold forgetPsk
  split <;> exact ⟨.inl rfl, .inl rfl, fun _ => .inl⟩

/-- So does the end of a forget. -/
theorem forgetDone_fades (h : Hud) (rc : Nat) (out : Text) : Fades h (h.forgetDone rc out) := by
  obtain ⟨wifi, tAssoc, aps, active, ssid, psk, sheet, line, want, same, live, marked, -⟩ :=
    h.forgetDone_writes rc out
  rw [same]
  refine ⟨.inl rfl, live, fun row member => ?_⟩
  change row ∈ aps.map _ at member
  rcases marked with rfl | ⟨name, rfl⟩
  · exact .inl member
  · rcases h.markApInactive_rows name row member with ⟨kept, -⟩ | inactive
    · exact .inl kept
    · exact .inr inactive

namespace Concealed

variable {tidy : Prop} {h g g' : Hud} {event : Event} {ssid : Arg}

/-- Without a hold nothing is concealed. -/
theorem of_released (released : g.forget.forgetSsid = .empty 96) : Concealed tidy g := by
  have empty : g.forget.forgetSsid.text = [] := by rw [released]; exact Buf.empty_text
  exact ⟨fun held => absurd empty held, fun _ held => absurd empty held⟩

/-- What fades stays concealed. -/
theorem fade (fades : Fades g g') (concealed : Concealed tidy g) : Concealed tidy g' := by
  rcases fades.hold with same | empty
  · refine ⟨fun held => ?_, fun holds held row member named => ?_⟩
    · rw [same] at held ⊢
      rcases fades.live with kept | cleared
      · rw [kept]
        exact concealed.live held
      · rw [cleared]
        exact fun equal => held equal.symm
    · rw [same] at held named
      rcases fades.rows row member with kept | inactive
      · exact concealed.rows holds held row kept named
      · exact inactive
  · exact of_released empty

/-- What leaves the network state alone keeps the forgotten network concealed. -/
theorem congr (same : Still g g') (concealed : Concealed tidy g) : Concealed tidy g' := by
  refine concealed.fade ⟨.inl ?_, .inl (congrArg NetView.ssid same), fun row member => .inl ?_⟩
  · exact congrArg (fun view : NetView => view.forget.forgetSsid) same
  · have rows : g'.rows = g.rows := congrArg NetView.rows same
    exact rows ▸ member

/-- A child that is started does. -/
theorem launched (launches : Launches g g') (concealed : Concealed tidy g) : Concealed tidy g' := by
  refine concealed.fade ⟨.inl ?_, .inl launches.live, fun row member => .inl ?_⟩
  · rw [launches.forget]
  · exact launches.rows ▸ member

/-- A call of `wifi_connect` releases the hold. -/
theorem connected (connects : Connects ssid g g') : Concealed tidy g' :=
  of_released (by rw [connects.forget])

/-- **A reported name**: the forgotten one is ignored, and another one releases the hold. -/
theorem name (concealed : Concealed tidy g) (s : Text) : Concealed tidy (g.applyWifiSsid s) := by
  unfold applyWifiSsid
  simp only
  split
  · exact concealed
  · split
    · exact concealed
    · split
      · exact concealed
      · generalize reportedSsid (skipBlanks s) = tmp
        by_cases releases : g.forget.forgetSsid.text ≠ [] ∧ tmp ≠ []
        · rw [if_pos releases]
          split <;> exact of_released rfl
        · rw [if_neg releases]
          split
          · exact concealed
          · refine ⟨fun held equal => ?_, concealed.rows⟩
            have nameless : tmp = [] := by
              by_contra named
              exact releases ⟨held, named⟩
            rw [nameless] at equal
            exact held equal.symm

/-- A name that is brought keeps the forgotten network concealed. -/
theorem named (named : Named g g') (concealed : Concealed tidy g) : Concealed tidy g' := by
  cases named with
  | still same => exact concealed.congr same
  | named s k before after => exact ((concealed.congr before).name s).congr after

/-- A row with a short name that is listed as active is not the forgotten one. -/
theorem parseScanRow_inactive {held line : Text} {ap : Ap}
    (parsed : parseScanRow held line = some ap)
    (short : ∀ name ∈ (splitFields 8 line).head?, (unescape name).length < 96)
    (nonempty : held ≠ []) (forgotten : ap.ssid.text = held) : ap.active = false := by
  unfold parseScanRow at parsed
  split at parsed
  · next name signal sec fourth rest fields =>
      split at parsed
      · cases parsed
      · cases parsed
        have fits : (unescape name).length < 96 := short name (by rw [fields]; rfl)
        rw [Buf.print_of_lt fits] at forgotten
        have same : gwSsidEq held (unescape name) = true :=
          gwSsidEq_iff.mpr ⟨nonempty, forgotten.symm⟩
        simp [same]
  · cases parsed

/-- **A scan** lists the forgotten network as inactive. -/
theorem scan (concealed : Concealed tidy g) {report : Text} (short : tidy → ShortNames report) :
    Concealed tidy (g.parseScan report) := by
  obtain ⟨k, told, found⟩ := g.parseScan_named report
  apply named found
  have before := concealed.congr told
  refine ⟨before.live, fun holds held row member forgotten => ?_⟩
  obtain ⟨ap, listed, rfl⟩ := List.mem_map.mp member
  obtain ⟨line, inside, parsed⟩ := List.mem_filterMap.mp (List.mem_of_mem_take listed)
  exact parseScanRow_inactive parsed (short holds line inside) held forgotten

/-- **A forget** conceals the network it forgets. -/
theorem forget (concealed : Concealed tidy g) (ssid : Buf 96) (sys : Sys) :
    Concealed tidy (g.wifiForget ssid.text sys) := by
  have begun : Concealed tidy (g.beginForget ssid.text) := by
    have held := (g.beginForget_forgets ssid.text).forget
    have hold : (g.beginForget ssid.text).forget.forgetSsid.text = ssid.text := by
      rw [held, Buf.print_text]
    constructor
    · rw [hold]
      intro named
      unfold beginForget
      simp only
      split
      · exact fun equal => named equal.symm
      · next other => exact fun equal => other (gwSsidEq_iff.mpr ⟨equal ▸ named, equal⟩)
    · rw [hold]
      intro _ named row member forgotten
      have rows : (g.beginForget ssid.text).rows = (g.markApInactive ssid.text).rows := by
        unfold beginForget
        simp only
        split <;> rfl
      rcases g.markApInactive_rows ssid.text row (rows ▸ member) with ⟨-, other⟩ | inactive
      · exact absurd forgotten other
      · exact inactive
  rcases g.wifiForget_cases ssid.text sys with same | ⟨-, k, launches, -, argv, started, -, ends⟩
  · rw [same]
    exact concealed
  · have launched := begun.launched launches
    rcases ends with ⟨-, -, same⟩ | ⟨-, -, same⟩
    · rw [same]
      exact launched
    · rw [same]
      exact ⟨launched.live, launched.rows⟩

/-- **A confirmed join** marks the live network, which is not the forgotten one. -/
theorem confirm (concealed : Concealed tidy g)
    (up : gwJoinConfirmOk g.wifi.connected g.wifi.ssid.text g.bufs.connectSsid.text = true) :
    Concealed tidy (g.markApActive g.bufs.connectSsid.text) := by
  unfold markApActive
  split
  · exact concealed
  · refine ⟨concealed.live, fun _ held row member forgotten => ?_⟩
    obtain ⟨changed, listed, rfl⟩ := List.mem_map.mp member
    obtain ⟨ap, inside, rfl⟩ := List.mem_map.mp listed
    have live : g.wifi.ssid.text = g.bufs.connectSsid.text := by
      simp only [gwJoinConfirmOk, gwAlreadyOn, Bool.and_eq_true] at up
      exact (gwSsidEq_iff.mp up.2).2
    have other := concealed.live held
    rw [live] at other
    exact decide_eq_false fun same => other (same.symm.trans forgotten)

/-- **Every change keeps the forgotten network concealed.** -/
theorem effect (short : tidy → h.ScansShortNames event) (effect : Effect h event g g')
    (exclusive : Exclusive g) (concealed : Concealed tidy g) : Concealed tidy g' := by
  cases effect with
  | still same => exact concealed.congr same
  | submitted sys asked same =>
      cases g.wifiSubmitPass_submits sys with
      | refused same => exact concealed.congr same
      | queued k free busy prepared launches slot past =>
          refine (concealed.fade ⟨.inl ?_, .inl prepared.live, fun row member => .inl ?_⟩).launched
            launches
          · rw [prepared.forget]
          · exact prepared.rows ▸ member
      | called ssid k free idle prepared connects => exact connected connects
  | joined sys asked same =>
      rcases g.wifiJoinPicked_cases sys with still | ⟨idle, free, connects⟩
      · exact concealed.congr still
      · exact connected connects
  | forgot ssid sys asked same => exact concealed.forget ssid sys
  | reported kind argv spawn other nor =>
      exact concealed.launched (g.startNmcli_launches kind argv spawn)
  | named s => exact concealed.name s
  | closed => exact ⟨concealed.live, concealed.rows⟩
  | informed now seen => exact concealed.fade (g.applyInfo_fades now seen)
  | listed poll exit polled ended running kind =>
      subst polled
      exact concealed.scan fun holds => short holds (by rw [ended]; simp) running kind
  | waited failed waits => exact ⟨concealed.live, concealed.rows⟩
  | confirmed up => exact concealed.confirm up
  | ended out running => exact ⟨concealed.live, concealed.rows⟩
  | succeeded out now running => exact ⟨concealed.live, concealed.rows⟩
  | dropped ssid => exact concealed.fade (g.forgetPsk_fades ssid)
  | retried rc out sys running decided =>
      exact connected (connectRetryPsk_connects decided sys)
  | forgetEnded rc out running kind =>
      have closed : Concealed tidy g.closeJob := ⟨concealed.live, concealed.rows⟩
      exact closed.fade (g.closeJob.forgetDone_fades rc out)
  | requeued sys wants =>
      rw [exclusive.unasked] at wants
      cases wants
  | kicked sys free wants =>
      rcases wifiConnect_cases { g with join.wantConnect := false } (.var .pendSsid)
        (.var .pendPass) (.var .pendSec) sys with same | called
      · rw [same]
        exact ⟨concealed.live, concealed.rows⟩
      · exact connected called

end Concealed

/-- **A forgotten network stays out of sight.** In every state of every run, the network that a
held forget names is neither the live one nor the current one; and no row of that name is active
when the scan reports carry names shorter than 96 bytes. -/
theorem forgotten_concealed (boot : Boot) (events : List Event) :
    Always step ForgottenHidden boot.hud events ∧
      (EachStep step ScansShortNames boot.hud events →
        Always step ForgottenUnmarked boot.hud events) := by
  generalize scans : EachStep step ScansShortNames boot.hud events = tidy
  have initial : Concealed tidy boot.hud := by
    refine boot.hud_keeps (fun _ _ same before => before.congr same)
      (fun g argv spawn before => ?_) ?_
    · exact before.launched (g.startNmcli_launches .radio argv spawn)
    · exact .of_released rfl
  have short : EachStep step (fun h event => tidy → h.ScansShortNames event) boot.hud events := by
    refine EachStep.under fun holds => ?_
    rw [scans]
    exact holds
  have always : Always step (fun h => Exclusive h ∧ Concealed tidy h) boot.hud events :=
    always_of_effects boot initial
      (fun h event _ _ meets g g' effect exclusive before => before.effect meets effect exclusive)
      short
  constructor
  · exact always.mono fun _ both => both.2.hidden
  · intro holds
    exact always.mono fun _ both => both.2.unmarked holds

/-- The start of the program on a phone with a wireless interface. -/
def homeBoot : Boot where
  W := 1080
  H := 2340
  sys := { spawn := .child 7 }
  sample := { ifaceFound := some (txt "wlan0") }

/-- The phone is on the network Home, and the user has opened its sheet. -/
def homeFrames : List Frame :=
  [iterationAt 2 [] (.ended "" 0 forks),
    iterationAt 4 [] (.ended "Home:70:WPA2:2412 MHz:yes\nCafe:60::2412 MHz:no" 0 forks),
    iterationAt 6 [] (.ended "wlan0:wifi:connected:Home" 0 forks),
    iterationAt 8 [] (.ended "SSID: Home" 0 forks),
    iterationAt 12 (tapAt 500 400 10) (.running forks),
    iterationAt 22 (tapAt 510 450 20) (.running forks)]

/-- The user asks to forget the network. -/
def forgetFrame (spawn : Spawn) : Frame :=
  iterationAt 32 (tapInputs (.slotted 1080 2340) 500 2200 3000000000 { spawn }) (.running forks)

/-- The network is forgotten, and the next scan still lists it as the one in use. -/
def forgottenFrames : List Frame :=
  homeFrames ++ [forgetFrame (.child 7), iterationAt 34 [] (.ended "" 0 forks),
    iterationAt 36 [] (.ended "Home:70:WPA2:2412 MHz:yes" 0 forks)]

/-- The network Home stays out of sight after it has been forgotten. -/
theorem forgotten_concealed_home :
    Always step ForgottenHidden homeBoot.hud (loopEvents forgottenFrames) ∧
      Always step ForgottenUnmarked homeBoot.hud (loopEvents forgottenFrames) ∧
      (run step homeBoot.hud (loopEvents forgottenFrames)).forget.forgetSsid.text = txt "Home" :=
  have concealed := forgotten_concealed homeBoot (loopEvents forgottenFrames)
  ⟨concealed.1, concealed.2 (by decide +kernel), by decide +kernel⟩

end Hud

end Ginkgo
