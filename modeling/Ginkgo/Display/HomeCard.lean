import Ginkgo.Reports.Signal

/-!
# The signal on the home card

While a network is connected, `draw_home` of `ginkgo-status.c` says under its name how strong it
is: the percentage, the level when there is one, and the band of `fmt_band`. `Ginkgo.SignalLine`
is that line before it is printed; the rest of the home screen is left out.
-/

namespace Ginkgo

open CText Transition

/-- `fmt_band`, in the 24 bytes of the callers. -/
def fmtBand (freq : Text) : Buf 24 :=
  let mhz := atoi freq
  if 4900 ≤ mhz then .print 24 (txt "5 GHz")
  else if 2000 ≤ mhz then .print 24 (txt "2.4 GHz")
  else if freq ≠ [] then .print 24 freq
  else .empty 24

/-- What the card says of the signal. -/
structure SignalLine where
  pct : Int
  dbm : Option Int
  band : Buf 24
  deriving DecidableEq

/-- The line as it is printed. -/
def SignalLine.text (line : SignalLine) : Buf 160 :=
  let pct := decimal line.pct ++ txt "%"
  let band := txt "  ·  " ++ line.band.text
  match line.dbm with
  | some dbm =>
      let level := txt "  ·  " ++ decimal dbm ++ txt " dBm"
      if line.band.text ≠ [] then .print 160 (pct ++ level ++ band) else .print 160 (pct ++ level)
  | none => if line.band.text ≠ [] then .print 160 (pct ++ band) else .print 160 pct

namespace Hud

/-- What `draw_home` says of the signal. -/
def homeSignal (h : Hud) : Option SignalLine :=
  if h.wifiIsJoining then none
  else if h.wifi.connected then some ⟨h.wifi.signal, h.shownDbm, fmtBand h.wifi.freq.text⟩
  else none

variable {h h' : Hud}

/-- A line with a level stands for a live reading of the gauge. -/
theorem Displays.reading {gauge : SignalGauge} (displays : h.Displays gauge) {line : SignalLine}
    (shown : line ∈ h.homeSignal) {dbm : Int} (level : dbm ∈ line.dbm) :
    gauge.shown = line.pct ∧ ∃ reading ∈ gauge.live, reading.1 = dbm := by
  unfold homeSignal at shown
  split_ifs at shown
  · cases shown
  · cases shown
    refine ⟨displays.shown, Option.map_eq_some_iff.mp ?_⟩
    rwa [displays.live]
  · cases shown

/-- **Live RSSI wins.** In every reachable state with a level the percentage is the level's. So
it is on the home card, and there a higher level never stands next to a lower percentage. -/
theorem live_rssi_wins (reachable : h.Reachable) (reachable' : h'.Reachable) :
    (h.wifi.signalDbm < 0 →
      h.wifi.signal = rssiToPct h.wifi.signalDbm ∧ -120 ≤ h.wifi.signalDbm) ∧
    (∀ line ∈ h.homeSignal, ∀ dbm ∈ line.dbm, line.pct = rssiToPct dbm) ∧
    ∀ line ∈ h.homeSignal, ∀ line' ∈ h'.homeSignal, ∀ dbm ∈ line.dbm, ∀ dbm' ∈ line'.dbm,
      dbm ≤ dbm' → line.pct ≤ line'.pct := by
  obtain ⟨gauge, displays⟩ := reachable.displays
  obtain ⟨gauge', displays'⟩ := reachable'.displays
  refine ⟨fun live => ?_, fun line shown dbm level => ?_, ?_⟩
  · have level := displays.live
    rw [shownDbm, if_pos live] at level
    obtain ⟨reading, member, same⟩ := Option.map_eq_some_iff.mp level
    rw [← same, ← displays.shown]
    exact ⟨gauge.measured reading member, reading.2.1⟩
  · obtain ⟨pct, reading, member, rfl⟩ := displays.reading shown level
    rw [← pct]
    exact gauge.measured reading member
  · intro line shown line' shown' dbm level dbm' level' le
    obtain ⟨pct, reading, member, rfl⟩ := displays.reading shown level
    obtain ⟨pct', reading', member', rfl⟩ := displays'.reading shown' level'
    rw [← pct, ← pct']
    exact Gauge.shown_mono (fun _ _ => rssiToPct_mono) member member' le

/-- A phone that starts where a network can be found. -/
def indoorBoot : Boot := { W := 1080, H := 2340, sys := forks }

/-- Its jobs end one after the other: a scan list, a device list and a link report. -/
def measuredFrames : List Frame :=
  [iterationAt 10 [] (.ended "" 0 forks),
    iterationAt 20 [] (.ended "Home:30:WPA2:5180 MHz:yes" 0 forks),
    iterationAt 30 [] (.ended "wlan0:wifi:connected:Home" 0 forks),
    iterationAt 40 [] (.ended "\tSSID: Home\n\tfreq: 5180\n\tsignal: -60 dBm" 0 forks)]

/-- Then the kernel measures a stronger signal. -/
def strongerFrames : List Frame :=
  measuredFrames ++ [{ iterationAt 50 [] (.running forks) with
    sample := some { wireless := some (40, -50) } }]

/-- The reading of the kernel is what the card shows. -/
theorem live_rssi_wins_home :
    let h := run step indoorBoot.hud (loopEvents measuredFrames)
    let h' := run step indoorBoot.hud (loopEvents strongerFrames)
    h.wifi.signal = rssiToPct (-60) ∧
      ∃ line ∈ h.homeSignal, ∃ line' ∈ h'.homeSignal,
        line.text.text = txt "88%  ·  -60 dBm  ·  5 GHz" ∧
          line'.text.text = txt "100%  ·  -50 dBm  ·  5 GHz" ∧ line.pct ≤ line'.pct := by
  intro h h'
  have level : h.wifi.signalDbm = -60 := by
    decide +kernel
  have shown : h.homeSignal = some ⟨88, some (-60), .print 24 (txt "5 GHz")⟩ := by
    decide +kernel
  have shown' : h'.homeSignal = some ⟨100, some (-50), .print 24 (txt "5 GHz")⟩ := by
    decide +kernel
  obtain ⟨wins, -, grows⟩ := @live_rssi_wins h h' ⟨_, _, rfl⟩ ⟨_, _, rfl⟩
  rw [level] at wins
  refine ⟨(wins (by decide)).1, _, shown, _, shown', by decide +kernel, by decide +kernel, ?_⟩
  exact grows _ shown _ shown' _ rfl _ rfl (by decide)

end Hud

end Ginkgo
