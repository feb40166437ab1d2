import Ginkgo.CText.Decimal
import Ginkgo.CText.Fgets
import Ginkgo.Touch.Brightness

/-!
# The configuration file

`save_hud_conf` writes the language and the brightness that is kept, and `load_hud_conf` reads them
line by line when the HUD starts. What a start is given of the file (`Ginkgo.confOf`) is what the
reading does (`Ginkgo.Hud.readHudConf_eq`), and a HUD that starts from a saved file comes up with
the language and the brightness of the one that has saved it.
-/

namespace Ginkgo

open CText Transition

/-- What a line of the file says, after what the lines before it have said. -/
def confLine (said : Option Bool × Option Int) (line : Text) : Option Bool × Option Int :=
  let line := cstr line
  if line.take 5 = txt "lang=" then (some (has (line.drop 5) (txt "en")), said.2)
  else if line.take 3 = txt "bl=" then (said.1, some (atoi (line.drop 3)))
  else said

/-- What the file says of the language and the brightness. -/
def confOf (file : Text) : Option Bool × Option Int := (fgetsLines 128 file).foldl confLine (none, none)

namespace Hud

/-- The body of the loop of `load_hud_conf`. -/
def loadLine (h : Hud) (line : Text) : Hud :=
  let line := cstr line
  if line.take 5 = txt "lang=" then { h with ui.langEn := has (line.drop 5) (txt "en") }
  else if line.take 3 = txt "bl=" then
    let pct := clampi (atoi (line.drop 3)) 1 100
    { h with light.blPct := pct, light.blKeep := pct }
  else h

/-- `load_hud_conf` with the file that is there. -/
def readHudConf (file : Text) (h : Hud) : Hud := (fgetsLines 128 file).foldl loadLine h

/-- What `save_hud_conf` writes. -/
def confText (h : Hud) : Text :=
  (txt "lang=" ++ if h.ui.langEn then txt "en" else txt "zh") ++
    newline :: (txt "bl=" ++ decimal (if h.light.blKeep < 1 then 80 else h.light.blKeep)) ++ [newline]

/-- A line is read after the lines before it. -/
theorem loadLine_loadHudConf (h : Hud) (said : Option Bool × Option Int) (line : Text) :
    (h.loadHudConf said.1 said.2).loadLine line =
      h.loadHudConf (confLine said line).1 (confLine said line).2 := by
  obtain ⟨lang, bl⟩ := said
  unfold loadLine confLine
  simp only
  split
  · cases lang <;> cases bl <;> rfl
  · split
    · cases lang <;> cases bl <;> rfl
    · rfl

/-- **The start gets what the reading of the file does.** -/
theorem readHudConf_eq (file : Text) (h : Hud) :
    h.readHudConf file = h.loadHudConf (confOf file).1 (confOf file).2 := by
  have all (lines : List Text) (said : Option Bool × Option Int) :
      lines.foldl loadLine (h.loadHudConf said.1 said.2) =
        h.loadHudConf (lines.foldl confLine said).1 (lines.foldl confLine said).2 := by
    induction lines generalizing said with
    | nil => rfl
    | cons line lines ih =>
        rw [List.foldl_cons, List.foldl_cons, h.loadLine_loadHudConf, ih]
  exact all (fgetsLines 128 file) (none, none)

/-! ## What is saved is read back -/

end Hud

/-- A number in a line is read up to its end. -/
theorem atoi_decimal_line {n : Nat} (small : n < 2 ^ 31) :
    atoi (decimal n ++ [newline]) = n := by
  have stops : ∀ c ∈ ([newline] : Text).head?, isDigit c = false := by
    rintro c ⟨⟩
    rfl
  have same : strtol (decimal n ++ [newline]) = strtol (decimal n) := by
    have whole := @strtol_decimal_append n [] (by simp)
    rw [strtol_decimal_append n stops, ← whole, List.append_nil]
  rw [atoi, scanInt, same]
  exact atoi_decimal small

/-- A line with the brightness. -/
theorem confLine_brightness {n : Nat} (small : n < 2 ^ 31) (said : Option Bool × Option Int) :
    confLine said (txt "bl=" ++ decimal n ++ [newline]) = (said.1, some (n : Int)) := by
  have plain : cstr (txt "bl=" ++ decimal n ++ [newline]) = txt "bl=" ++ decimal n ++ [newline] := by
    refine cstr_eq fun c member => ?_
    rintro rfl
    simp only [List.mem_append, List.mem_singleton] at member
    rcases member with (named | digit) | ended
    · exact absurd named (by decide)
    · exact absurd (isDigit_of_mem_decimal digit) (by decide)
    · exact absurd ended (by decide)
  have named : (txt "bl=" ++ decimal n ++ [newline]).take 3 = txt "bl=" := by
    rw [List.append_assoc]
    exact List.take_left' rfl
  have other : (txt "bl=" ++ decimal n ++ [newline]).take 5 ≠ txt "lang=" := by
    intro same
    have front := congrArg (List.take 3) same
    rw [List.take_take, show min 3 5 = 3 from rfl, named] at front
    exact absurd front (by decide)
  have number : (txt "bl=" ++ decimal n ++ [newline]).drop 3 = decimal n ++ [newline] := by
    rw [List.append_assoc]
    exact List.drop_left' rfl
  unfold confLine
  simp only [plain, other, ↓reduceIte, named, number, atoi_decimal_line small]

namespace Hud

/-- **What is saved is read back.** -/
theorem confOf_confText {h : Hud} (fits : Fits h.light.blKeep) :
    confOf h.confText = (some h.ui.langEn, some h.light.blKeep) := by
  obtain ⟨low, high⟩ := fits
  obtain ⟨n, kept⟩ := Int.eq_ofNat_of_zero_le (show 0 ≤ h.light.blKeep by omega)
  have most : n ≤ 100 := by omega
  have line : newline ∉ txt "bl=" ++ decimal n := by
    rw [List.mem_append, not_or]
    refine ⟨by decide, fun digit => ?_⟩
    exact absurd (isDigit_of_mem_decimal digit) (by decide)
  have short : (txt "bl=" ++ decimal n).length < 127 := by
    have := @decimal_length n (by omega)
    rw [List.length_append, show (txt "bl=").length = 3 from rfl]
    omega
  have named : newline ∉ txt "lang=" ++ (if h.ui.langEn then txt "en" else txt "zh") ∧
      (txt "lang=" ++ if h.ui.langEn then txt "en" else txt "zh").length < 127 := by
    cases h.ui.langEn <;> decide
  have text : h.confText = [txt "lang=" ++ if h.ui.langEn then txt "en" else txt "zh",
      txt "bl=" ++ decimal n].flatMap (· ++ [newline]) := by
    have least : ¬h.light.blKeep < 1 := by omega
    rw [confText, if_neg least, kept]
    simp
  have read := @fgetsLines_lines 128 [txt "lang=" ++ if h.ui.langEn then txt "en" else txt "zh",
    txt "bl=" ++ decimal n] (List.forall_mem_cons.mpr ⟨named, List.forall_mem_singleton.mpr
      ⟨line, short⟩⟩)
  rw [confOf, text, read, List.map_cons, List.map_singleton, List.foldl_cons, List.foldl_cons,
    List.foldl_nil, confLine_brightness (by omega), kept]
  cases h.ui.langEn <;> rfl

/-! ## A restart -/

/-- A report leaves the language. -/
theorem startReport_langEn (h : Hud) (kind : JobKind) (argv : List Text) {retry : Hud → Hud}
    (sys : Sys) (same : ∀ g : Hud, (retry g).ui.langEn = g.ui.langEn) :
    (h.startReport kind argv retry sys).ui.langEn = h.ui.langEn := by
  unfold startReport
  rcases startNmcli_cases kind argv sys.spawn h with ⟨pid, -, started⟩ | ⟨line, failed⟩
  · rw [started]
    rfl
  · rw [failed]
    exact same _

/-- So does the backlight that is found. -/
theorem findBacklight_langEn (h : Hud) (found : Option (Int × Int)) :
    (h.findBacklight found).ui.langEn = h.ui.langEn := by
  unfold findBacklight applyBlPct
  cases found with
  | none => rfl
  | some backlight =>
      simp only
      split_ifs <;> rfl

/-- What comes after the search for the backlight leaves the language alone. -/
theorem hud_langEn (boot : Boot) {en : Bool} (said : boot.lang = some en) :
    boot.hud.ui.langEn = en := by
  have loaded : ((boot.blank.loadHudConf boot.lang boot.bl).findBacklight
      boot.backlight).resetTouch.ui.langEn = en := by
    refine (findBacklight_langEn _ boot.backlight).trans ?_
    rw [said]
    cases boot.bl <;> rfl
  have told {g g' : Hud} (informs : Informs g g') : g'.ui.langEn = g.ui.langEn :=
    informs.same (fun k => k.ui.langEn) fun _ => rfl
  have started (g : Hud) : (g.wifiRadio boot.sys).ui.langEn = g.ui.langEn :=
    startReport_langEn g _ _ boot.sys fun _ => rfl
  unfold Boot.hud
  simp only
  rw [started, told (sampleSignal_informs _ _), told (sampleIp_informs _ _ _),
    told (sampleLink_informs _ _ _), told (sysfsWifi_informs _ _ _)]
  exact loaded

/-- What the device is set to. -/
theorem applyBlPct_cur {h : Hud} (found : 1 ≤ h.light.blMax ∧ h.light.blPath = true) {pct : Int}
    (fits : Fits pct) : (h.applyBlPct pct).light.blCur = h.light.level pct := by
  by_cases same : h.light.level pct = h.light.blCur
  · obtain ⟨low, high, -⟩ := Light.level_within found.1 fits
    have least : 0 ≤ pct * (h.light.blMax - 1) :=
      Int.mul_nonneg (by have := fits.1; omega) (by have := found.1; omega)
    have level : 1 + (pct * (h.light.blMax - 1)).tdiv 100 = h.light.level pct := by
      rw [Int.tdiv_eq_ediv_of_nonneg least]
      rfl
    unfold applyBlPct
    simp only
    rw [fits.clampi_eq, if_neg (by simp [found.1, found.2]), level, if_neg (not_lt.mpr low),
      if_neg (not_lt.mpr high), if_pos same]
    exact same.symm
  · rw [applyBlPct_written found fits same]

/-- Searching for a backlight keeps the brightness of the configuration, and sets it on the one that
is found. -/
theorem findBacklight_bl (k : Hud) (backlight : Option (Int × Int)) {pct : Int}
    (percent : k.light.blPct = pct) (kept : k.light.blKeep = pct) (fits : Fits pct) :
    (k.findBacklight backlight).light.blPct = pct ∧ (k.findBacklight backlight).light.blKeep = pct ∧
      ∀ max cur, backlight = some (max, cur) → 1 ≤ max →
        (k.findBacklight backlight).light.blCur = 1 + pct * (max - 1) / 100 := by
  cases backlight with
  | none => exact ⟨percent, kept, nofun⟩
  | some found =>
      obtain ⟨max, cur⟩ := found
      have set : k.findBacklight (some (max, cur)) = { k with
          light.blMax := max
          light.blPath := true
          light.blCur := if 0 < cur then cur else k.light.blCur
          light.blKeep := pct }.applyBlPct pct := by
        unfold findBacklight
        simp only
        rw [if_pos (by have := fits.1; omega), percent]
      obtain ⟨cur', device, light⟩ := applyBlPct_light pct { k with
          light.blMax := max
          light.blPath := true
          light.blCur := if 0 < cur then cur else k.light.blCur
          light.blKeep := pct }
      rw [fits.clampi_eq] at light
      rw [set]
      refine ⟨congrArg Light.blPct light, congrArg Light.blKeep light, ?_⟩
      rintro _ _ ⟨⟩ positive
      exact applyBlPct_cur ⟨positive, rfl⟩ fits

/-- The start takes the brightness from the configuration, and sets the backlight to it. -/
theorem hud_bl (boot : Boot) {pct : Int} (said : boot.bl = some pct) (fits : Fits pct) :
    boot.hud.light.blPct = pct ∧ boot.hud.light.blKeep = pct ∧
      ∀ max cur, boot.backlight = some (max, cur) → 1 ≤ max →
        boot.hud.light.blCur = 1 + pct * (max - 1) / 100 := by
  obtain ⟨g, apart, started⟩ := boot.hud_apart
  have loaded : (boot.blank.loadHudConf boot.lang boot.bl).light =
      { boot.blank.light with blPct := pct, blKeep := pct } := by
    have same := congrArg (fun p => { boot.blank.light with blPct := p, blKeep := p }) fits.clampi_eq
    rw [said]
    cases boot.lang with
    | none => exact same
    | some en => exact same
  generalize boot.blank.loadHudConf boot.lang boot.bl = k at apart loaded
  have same : boot.hud.light = (k.findBacklight boot.backlight).resetTouch.light := by
    rw [started]
    exact apart.light
  rw [same]
  exact findBacklight_bl k boot.backlight (by rw [loaded]) (by rw [loaded]) fits

/-- The brightness is sound after every run. -/
theorem lit_run {boot : Boot} {max cur : Int} {events : List Event}
    (found : boot.backlight = some (max, cur)) (positive : 1 ≤ max)
    (slotted : ∀ event ∈ events, Slotted event) : Lit max (run step boot.hud events).light := by
  have initial : Lit max boot.hud.light ∧ boot.hud.touchView.Grip := by
    refine ⟨hud_lit boot found, fun drags => ?_⟩
    rw [boot.hud_reset.plain] at drags
    cases drags
  have preserves : ∀ (h : Hud) event, Lit max h.light ∧ h.touchView.Grip → Slotted event →
      Lit max (h.step event).light ∧ (h.step event).touchView.Grip := by
    rintro h event ⟨lit, grip⟩ slotted
    have turns := step_turns slotted positive lit grip
    exact ⟨turns.lit lit, turns.grip grip⟩
  exact (always_of_eachStep preserves initial (eachStep_of_forall slotted boot.hud)).last.1

/-- A phone that starts from the file that a HUD has saved whose screen went off under a finger. -/
def savedBoot : Boot where
  W := 1080
  H := 2400
  lang := (confOf (run step halfBright.hud interrupted).confText).1
  bl := (confOf (run step halfBright.hud interrupted).confText).2
  backlight := some (255, 12)
  sys := Mirroring.idle

end Hud

end Ginkgo
