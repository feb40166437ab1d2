import Ginkgo.Hud.WifiFlow
import Ginkgo.Script.Conduct

/-!
# What a join comes to

What holds of every run of the join: what it has done to the stored connections, what the HUD takes
its end for, and which password it has passed.
-/

namespace Ginkgo

open CText Calls

namespace Script.Connect

variable {host : Host} {tries : Nat} {want : Wanted}

section Runs

variable {outcome : Except Ending Unit × Shell} {log : ScriptLog}

/-- A run of the join is over when it ends. -/
theorem over_of_runs (runs : (join host tries want {}).Runs [] outcome log) :
    ∃ ending, outcome.1 = .error ending ∧ Over host want ending outcome.2 log := by
  have ends := Program.wp_iff_runs.mp (@join_ensures host tries want {} [] ⟨rfl, rfl⟩) _ _ runs
  obtain ⟨result, shell⟩ := outcome
  cases result with
  | ok value => exact ends.elim
  | error ending => exact ⟨ending, rfl, ends⟩

end Runs

/-! ## Which connections -/

/-- **A join touches the wanted network only.** Whatever `nmcli` answers, each command of a run was
allowed by what had been answered before it. -/
theorem join_touches_own {outcome : Except Ending Unit × Shell} {log : ScriptLog}
    (runs : (join host tries want {}).Runs [] outcome log) : Justified (Allowed want) log :=
  (over_of_runs runs).elim fun _ done => done.2.justified

/-- A host with a plain `echo`. -/
def plainHost : Host where
  awk := wholeAwk
  echo t := t ++ [newline]
  echo_plain _ _ := rfl

/-- A network and a password for it. -/
def homeNet : Wanted where
  ssid := txt "home"
  pass := txt "secret:pw"
  iface := txt "wlan0"
  sec := txt "WPA2"

/-- A UUID, without a dash in front. -/
theorem homeUuid_plain : txt "1a-2b" ≠ [] ∧
    (∀ c ∈ txt "1a-2b", isDigit c ∨ (97 ≤ c ∧ c ≤ 102) ∨ c = dash) ∧
    (txt "1a-2b").head? ≠ some dash := by
  decide +kernel

/-- The type of a wifi connection is a word. -/
theorem homeType_word : Word (txt "802-11-wireless") := by decide +kernel

/-- Its name is on one line. -/
theorem homeName_line : newline ∉ txt "home" := by decide +kernel

/-- The connection to the network at home. -/
def homeProfile : Listed where
  uuid := ⟨txt "1a-2b", homeUuid_plain.1, homeUuid_plain.2.1, homeUuid_plain.2.2⟩
  type := txt "802-11-wireless"
  name := txt "home"
  typeWord := homeType_word
  nameLine := homeName_line

/-- `nmcli` has the network's profile and its password and does what it is told; no network goes
live. -/
def homeAnswers : Unit → (call : Call) → Answer call × Unit
  | _, .list _ => ([homeProfile], ())
  | _, .read (.ssidOf _) => (escape homeNet.ssid ++ [newline], ())
  | _, .read (.keyMgmtOf _) => (txt "wpa-psk\n", ())
  | _, .read (.pskOf _) => (escape homeNet.pass ++ [newline], ())
  | _, .read _ => ([], ())
  | _, .act _ => (⟨0, []⟩, ())

/-- The run of a join at home. -/
def homeRun (want : Wanted) : (Except Ending Unit × Shell) × ScriptLog × Unit :=
  (join plainHost 2 want {}).eval homeAnswers () []

/-- A join at home calls what it may. -/
theorem join_touches_own_home : Justified (Allowed homeNet) (homeRun homeNet).2.1 :=
  join_touches_own (Program.runs_eval homeAnswers (join plainHost 2 homeNet {}) () [])

/-! ## What the HUD hears -/

/-- What `nmcli` has printed when a join has failed in this way. -/
def Behind (want : Wanted) (log : ScriptLog) : FailKind → Prop
  | .unknown => True
  | .wrongPw => SaysWrongPw want log
  | .needPw => want.pass = [] ∧ isOpen want = false
  | .notFound => mentions ["could not be found", "network could not"] (attemptOf log) = true
  | .timeout => mentions ["timeout expired"] (attemptOf log) = true
  | .noDevice => mentions ["no suitable device", "mismatching interface"] (attemptOf log) = true
  | .dhcp => mentions ["ip configuration", "dhcp"] (attemptOf log) = true

section Verdict

variable {ending : Ending} {log : ScriptLog}

/-- What `fail_explain` prints is neither a success nor about a password. -/
theorem Cause.heard {out : Text} (cause : Cause want log out) :
    gwJobOk 1 out = false ∧ gwJobWrongPw 1 out = false ∧ gwJobNeedPw 1 out = false := by
  cases cause <;> decide +kernel

/-- The kind of failure that it is taken for has its reason. -/
theorem Cause.behind {out : Text} (cause : Cause want log out) :
    Behind want log (gwClassifyFail out) := by
  cases cause with
  | enterprise _ =>
      have kind : gwClassifyFail (txt "暂不支持企业级网络\n") = .unknown := by decide +kernel
      rw [kind]
      trivial
  | openFailed _ _ =>
      have kind : gwClassifyFail (txt "加入开放网络失败\n") = .unknown := by decide +kernel
      rw [kind]
      trivial
  | notFound said =>
      have kind : gwClassifyFail (txt "找不到这个网络\n") = .notFound := by decide +kernel
      rwa [kind]
  | timeout said =>
      have kind : gwClassifyFail (txt "连接超时\n") = .timeout := by decide +kernel
      rwa [kind]
  | noDevice said =>
      have kind : gwClassifyFail (txt "网卡不匹配\n") = .noDevice := by decide +kernel
      rwa [kind]
  | noAddress said =>
      have kind : gwClassifyFail (txt "没拿到地址\n") = .dhcp := by decide +kernel
      rwa [kind]
  | other _ =>
      have kind : gwClassifyFail (txt "未能加入此网络\n") = .unknown := by decide +kernel
      rw [kind]
      trivial

/-- The HUD takes an ending for a success when the network was found live. -/
theorem Verdict.jobOk (verdict : Verdict host want log ending) :
    gwJobOk ending.code ending.out = true ↔ SaysLive host want log := by
  cases verdict with
  | joined live => exact iff_of_true rfl live
  | wrongPw dead said => exact iff_of_false (by decide +kernel) dead
  | needPw dead absent locked => exact iff_of_false (by decide +kernel) dead
  | failed dead cause => exact iff_of_false (by simp [cause.heard.1]) dead

/-- It takes one for a wrong password only when `nmcli` has spoken of one. -/
theorem Verdict.jobWrongPw (verdict : Verdict host want log ending)
    (heard : gwJobWrongPw ending.code ending.out = true) : SaysWrongPw want log := by
  cases verdict with
  | joined live => exact absurd heard Bool.false_ne_true
  | wrongPw dead said => exact said
  | needPw dead absent locked => exact absurd heard (by decide +kernel)
  | failed dead cause => exact absurd (cause.heard.2.1.symm.trans heard) Bool.false_ne_true

/-- It takes one for a missing password only when none was given for a network with security. -/
theorem Verdict.jobNeedPw (verdict : Verdict host want log ending)
    (heard : gwJobNeedPw ending.code ending.out = true) : want.pass = [] ∧ isOpen want = false := by
  cases verdict with
  | joined live => exact absurd heard Bool.false_ne_true
  | wrongPw dead said => exact absurd heard (by decide +kernel)
  | needPw dead absent locked => exact ⟨absent, locked⟩
  | failed dead cause => exact absurd (cause.heard.2.2.symm.trans heard) Bool.false_ne_true

/-- What it takes any other ending for has its reason. -/
theorem Verdict.behind (verdict : Verdict host want log ending)
    (failed : gwJobOk ending.code ending.out = false) :
    Behind want log (gwClassifyFail ending.out) := by
  cases verdict with
  | joined live => exact absurd failed.symm Bool.false_ne_true
  | wrongPw dead said =>
      have kind : gwClassifyFail (txt "密码不对，请再试一次\n") = .wrongPw := by decide +kernel
      rwa [kind]
  | needPw dead absent locked =>
      have kind : gwClassifyFail (txt "NEED_PASSWORD\n") = .needPw := by decide +kernel
      rw [kind]
      exact ⟨absent, locked⟩
  | failed dead cause => exact cause.behind

end Verdict

/-- **The HUD takes a join for what it was.** It hears of a joined network exactly when the last
check has found it live, of a wrong password only when `nmcli` has spoken of one, and of a password
that is needed only when none was given for a locked network; the temporary files are gone. -/
theorem join_concludes {outcome : Except Ending Unit × Shell} {log : ScriptLog}
    (runs : (join host tries want {}).Runs [] outcome log) :
    ∃ ending, outcome.1 = .error ending ∧
      (outcome.2.attempt = none ∧ outcome.2.pskFile = none) ∧
      (gwJobOk ending.code ending.out = true ↔ SaysLive host want log) ∧
      (gwJobWrongPw ending.code ending.out = true → SaysWrongPw want log) ∧
      (gwJobNeedPw ending.code ending.out = true → want.pass = [] ∧ isOpen want = false) := by
  obtain ⟨ending, ends, done⟩ := over_of_runs runs
  have verdict := done.verdict
  exact ⟨ending, ends, done.removed, verdict.jobOk, verdict.jobWrongPw, verdict.jobNeedPw⟩

/-- The join at home ends without having found the network live. -/
theorem join_concludes_home : ∃ ending, (homeRun homeNet).1.1 = .error ending ∧
    ((homeRun homeNet).1.2.attempt = none ∧ (homeRun homeNet).1.2.pskFile = none) ∧
    (gwJobOk ending.code ending.out = true ↔ SaysLive plainHost homeNet (homeRun homeNet).2.1) ∧
    (gwJobWrongPw ending.code ending.out = true → SaysWrongPw homeNet (homeRun homeNet).2.1) ∧
    (gwJobNeedPw ending.code ending.out = true → homeNet.pass = [] ∧ isOpen homeNet = false) :=
  join_concludes (Program.runs_eval homeAnswers (join plainHost 2 homeNet {}) () [])

/-- **A failure has its reason in what `nmcli` has printed.** -/
theorem join_explains {outcome : Except Ending Unit × Shell} {log : ScriptLog} {ending : Ending}
    (runs : (join host tries want {}).Runs [] outcome log) (ends : outcome.1 = .error ending)
    (failed : gwJobOk ending.code ending.out = false) :
    Behind want log (gwClassifyFail ending.out) := by
  obtain ⟨other, same, done⟩ := over_of_runs runs
  obtain rfl : ending = other := Except.error.inj (ends.symm.trans same)
  exact done.verdict.behind failed

/-- Its failure has a reason. -/
theorem join_explains_home : Behind homeNet (homeRun homeNet).2.1 (gwClassifyFail (txt "未能加入此网络\n")) :=
  @join_explains plainHost 2 homeNet _ _ ⟨1, txt "未能加入此网络\n"⟩
    (Program.runs_eval homeAnswers (join plainHost 2 homeNet {}) () []) (by rfl) (by decide +kernel)

/-! ## The password that is stored -/

/-- **A stored password is passed as it is printed.** The file that `nmcli` is given holds the
stored password only when it has no colon and no backslash. -/
theorem stored_psk_passed_iff {outcome : Except Ending Unit × Shell} {log : ScriptLog}
    {psk : Text → Text} {id iface file : Text} {reply : Reply}
    (runs : (join host tries want {}).Runs [] outcome log) (absent : want.pass = [])
    (lines : ∀ id, newline ∉ psk id)
    (stores : ∀ (id out : Text), (⟨.read (.pskOf id), out⟩ : Exchange Call Answer) ∈ log →
      out = escape (psk id) ++ [newline])
    (passed : (⟨.act (.up id iface (some file)), reply⟩ : Exchange Call Answer) ∈ log) :
    file = pskLine (psk id) ↔ ∀ c ∈ psk id, c ≠ colon ∧ c ≠ backslash := by
  obtain ⟨ending, -, done⟩ := over_of_runs runs
  obtain ⟨later, earlier, rfl⟩ := List.append_of_mem passed
  obtain ⟨-, files⟩ := done.justified.allowed
  obtain ⟨word, -, rfl, given⟩ := files file rfl
  rw [Given, if_neg (absurd absent ·)] at given
  obtain ⟨out, read, rfl⟩ := given
  have printed := stores id out (List.mem_append_right _ (List.mem_cons_of_mem _ read))
  rw [printed, substitute_line (notMem_escape (lines id) (by decide)), pskLine, pskLine]
  constructor
  · intro same
    have kept : escape (psk id) = psk id :=
      List.append_cancel_left (List.append_cancel_right same)
    intro c member
    rw [← not_or]
    exact fun special => escape_ne_self ⟨c, member, special⟩ kept
  · intro plain
    rw [escape_of_plain plain]

/-- The network at home, to be joined with its saved profile. -/
def savedHome : Wanted := { homeNet with pass := [] }

/-- The password files that activations get. -/
def filesOf (log : ScriptLog) : List Text :=
  log.filterMap fun exchange =>
    match exchange.request with
    | .act (.up _ _ file) => file
    | _ => none

/-- A password file belongs to an activation. -/
theorem mem_filesOf {log : ScriptLog} {file : Text} (member : file ∈ filesOf log) :
    ∃ id iface, ∃ reply : Reply,
      (⟨.act (.up id iface (some file)), reply⟩ : Exchange Call Answer) ∈ log := by
  obtain ⟨⟨request, reply⟩, inside, same⟩ := List.mem_filterMap.mp member
  split at same
  · next id iface passwd called =>
      cases called
      cases same
      exact ⟨id, iface, reply, inside⟩
  · cases same

/-- The saved password of the network at home is passed. -/
theorem stored_psk_passed_home : filesOf (homeRun savedHome).2.1 ≠ [] ∧
    ∀ file ∈ filesOf (homeRun savedHome).2.1,
      (file = pskLine homeNet.pass ↔ ∀ c ∈ homeNet.pass, c ≠ colon ∧ c ≠ backslash) := by
  refine ⟨by decide +kernel, fun file member => ?_⟩
  obtain ⟨id, iface, reply, called⟩ := mem_filesOf member
  refine @stored_psk_passed_iff plainHost 2 savedHome _ _ (fun _ => homeNet.pass) id iface file reply
    (Program.runs_eval homeAnswers (join plainHost 2 savedHome {}) () []) rfl ?_ ?_ called
  · exact fun _ => by decide +kernel
  · intro id out read
    rcases Program.answer_of_mem_eval read with before | ⟨_, answered⟩
    · exact absurd before List.not_mem_nil
    · exact answered

end Script.Connect

end Ginkgo
