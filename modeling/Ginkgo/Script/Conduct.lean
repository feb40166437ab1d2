import Ginkgo.Script.Connect

/-!
# How a join goes

What every run of the join keeps, whatever `nmcli` answers (`Ginkgo.Script.Connect.Going`), and how
it ends (`Ginkgo.Script.Connect.Over`). There is one lemma for each function of the script;
`Ginkgo.Script.Connect.join_ensures` puts them together.
-/

namespace Ginkgo

open CText Calls

namespace Script.Connect

/-! ## What the script knows -/

section Knowledge

variable (want : Wanted) (log : ScriptLog)

/-- A connection that `nmcli` has listed as a wifi one and that is the wanted network's: its stored
SSID has been read, or an older build has named it. -/
inductive Own : Text → Prop
  | stored {rows : List Listed} {row : Listed} {out : Text}
      (listed : (⟨.list .kinds, rows⟩ : Exchange Call Answer) ∈ log) (member : row ∈ rows)
      (wifi : isWifiType row.type = true)
      (read : (⟨.read (.ssidOf row.uuid.text), out⟩ : Exchange Call Answer) ∈ log)
      (same : substitute out = want.ssid) : Own row.uuid.text
  | leftover {rows : List Listed} {row : Listed}
      (listed : (⟨.list .lines, rows⟩ : Exchange Call Answer) ∈ log) (member : row ∈ rows)
      (wifi : isWifiType row.type = true)
      (named : escape row.name = txt "gemini-" ++ want.ssid) : Own row.uuid.text

/-- The password for a connection: the one that was asked for, or, when there was none, the one
that `nmcli` has printed for this connection. -/
def Given (id psk : Text) : Prop :=
  if want.pass ≠ [] then psk = want.pass
  else ∃ out : Text, (⟨.read (.pskOf id), out⟩ : Exchange Call Answer) ∈ log ∧ psk = substitute out

/-- What the password file holds. -/
def pskLine (psk : Text) : Text := txt "802-11-wireless-security.psk:" ++ psk ++ [newline]

/-- What the script may do after what it has been told: it touches the wanted network only, and it
ends no other connection. -/
def Allowed : Call → Prop
  | .act (.delete uuid) => Own want log uuid
  | .act (.up id _ passwd) => (id = want.ssid ∨ Own want log id) ∧
      ∀ file ∈ passwd, ∃ psk, psk ≠ [] ∧ file = pskLine psk ∧ Given want log id psk
  | .act (.modify id _ psk) => (id = want.ssid ∨ Own want log id) ∧ psk = want.pass
  | .act (.add ssid _ security) => ssid = want.ssid ∧ ∀ s ∈ security, s.2 = want.pass
  | .act (.wifiConnect ssid psk _) => ssid = want.ssid ∧ psk = want.pass
  | .act (.deleteId _) | .act (.deleteUuid _) | .act (.disconnect _) => False
  | _ => True

end Knowledge

/-- The commands whose output is kept. -/
def Kept : Action → Bool
  | .delete _ | .up _ _ _ | .modify _ _ _ | .add _ _ _ | .wifiConnect _ _ _ => true
  | _ => false

/-- What the commands have printed. -/
def attemptOf : ScriptLog → Text
  | [] => []
  | ⟨.act action, reply⟩ :: earlier =>
      let reply : Reply := reply
      attemptOf earlier ++ if Kept action then reply.out else []
  | _ :: earlier => attemptOf earlier

/-- A password has been passed. -/
def Passed (want : Wanted) (log : ScriptLog) : Prop :=
  want.pass ≠ [] ∨ ∃ id iface file reply,
    (⟨.act (.up id iface (some file)), reply⟩ : Exchange Call Answer) ∈ log

/-- The last check has found the wanted network live. -/
def SaysLive (host : Host) (want : Wanted) : ScriptLog → Prop
  | ⟨.read .wifiList, rows⟩ :: ⟨.read .deviceStatus, status⟩ :: _ =>
      stateOf host.awk status want.iface = txt "connected" ∧
        usesNetwork host.awk rows want.ssid = true
  | _ => False

/-- What the commands have printed speaks of a wrong password. -/
def SaysWrongPw (want : Wanted) (log : ScriptLog) : Prop :=
  mentions ["psk mismatch", "wrong password", "bad password", "handshake timeout",
      "4-way handshake"] (attemptOf log) = true ∨
    Passed want log ∧ mentions ["secrets were required"] (attemptOf log) = true

/-- Why a join has failed when it is not for a password. -/
inductive Cause (want : Wanted) (log : ScriptLog) : Text → Prop
  | enterprise (unsupported : isEnterprise want = true) : Cause want log (txt "暂不支持企业级网络\n")
  | openFailed (absent : want.pass = []) (unlocked : isOpen want = true) :
      Cause want log (txt "加入开放网络失败\n")
  | notFound (said : mentions ["could not be found", "network could not"] (attemptOf log) = true) :
      Cause want log (txt "找不到这个网络\n")
  | timeout (said : mentions ["timeout expired"] (attemptOf log) = true) :
      Cause want log (txt "连接超时\n")
  | noDevice
      (said : mentions ["no suitable device", "mismatching interface"] (attemptOf log) = true) :
      Cause want log (txt "网卡不匹配\n")
  | noAddress (said : mentions ["ip configuration", "dhcp"] (attemptOf log) = true) :
      Cause want log (txt "没拿到地址\n")
  | other (given : want.pass ≠ []) : Cause want log (txt "未能加入此网络\n")

/-- How a join ends, and what `nmcli` has said by then. -/
inductive Verdict (host : Host) (want : Wanted) (log : ScriptLog) : Ending → Prop
  | joined (live : SaysLive host want log) :
      Verdict host want log ⟨0, host.echo (txt "已连接 " ++ want.ssid)⟩
  | wrongPw (dead : ¬SaysLive host want log) (said : SaysWrongPw want log) :
      Verdict host want log ⟨3, txt "密码不对，请再试一次\n"⟩
  | needPw (dead : ¬SaysLive host want log) (absent : want.pass = []) (locked : isOpen want = false) :
      Verdict host want log ⟨2, txt "NEED_PASSWORD\n"⟩
  | failed (dead : ¬SaysLive host want log) {out : Text} (cause : Cause want log out) :
      Verdict host want log ⟨1, out⟩

/-- The join is under way; `us` are connections known to be the wanted network's. -/
structure Going (want : Wanted) (us : List Text) (shell : Shell) (log : ScriptLog) : Prop where
  justified : Justified (Allowed want) log
  own : ∀ u ∈ us, Own want log u
  attempt : shell.attempt = some (attemptOf log)
  gave : shell.gavePsk = true → Passed want log

/-- The join is over. -/
structure Over (host : Host) (want : Wanted) (ending : Ending) (shell : Shell) (log : ScriptLog) :
    Prop where
  justified : Justified (Allowed want) log
  removed : shell.attempt = none ∧ shell.pskFile = none
  verdict : Verdict host want log ending

/-- The join is under way, and its last call was not a check that has found the network live. -/
def Stays (host : Host) (want : Wanted) (us : List Text) (shell : Shell) (log : ScriptLog) : Prop :=
  Going want us shell log ∧ ¬SaysLive host want log

/-- The join is under way, and this is what the last check has found. -/
def Checked (host : Host) (want : Wanted) (us : List Text) (live : Bool) (shell : Shell)
    (log : ScriptLog) : Prop :=
  Going want us shell log ∧ (live = true ↔ SaysLive host want log)

/-! ## Steps -/

variable {host : Host} {tries : Nat} {want : Wanted} {us : List Text} {shell : Shell}
  {log : ScriptLog}

/-- A connection stays the wanted network's. -/
theorem Own.grow {u : Text} (own : Own want log u) (exchange : Exchange Call Answer) :
    Own want (exchange :: log) u := by
  cases own with
  | stored listed member wifi read same =>
      exact .stored (List.mem_cons_of_mem _ listed) member wifi (List.mem_cons_of_mem _ read) same
  | leftover listed member wifi named =>
      exact .leftover (List.mem_cons_of_mem _ listed) member wifi named

/-- A password that has been passed stays so. -/
theorem Passed.grow (passed : Passed want log) (exchange : Exchange Call Answer) :
    Passed want (exchange :: log) := by
  refine passed.imp_right ?_
  rintro ⟨id, iface, file, reply, member⟩
  exact ⟨id, iface, file, reply, List.mem_cons_of_mem _ member⟩

namespace Going

/-- A list, an answer that is read, or a command whose output is not kept. -/
theorem grow (going : Going want us shell log) {exchange : Exchange Call Answer}
    (allowed : Allowed want log exchange.request)
    (same : attemptOf (exchange :: log) = attemptOf log) : Going want us shell (exchange :: log) where
  justified := ⟨allowed, going.justified⟩
  own u member := (going.own u member).grow exchange
  attempt := by rw [going.attempt, same]
  gave gave := (going.gave gave).grow exchange

/-- A command whose output is kept. -/
theorem kept (going : Going want us shell log) {action : Action} (kept : Kept action = true)
    (allowed : Allowed want log (.act action)) (reply : Reply) :
    Going want us { shell with attempt := some (shell.attempt.getD [] ++ reply.out) }
      (⟨.act action, reply⟩ :: log) where
  justified := ⟨allowed, going.justified⟩
  own u member := (going.own u member).grow _
  attempt := by simp [going.attempt, attemptOf, kept]
  gave gave := (going.gave gave).grow _

/-- More connections are known to be the wanted network's. -/
theorem more (going : Going want us shell log) {vs : List Text} (own : ∀ v ∈ vs, Own want log v) :
    Going want (vs ++ us) shell log where
  justified := going.justified
  own u member := (List.mem_append.mp member).elim (own u) (going.own u)
  attempt := going.attempt
  gave := going.gave

/-- Fewer need be. -/
theorem fewer {vs : List Text} (going : Going want us shell log) (subset : vs ⊆ us) :
    Going want vs shell log where
  justified := going.justified
  own u member := going.own u (subset member)
  attempt := going.attempt
  gave := going.gave

end Going

section Rules

variable {leave : Ending → Shell → ScriptLog → Prop}

/-- A command that is allowed and whose output is kept. -/
theorem run_ensures {action : Action} (kept : Kept action = true) :
    (run action).Ensures (fun shell log => Going want us shell log ∧ Allowed want log (.act action))
      (fun _ => Stays host want us) leave := by
  rintro shell log ⟨going, allowed⟩ reply
  exact ⟨going.kept kept allowed reply, id⟩

/-- A command that is always allowed and whose output is not kept. -/
theorem quiet_ensures (action : Action) (kept : Kept action = false)
    (allowed : ∀ log, Allowed want log (.act action)) :
    (quiet action).Ensures (Going want us) (fun _ => Stays host want us) leave := by
  intro shell log going reply
  refine ⟨going.grow (allowed log) ?_, id⟩
  rw [attemptOf, kept]
  exact List.append_nil _

/-- A query is always allowed, and its answer is on record. -/
theorem ask_ensures (query : Query) :
    (ask query).Ensures (Going want us)
      (fun out shell log => Going want us shell log ∧
        (⟨.read query, out⟩ : Exchange Call Answer) ∈ log) leave := by
  intro shell log going out
  exact ⟨going.grow trivial rfl, List.mem_cons_self⟩

end Rules

/-! ## The wanted network's profiles -/

/-- The text is the UUIDs that the script holds for the wanted network's, a line each. -/
def Found (host : Host) (want : Wanted) (us : List Text) (out : Text) (shell : Shell)
    (log : ScriptLog) : Prop :=
  ∃ vs : List Uuid, out = printed (vs.map Uuid.text) ∧ Stays host want (vs.map Uuid.text ++ us) shell log

/-- The connections that an older build has left for the network are the network's. -/
theorem leftoverUuids_own (host : Host) (want : Wanted) {all : List Listed}
    (listed : (⟨.list .lines, all⟩ : Exchange Call Answer) ∈ log) (rows : List Listed)
    (subset : rows ⊆ all) :
    ∃ vs : List Uuid, leftoverUuids host want (rows.map Listed.line) = printed (vs.map Uuid.text) ∧
      ∀ v ∈ vs.map Uuid.text, Own want log v := by
  induction rows with
  | nil => exact ⟨[], rfl, by simp⟩
  | cons row rows ih =>
      obtain ⟨vs, rest, own⟩ := ih fun other member => subset (List.mem_cons_of_mem row member)
      by_cases wifi : isWifiType (read3 row.line).2.2 = true
      · have read := row.read3_line wifi
        rw [read] at wifi
        by_cases named : escape row.name = txt "gemini-" ++ want.ssid
        · refine ⟨row.uuid :: vs, ?_, ?_⟩
          · rw [leftoverUuids, List.map_cons, List.flatMap_cons]
            simp only [read, wifi, named, Bool.not_true, Bool.false_eq_true, if_false, if_true]
            rw [host.echo_uuid, ← leftoverUuids, rest]
            rfl
          · intro v member
            rcases List.mem_cons.mp member with rfl | other
            · exact .leftover listed (subset List.mem_cons_self) wifi named
            · exact own v other
        · refine ⟨vs, ?_, own⟩
          rw [leftoverUuids, List.map_cons, List.flatMap_cons]
          simp only [read, wifi, named, Bool.not_true, Bool.false_eq_true, if_false]
          exact rest
      · refine ⟨vs, ?_, own⟩
        rw [leftoverUuids, List.map_cons, List.flatMap_cons]
        simp only [wifi, Bool.not_false, if_true]
        exact rest

section Rules

variable {leave : Ending → Shell → ScriptLog → Prop}

/-- The connections whose stored SSID is the wanted one are the network's. -/
theorem ownUuids_ensures {all : List Listed} (rows : List Listed) (subset : rows ⊆ all) :
    (ownUuids host want (rows.map Listed.kind)).Ensures
      (fun shell log => Going want us shell log ∧
        (⟨.list .kinds, all⟩ : Exchange Call Answer) ∈ log)
      (fun out shell log => ∃ vs : List Uuid, out = printed (vs.map Uuid.text) ∧
        Going want (vs.map Uuid.text ++ us) shell log) leave := by
  induction rows generalizing us with
  | nil => exact .pure fun shell log pre => ⟨[], rfl, pre.1⟩
  | cons row rows ih =>
      have rest {us : List Text} := @ih us fun other member =>
        subset (List.mem_cons_of_mem row member)
      rw [List.map_cons, ownUuids, row.read2_kind]
      refine .ite (fun _ => rest) fun wifi => ?_
      rw [not_or, Bool.not_eq_true', Bool.not_eq_false] at wifi
      refine .bind (fun s shell log => Going want us shell log ∧
        (⟨.list .kinds, all⟩ : Exchange Call Answer) ∈ log ∧
        (⟨.read (.ssidOf row.uuid.text), s⟩ : Exchange Call Answer) ∈ log) ?_ fun s => ?_
      · rintro shell log ⟨going, listed⟩ out
        exact ⟨going.grow trivial rfl, List.mem_cons_of_mem _ listed, List.mem_cons_self⟩
      by_cases same : substitute s = want.ssid
      · rw [if_pos same, host.echo_uuid]
        refine .bind _ ((@rest (row.uuid.text :: us)).before ?_) fun others => .pure ?_
        · rintro shell log ⟨going, listed, read⟩
          refine ⟨@Going.more want us shell log going [row.uuid.text] ?_, listed⟩
          intro v member
          rw [List.mem_singleton.mp member]
          exact .stored listed (subset List.mem_cons_self) wifi.2 read same
        · rintro shell log ⟨vs, rfl, going⟩
          refine ⟨row.uuid :: vs, by simp [printed], going.fewer ?_⟩
          intro v member
          simp only [List.map_cons, List.cons_append, List.mem_cons, List.mem_append] at member ⊢
          tauto
      · rw [if_neg same]
        exact .bind _ (rest.before fun shell log pre => ⟨pre.1, pre.2.1⟩) fun others =>
          .pure fun shell log found => found

/-- **The connections that the script finds are the wanted network's**, a line each. -/
theorem uuidsForSsid_ensures :
    (uuidsForSsid host want).Ensures (Going want us) (Found host want us) leave := by
  refine .bind (fun kinds shell log => Going want us shell log ∧
    (⟨.list .kinds, kinds⟩ : Exchange Call Answer) ∈ log) ?_ fun kinds => ?_
  · intro shell log going kinds
    exact ⟨going.grow trivial rfl, List.mem_cons_self⟩
  rw [records_printed_map Listed.newline_notMem_kind]
  refine .bind _ (ownUuids_ensures kinds (List.Subset.refl kinds)) fun own => ?_
  rintro shell log ⟨vs, rfl, going⟩ lines
  have listed : (⟨.list .lines, lines⟩ : Exchange Call Answer) ∈
      (⟨.list .lines, lines⟩ :: log : ScriptLog) := List.mem_cons_self
  obtain ⟨ws, rest, known⟩ := leftoverUuids_own host want listed lines (List.Subset.refl _)
  have grown : Going want (vs.map Uuid.text ++ us) shell (⟨.list .lines, lines⟩ :: log) :=
    going.grow trivial rfl
  refine ⟨vs ++ ws, ?_, (grown.more known).fewer ?_, id⟩
  · rw [records_printed_map Listed.newline_notMem_line, rest]
    simp [printed]
  · intro v member
    simp only [List.map_append, List.mem_append] at member ⊢
    tauto

/-- The UUIDs that have been found, once each. -/
theorem distinct_found (vs : List Uuid) :
    distinct (printed (vs.map Uuid.text)) = (vs.map Uuid.text).eraseDups := by
  refine distinct_printed fun row member => ?_
  obtain ⟨uuid, -, rfl⟩ := List.mem_map.mp member
  exact uuid.solid

/-- The lines that are found have no blanks, being UUIDs. -/
theorem solid_found {vs : List Uuid} {row : Text} (member : row ∈ (vs.map Uuid.text).eraseDups) :
    Solid row := by
  obtain ⟨uuid, -, rfl⟩ := List.mem_map.mp (List.mem_eraseDups.mp member)
  exact uuid.solid

/-- What is found once each is found. -/
theorem found_subset (vs : List Uuid) (us : List Text) :
    (vs.map Uuid.text).eraseDups ⊆ vs.map Uuid.text ++ us :=
  fun _ member => List.mem_append_left us (List.mem_eraseDups.mp member)

/-- **Only the wanted network's connections are deleted.** -/
theorem deleteUuids_ensures {uuids : List Text} (known : uuids ⊆ us) :
    (deleteUuids uuids).Ensures (Stays host want us) (fun _ => Stays host want us) leave := by
  induction uuids with
  | nil => exact .pure fun shell log stays => stays
  | cons uuid rest ih =>
      refine .bind (fun _ => Stays host want us) ?_ fun _ =>
        ih fun other member => known (List.mem_cons_of_mem uuid member)
      refine (run_ensures rfl).before fun shell log stays => ?_
      exact ⟨stays.1, stays.1.own uuid (known List.mem_cons_self)⟩

/-- `delete_ssid_profiles` deletes what it has found. -/
theorem deleteSsidProfiles_ensures :
    (deleteSsidProfiles host want).Ensures (Going want us) (fun _ => Stays host want us) leave := by
  refine .bind _ uuidsForSsid_ensures fun out => ?_
  rintro shell log ⟨vs, rfl, stays⟩
  have lines : (records (printed (distinct (printed (vs.map Uuid.text))))).map trim =
      (vs.map Uuid.text).eraseDups := by
    rw [distinct_found, records_printed fun row member => (solid_found member).newline_notMem]
    exact (List.map_congr_left fun row member => trim_of_solid (solid_found member)).trans
      (List.map_id _)
  rw [lines]
  refine Session.Ensures.mono (deleteUuids_ensures (found_subset vs us)) (fun _ _ => id) ?_
    (fun _ _ _ => id) shell log stays
  exact fun _ shell log stays => ⟨stays.1.fewer (List.subset_append_right _ us), stays.2⟩

/-! ## Activations -/

/-- `up` activates the network or a connection that is known to be its. -/
theorem up_ensures {id : Text} (known : id = want.ssid ∨ id ∈ us) :
    (up want id).Ensures (Going want us) (fun _ => Stays host want us) leave := by
  refine (run_ensures rfl).before ?_
  exact fun shell log going =>
    ⟨going, known.imp_right (going.own id), fun file none => absurd none (Option.not_mem_none file)⟩

/-- With a password, it has to be one that was given for that connection. -/
theorem upWithPsk_ensures {id psk : Text} (known : id = want.ssid ∨ id ∈ us) :
    (upWithPsk want id psk).Ensures (fun shell log => Going want us shell log ∧ Given want log id psk)
      (fun _ => Stays host want us) leave := by
  refine .ite (fun passed => ?_) fun _ => (up_ensures known).before (fun _ _ => And.left)
  rintro shell log ⟨going, given⟩ reply
  refine ⟨⟨⟨⟨known.imp_right (going.own id), ?_⟩, going.justified⟩, ?_, ?_, ?_⟩, fun live => live⟩
  · rintro file member
    exact ⟨psk, passed, (Option.mem_some.mp member).symm, given⟩
  · exact fun u member => (going.own u member).grow _
  · simp [going.attempt, attemptOf, Kept]
  · exact fun _ => .inr ⟨_, _, _, _, List.mem_cons_self⟩

/-! ## Checks -/

/-- `live_ok` says what its check has found. -/
theorem liveOk_ensures :
    (liveOk host want).Ensures (Going want us) (Checked host want us) leave := by
  refine .bind (fun status shell log => Going want us shell log ∧
    ∃ earlier, log = ⟨.read .deviceStatus, status⟩ :: earlier) ?_ fun status => ?_
  · exact fun shell log going status => ⟨going.grow trivial rfl, log, rfl⟩
  refine .ite (fun connected => ?_) fun _ => .pure ?_
  · rintro shell _ ⟨going, earlier, rfl⟩ rows
    exact ⟨going.grow trivial rfl, fun uses => ⟨connected, uses⟩, And.right⟩
  · rintro shell _ ⟨going, earlier, rfl⟩
    exact ⟨going, (absurd · Bool.false_ne_true), False.elim⟩

/-- `wait_live` says what its last check has found. -/
theorem waitLive_ensures (n : Nat) :
    (waitLive host want n).Ensures (Going want us) (Checked host want us) leave := by
  induction n with
  | zero => exact liveOk_ensures
  | succ n ih =>
      refine .bind _ liveOk_ensures fun live => .ite (fun found => ?_) fun _ => ?_
      · exact .pure fun shell log checked => found ▸ checked
      · exact .bind (fun _ => Stays host want us)
          ((quiet_ensures .sleep rfl fun _ => trivial).before fun _ _ => And.left)
          fun _ => ih.before fun _ _ => And.left

/-- An activation that is waited for says what the last check has found. -/
theorem upAndWait_ensures {pre : Shell → ScriptLog → Prop} {started : Sh Bool}
    (starts : started.Ensures pre (fun _ => Stays host want us) leave) :
    (upAndWait host tries want started).Ensures pre (Checked host want us) leave := by
  refine .bind _ starts fun begun => .ite (fun _ => ?_) fun _ => .pure fun shell log stays => ?_
  · exact (waitLive_ensures tries).before (fun _ _ => And.left)
  · exact ⟨stays.1, (absurd · Bool.false_ne_true), fun live => absurd live stays.2⟩

end Rules

/-! ## Endings -/

section Endings

variable {α : Type} {post : α → Shell → ScriptLog → Prop}

/-- An ending whose verdict holds ends the join. -/
theorem finish_ensures {out : Text} {code : Nat} :
    (finish out code : Sh α).Ensures
      (fun shell log => Going want us shell log ∧ Verdict host want log ⟨code, out⟩) post
      (Over host want) :=
  fun _ _ pre => ⟨pre.1.justified, ⟨rfl, rfl⟩, pre.2⟩

/-- `finish_ok` ends it after a check that has found the network live. -/
theorem finishOk_ensures :
    (finishOk host want : Sh α).Ensures (Checked host want us true) post (Over host want) :=
  finish_ensures.before (fun _ _ checked => ⟨checked.1, .joined (checked.2.mp rfl)⟩)

/-- Kept output that speaks of a wrong password is on record. -/
theorem Going.saysWrongPw (going : Going want us shell log) (wrong : isWrongPw shell = true) :
    SaysWrongPw want log := by
  rw [isWrongPw, going.attempt, Bool.or_eq_true, Bool.and_eq_true] at wrong
  exact wrong.imp_right fun both => ⟨going.gave both.1, both.2⟩

/-- `fail_wrong_pw` ends it after such output. -/
theorem failWrongPw_ensures :
    (failWrongPw : Sh α).Ensures (fun shell log => Stays host want us shell log ∧ isWrongPw shell = true)
      post (Over host want) :=
  finish_ensures.before (fun _ _ pre => ⟨pre.1.1, .wrongPw pre.1.2 (pre.1.1.saysWrongPw pre.2)⟩)

/-- `fail_explain` ends it with a cause that the kept output bears out. -/
theorem failExplain_ensures (given : want.pass ≠ []) :
    (failExplain : Sh α).Ensures (Stays host want us) post (Over host want) := by
  refine .bind (fun seen shell log => Stays host want us shell log ∧ seen = shell)
    (.get fun shell log stays => ⟨stays, rfl⟩) fun seen => ?_
  have ends {out : Text}
      (cause : ∀ log, seen.attempt = some (attemptOf log) → Cause want log out) :
      (finish out 1 : Sh α).Ensures
        (fun shell log => Stays host want us shell log ∧ seen = shell) post (Over host want) :=
    finish_ensures.before fun _ log pre =>
      ⟨pre.1.1, .failed pre.1.2 (cause log (pre.2 ▸ pre.1.1.attempt))⟩
  refine .ite (fun wrong => ?_) fun _ => ?_
  · exact failWrongPw_ensures.before (fun _ _ pre => ⟨pre.1, pre.2 ▸ wrong⟩)
  refine .ite (fun said => ends fun log file => .notFound ?_) fun _ => ?_
  · rwa [file] at said
  refine .ite (fun said => ends fun log file => .timeout ?_) fun _ => ?_
  · rwa [file] at said
  refine .ite (fun said => ends fun log file => .noDevice ?_) fun _ => ?_
  · rwa [file] at said
  refine .ite (fun said => ends fun log file => .noAddress ?_) fun _ => ends fun _ _ => .other given
  rwa [file] at said

end Endings

/-! ## Without a password -/

/-- The join goes on unless the kept output speaks of a wrong password. -/
theorem orWrongPw_ensures (done : Bool) :
    (orWrongPw done).Ensures (Checked host want us done) (Checked host want us) (Over host want) := by
  refine .ite (fun live => .pure fun shell log checked => live ▸ checked) fun dead => ?_
  have stays {shell : Shell} {log : ScriptLog} (checked : Checked host want us done shell log) :
      Stays host want us shell log := ⟨checked.1, fun live => dead (checked.2.mpr live)⟩
  refine .bind (fun seen shell log => Stays host want us shell log ∧ seen = shell)
    (.get fun shell log checked => ⟨stays checked, rfl⟩) fun seen => .ite (fun wrong => ?_) fun _ => ?_
  · exact failWrongPw_ensures.before fun shell log pre => ⟨pre.1, pre.2 ▸ wrong⟩
  · exact .pure fun shell log pre => ⟨pre.1.1, (absurd · Bool.false_ne_true), fun live =>
      absurd live pre.1.2⟩

section Saved

variable (absent : want.pass = [])

include absent

/-- The password that is read for a connection is one that was given for it. -/
theorem storedPsk_ensures {id : Text} :
    (storedPsk id).Ensures (Going want us)
      (fun psk shell log => Stays host want us shell log ∧ Given want log id psk) (Over host want) := by
  intro shell log going out
  refine ⟨⟨going.grow trivial rfl, fun live => live⟩, ?_⟩
  rw [Given, if_neg (absurd absent ·)]
  exact ⟨out, List.mem_cons_self, rfl⟩

/-- **A saved connection is tried** with the password that is stored for it. -/
theorem trySaved_ensures {uuid : Text} (known : uuid ∈ us) :
    (trySaved host tries want uuid).Ensures (Going want us) (Checked host want us)
      (Over host want) := by
  refine .bind _ (ask_ensures _) fun km => .bind _ ((ask_ensures _).before fun _ _ => And.left)
    fun flags => .bind _ ((storedPsk_ensures absent).before fun _ _ => And.left) fun psk => ?_
  have up {pre : Shell → ScriptLog → Prop} (going : ∀ shell log, pre shell log → Going want us shell log) :
      (upAndWait host tries want (up want uuid)).Ensures pre (Checked host want us)
        (Over host want) :=
    upAndWait_ensures ((up_ensures (.inr known)).before going)
  refine .ite (fun _ => up fun _ _ pre => pre.1.1) fun _ => .ite (fun _ => ?_) fun _ => .ite ?_ ?_
  · refine .bind _ (upAndWait_ensures ?_) orWrongPw_ensures
    exact (upWithPsk_ensures (.inr known)).before fun _ _ pre => ⟨pre.1.1, pre.2⟩
  · exact fun _ => .pure fun shell log pre => ⟨pre.1.1, (absurd · Bool.false_ne_true), fun live =>
      absurd live pre.1.2⟩
  · exact fun _ => .bind _ (up fun _ _ pre => pre.1.1) orWrongPw_ensures

/-- The saved connections are tried in turn until one is live. -/
theorem joinSaved_ensures {uuids : List Text} (known : uuids ⊆ us) :
    (joinSaved host tries want uuids).Ensures (Stays host want us) (Checked host want us)
      (Over host want) := by
  induction uuids with
  | nil =>
      exact .pure fun shell log stays =>
        ⟨stays.1, (absurd · Bool.false_ne_true), fun live => absurd live stays.2⟩
  | cons uuid rest ih =>
      refine .bind _ ((trySaved_ensures absent (known List.mem_cons_self)).before fun _ _ => And.left)
        fun done => .ite (fun live => .pure fun shell log checked => live ▸ checked) fun dead => ?_
      refine (ih fun other member => known (List.mem_cons_of_mem uuid member)).before ?_
      exact fun shell log checked => ⟨checked.1, fun live => dead (checked.2.mpr live)⟩

/-- **A join of an open network** ends in a verdict. -/
theorem joinOpen_ensures (unlocked : isOpen want = true) {post : Unit → Shell → ScriptLog → Prop} :
    (joinOpen host tries want).Ensures (Going want us) post (Over host want) := by
  refine .bind _ deleteSsidProfiles_ensures fun _ => .bind (fun _ => Stays host want us) ?_ fun _ => ?_
  · refine (run_ensures rfl).before fun shell log stays => ⟨stays.1, rfl, ?_⟩
    exact fun s member => absurd member (Option.not_mem_none s)
  refine .bind _ (upAndWait_ensures ((up_ensures (.inl rfl)).before fun _ _ => And.left)) fun live =>
    .ite (fun up => ?_) fun down => ?_
  · exact finishOk_ensures.before fun shell log checked => up ▸ checked
  · refine finish_ensures.before fun shell log checked => ⟨checked.1, .failed ?_ ?_⟩
    · exact fun live => down (checked.2.mpr live)
    · exact .openFailed absent unlocked

/-- **A join without a password** does too. -/
theorem joinWithout_ensures {post : Unit → Shell → ScriptLog → Prop} :
    (joinWithout host tries want).Ensures (Going want us) post (Over host want) := by
  refine .bind _ uuidsForSsid_ensures fun out => ?_
  rintro shell log ⟨vs, rfl, stays⟩
  have each : words (printed (distinct (printed (vs.map Uuid.text)))) =
      (vs.map Uuid.text).eraseDups := by
    rw [distinct_found, words_printed fun row member => solid_found member]
  rw [each]
  refine Session.Ensures.bind _ (joinSaved_ensures absent (found_subset vs us)) (fun done => ?_) shell
    log stays
  refine .ite (fun live => finishOk_ensures.before fun shell log checked => live ▸ checked) fun _ => ?_
  refine .bind _ (liveOk_ensures.before fun _ _ => And.left) fun live => ?_
  refine .ite (fun up => finishOk_ensures.before fun shell log checked => up ▸ checked) fun down => ?_
  refine .ite (fun unlocked => ?_) fun locked => ?_
  · exact (joinOpen_ensures absent unlocked).before fun _ _ => And.left
  · refine finish_ensures.before fun shell log checked => ⟨checked.1, .needPw ?_ absent ?_⟩
    · exact fun live => down (checked.2.mpr live)
    · exact Bool.eq_false_iff.mpr locked

end Saved

/-! ## With a password -/

section Given

variable (given : want.pass ≠ []) {post : Unit → Shell → ScriptLog → Prop}

include given

/-- The password that was asked for is given for any of the network's connections. -/
theorem passed_ensures {id : Text} (known : id = want.ssid ∨ id ∈ us) :
    (upWithPsk want id want.pass).Ensures (Going want us) (fun _ => Stays host want us)
      (Over host want) :=
  (upWithPsk_ensures known).before fun _ _ going => ⟨going, by rw [Given, if_pos given]⟩

/-- An existing connection is activated with the password, and looked at again. -/
theorem joinExisting_ensures {existed : Text} (known : existed ∈ us) :
    (joinExisting host tries want existed).Ensures (Going want us) (fun _ => Stays host want us)
      (Over host want) := by
  refine .bind (fun _ => Stays host want us) ?_ fun _ => ?_
  · exact (run_ensures rfl).before fun shell log going => ⟨going, .inr (going.own _ known), rfl⟩
  refine .bind _ ((passed_ensures given (.inr known)).before fun _ _ => And.left) fun begun =>
    .ite (fun _ => ?_) fun _ => ?_
  · refine .bind _ ((waitLive_ensures tries).before fun _ _ => And.left) fun live => .ite ?_ ?_
    · exact fun up => finishOk_ensures.before fun shell log checked => up ▸ checked
    · intro down
      refine (failExplain_ensures given).before fun shell log checked => ⟨checked.1, ?_⟩
      exact fun live => down (checked.2.mpr live)
  · refine .bind (fun seen shell log => Stays host want us shell log ∧ seen = shell)
      (.get fun shell log stays => ⟨stays, rfl⟩) fun seen => .ite (fun wrong => ?_) fun _ => ?_
    · exact failWrongPw_ensures.before fun shell log pre => ⟨pre.1, pre.2 ▸ wrong⟩
    · exact .pure fun shell log pre => pre.1

/-- **A join by `device wifi connect`** ends in a verdict. -/
theorem joinDirect_ensures :
    (joinDirect host tries want).Ensures (Going want us) post (Over host want) := by
  refine .bind (fun _ => Stays host want us) ?_ fun _ => ?_
  · exact (run_ensures rfl).before fun shell log going => ⟨going, rfl, rfl⟩
  refine .bind _ ((waitLive_ensures tries).before fun _ _ => And.left) fun live => .ite ?_ ?_
  · exact fun up => finishOk_ensures.before fun shell log checked => up ▸ checked
  intro down
  have stays {shell : Shell} {log : ScriptLog} (checked : Checked host want us live shell log) :
      Stays host want us shell log := ⟨checked.1, fun up => down (checked.2.mpr up)⟩
  refine .bind (fun seen shell log => Stays host want us shell log ∧ seen = shell)
    (.get fun shell log checked => ⟨stays checked, rfl⟩) fun seen => .ite (fun wrong => ?_) fun _ => ?_
  · exact failWrongPw_ensures.before fun shell log pre => ⟨pre.1, pre.2 ▸ wrong⟩
  · exact (failExplain_ensures given).before fun shell log => And.left

/-- Its second attempt does. -/
theorem joinRetried_ensures :
    (joinRetried host tries want).Ensures (Going want us) post (Over host want) := by
  refine .ite (fun _ => ?_) fun _ => joinDirect_ensures given
  refine .bind (fun _ => Stays host want us) ?_ fun _ => ?_
  · exact (run_ensures rfl).before fun shell log going => ⟨going, .inl rfl, rfl⟩
  refine .bind _ (upAndWait_ensures ((passed_ensures given (.inl rfl)).before fun _ _ => And.left))
    fun live => .ite (fun up => ?_) fun _ => ?_
  · exact finishOk_ensures.before fun shell log checked => up ▸ checked
  · exact (joinDirect_ensures given).before fun _ _ => And.left

/-- **A join of a network without a connection** does. -/
theorem joinNew_ensures :
    (joinNew host tries want).Ensures (Going want us) post (Over host want) := by
  refine .bind _ deleteSsidProfiles_ensures fun _ => .bind (fun _ => Stays host want us) ?_ fun _ =>
    .bind (fun _ => Stays host want us) ?_ fun _ => ?_
  · refine (run_ensures rfl).before fun shell log stays => ⟨stays.1, rfl, ?_⟩
    exact fun s made => Option.some_inj.mp made ▸ rfl
  · exact (run_ensures rfl).before fun shell log stays => ⟨stays.1, .inl rfl, rfl⟩
  refine .bind _ (upAndWait_ensures ((passed_ensures given (.inl rfl)).before fun _ _ => And.left))
    fun live => .ite (fun up => ?_) fun _ => ?_
  · exact finishOk_ensures.before fun shell log checked => up ▸ checked
  · exact (joinRetried_ensures given).before fun _ _ => And.left

/-- **A join with a password** does. -/
theorem joinWith_ensures :
    (joinWith host tries want).Ensures (Going want us) post (Over host want) := by
  refine .bind (fun _ => Going want us) ?_ fun _ => .bind _ uuidsForSsid_ensures fun out => ?_
  · refine .modify fun shell log going => ?_
    exact ⟨going.justified, going.own, going.attempt, fun _ => .inl given⟩
  rintro shell log ⟨vs, rfl, stays⟩
  rw [distinct_found]
  cases uuids : (vs.map Uuid.text).eraseDups with
  | nil => exact joinNew_ensures given shell log stays.1
  | cons uuid rest =>
      have member : uuid ∈ (vs.map Uuid.text).eraseDups := uuids ▸ List.mem_cons_self
      have solid := solid_found member
      have read : substitute (uuid ++ [newline]) = uuid := substitute_line solid.newline_notMem
      simp only [read, solid.1, ne_eq, not_false_eq_true, if_true]
      refine Session.Ensures.bind _ (joinExisting_ensures given (found_subset vs us member))
        (fun _ => ?_) shell log stays.1
      exact (joinNew_ensures given).before fun _ _ => And.left

end Given

/-! ## The join -/

/-- Before the attempt file is made. -/
structure Prepared (host : Host) (want : Wanted) (shell : Shell) (log : ScriptLog) : Prop where
  justified : Justified (Allowed want) log
  dead : ¬SaysLive host want log
  silent : attemptOf log = []
  gave : shell.gavePsk = false

/-- What is done before the attempt file is made is allowed. -/
theorem prepare_ensures (action : Action) (kept : Kept action = false)
    (allowed : ∀ log, Allowed want log (.act action)) {leave : Ending → Shell → ScriptLog → Prop} :
    (quiet action).Ensures (Prepared host want) (fun _ => Prepared host want) leave := by
  intro shell log prepared reply
  refine ⟨⟨allowed log, prepared.justified⟩, fun live => live, ?_, prepared.gave⟩
  rw [attemptOf, kept, prepared.silent]
  rfl

theorem setup_ensures {leave : Ending → Shell → ScriptLog → Prop} :
    (setup want).Ensures (Prepared host want) (fun _ => Prepared host want) leave := by
  refine .bind _ (prepare_ensures .radioOn rfl fun _ => trivial) fun _ =>
    .bind _ (prepare_ensures .networkingOn rfl fun _ => trivial) fun _ =>
    .ite (fun _ => ?_) fun _ => ?_
  · exact .bind _ (prepare_ensures (.setManaged want.iface) rfl fun _ => trivial) fun _ =>
      .bind _ (prepare_ensures (.setAutoconnect want.iface) rfl fun _ => trivial) fun _ =>
      .pure fun shell log prepared => prepared
  · exact .pure fun shell log prepared => prepared

/-- Every join is left with a verdict, and all that it has called was allowed. -/
theorem join_ensures :
    (join host tries want).Ensures (fun shell log => shell = {} ∧ log = []) (fun _ _ _ => False)
      (Over host want) := by
  refine .bind (fun _ => Prepared host want) (setup_ensures.before ?_) fun _ =>
    .bind (fun _ => Stays host want []) ?_ fun _ => ?_
  · rintro _ _ ⟨rfl, rfl⟩
    exact ⟨trivial, fun live => live, rfl, rfl⟩
  · refine .modify fun shell log prepared => ⟨⟨prepared.justified, ?_, ?_, ?_⟩, prepared.dead⟩
    · exact fun u member => absurd member List.not_mem_nil
    · rw [prepared.silent]
    · exact fun gave => absurd (prepared.gave.symm.trans gave) Bool.false_ne_true
  refine .ite (fun unsupported => ?_) fun _ => ?_
  · exact finish_ensures.before fun shell log stays =>
      ⟨stays.1, .failed stays.2 (.enterprise unsupported)⟩
  refine .bind _ (liveOk_ensures.before fun _ _ => And.left) fun live =>
    .ite (fun up => ?_) fun _ => .ite (fun absent => ?_) fun given => ?_
  · exact finishOk_ensures.before fun shell log checked => up ▸ checked
  · exact (joinWithout_ensures absent).before fun _ _ => And.left
  · exact (joinWith_ensures given).before fun _ _ => And.left

end Script.Connect

end Ginkgo
