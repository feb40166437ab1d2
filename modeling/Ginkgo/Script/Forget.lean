import Ginkgo.Script.Outcome

/-!
# What a forget comes to

A forget deletes by UUID the listed profiles that it takes for the network's and no others,
whatever `nmcli` answers, and it leaves a device only when the network is in use. What it compares
with the name of the network is what `nmcli` prints, as `read` and `$(…)` leave it: the profiles
that it takes for the network's are the network's exactly when that name has no colon and no
backslash (`Ginkgo.Script.Connect.tells_iff`).
-/

namespace Ginkgo

open CText Calls

namespace Script.Connect

variable {host : Host} {ssid iface : Text} {log : ScriptLog}

/-! ## What a forget may do -/

/-- A listed connection is taken for the network's: by its stored SSID or by its name, as they are
read. -/
def Matches (ssid out : Text) (row : Listed) : Prop :=
  substitute out = ssid ∨ lastField (escape row.name) = ssid ∨
    lastField (escape row.name) = txt "gemini-" ++ ssid

/-- A connection is the network's: by its stored SSID or by its name, as they are. -/
def IsOf (ssid stored : Text) (row : Listed) : Prop :=
  stored = ssid ∨ row.name = ssid ∨ row.name = txt "gemini-" ++ ssid

/-- The connections that are taken for the network's are the network's, whatever is stored and
listed. -/
def Tells (ssid : Text) : Prop :=
  ∀ (row : Listed) (stored : Text), newline ∉ stored →
    (Matches ssid (escape stored ++ [newline]) row ↔ IsOf ssid stored row)

/-- What a forget may do after what it has been told. -/
def Forgets (ssid iface : Text) (log : ScriptLog) : Call → Prop
  | .act (.deleteId name) => name = ssid ∨ name = txt "gemini-" ++ ssid
  | .act (.deleteUuid uuid) => ∃ rows : List Listed, ∃ row ∈ rows, ∃ out : Text,
      (⟨.list .names, rows⟩ : Exchange Call Answer) ∈ log ∧ isWifiType row.type = true ∧
        row.uuid.text = uuid ∧ (⟨.read (.ssidOf uuid), out⟩ : Exchange Call Answer) ∈ log ∧
        Matches ssid out row
  | .act (.disconnect device) => ∃ list : Text,
      (⟨.read .wifiList, list⟩ : Exchange Call Answer) ∈ log ∧ inUse list = ssid ∧
        if iface ≠ [] then device = iface
        else ∃ kinds : Text, (⟨.read .deviceKinds, kinds⟩ : Exchange Call Answer) ∈ log ∧
          device ∈ wifiNames kinds
  | .act _ => False
  | _ => True

/-- A command has been called. -/
def Called (log : ScriptLog) (action : Action) : Prop :=
  ∃ reply : Reply, (⟨.act action, reply⟩ : Exchange Call Answer) ∈ log

/-- A listed connection has been dealt with: a wifi one has been asked for its SSID, and deleted
when it is taken for the network's. -/
def Dealt (ssid : Text) (log : ScriptLog) (row : Listed) : Prop :=
  isWifiType row.type = true → ∃ out : Text,
    (⟨.read (.ssidOf row.uuid.text), out⟩ : Exchange Call Answer) ∈ log ∧
      (Matches ssid out row → Called log (.deleteUuid row.uuid.text))

/-- The network is left if it is in use. -/
def Left (ssid iface : Text) (log : ScriptLog) : Prop :=
  ∃ list : Text, (⟨.read .wifiList, list⟩ : Exchange Call Answer) ∈ log ∧
    (inUse list = ssid →
      if iface ≠ [] then Called log (.disconnect iface)
      else ∃ kinds : Text, (⟨.read .deviceKinds, kinds⟩ : Exchange Call Answer) ∈ log ∧
        ∀ device ∈ wifiNames kinds, device ≠ [] → Called log (.disconnect device))

/-- How a forget ends. -/
structure Forgotten (host : Host) (ssid iface : Text) (ending : Ending) (log : ScriptLog) : Prop where
  justified : Justified (Forgets ssid iface) log
  named : Called log (.deleteId ssid) ∧ Called log (.deleteId (txt "gemini-" ++ ssid))
  dealt : ∃ rows : List Listed, (⟨.list .names, rows⟩ : Exchange Call Answer) ∈ log ∧
    ∀ row ∈ rows, Dealt ssid log row
  left : Left ssid iface log
  ending : ending = ⟨0, host.echo (txt "已忘记 " ++ ssid)⟩

/-! ## Which connections are the network's -/

/-- A plain name is read from a name that is printed exactly when it is that name. -/
theorem lastField_escape_eq_iff {name plain : Text} (clean : ∀ c ∈ plain, c ≠ colon ∧ c ≠ backslash) :
    lastField (escape name) = plain ↔ name = plain := by
  constructor
  · intro read
    rcases lastField_cases (escape name) with whole | cut
    · exact (escape_eq_iff clean).mp (whole.symm.trans read)
    · rw [read] at cut
      have same : name = plain := by
        rw [← cutAt_escape_eq_iff clean, cut]
        exact cutAt_append (fun member => (clean _ member).1 rfl) []
      rw [same, escape_of_plain clean] at cut
      simp at cut
  · rintro rfl
    rw [escape_of_plain clean]
    exact lastField_of_notMem fun member => (clean _ member).1 rfl

/-- **When a forget tells the network's connections from others.** When the network's name has no
colon and no backslash. -/
theorem tells_iff (line : newline ∉ ssid) :
    Tells ssid ↔ ∀ c ∈ ssid, c ≠ colon ∧ c ≠ backslash := by
  constructor
  · intro tells
    by_contra special
    have marked : ∃ c ∈ ssid, c = colon ∨ c = backslash := by
      by_contra clean
      refine special fun c member => ⟨fun same => clean ⟨c, member, .inl same⟩,
        fun same => clean ⟨c, member, .inr same⟩⟩
    have some : ssid ≠ [] := by
      rintro rfl
      exact marked.elim fun c found => absurd found.1 List.not_mem_nil
    -- A connection without a name that stores the SSID is the network's, and it is not taken for it.
    have taken := (tells ⟨⟨txt "0", by decide +kernel, by decide +kernel, by decide +kernel⟩,
      [], [], List.forall_mem_nil _, List.not_mem_nil⟩ ssid line).mpr (.inl rfl)
    rcases taken with stored | named | older
    · rw [substitute_line (notMem_escape line (by decide))] at stored
      exact escape_ne_self marked stored
    · exact some named.symm
    · exact some (List.append_eq_nil_iff.mp (show txt "gemini-" ++ ssid = [] from older.symm)).2
  · intro plain row stored clean
    rw [Matches, IsOf, substitute_line (notMem_escape clean (by decide)), escape_eq_iff plain,
      lastField_escape_eq_iff plain, lastField_escape_eq_iff (gemini_plain plain)]

/-- To forget the network `x\` a connection of the name `x:` is deleted as well. -/
example : lastField (escape (txt "x:")) = txt "x\\" := by decide +kernel

/-! ## Steps -/

/-- What has been called stays called. -/
theorem Called.grow {action : Action} (called : Called log action)
    (exchange : Exchange Call Answer) : Called (exchange :: log) action :=
  called.imp fun _ member => List.mem_cons_of_mem _ member

/-- What has been dealt with stays so. -/
theorem Dealt.grow {row : Listed} (dealt : Dealt ssid log row) (exchange : Exchange Call Answer) :
    Dealt ssid (exchange :: log) row := by
  intro wifi
  obtain ⟨out, read, deleted⟩ := dealt wifi
  exact ⟨out, List.mem_cons_of_mem _ read, fun same => (deleted same).grow exchange⟩

/-- A forget is under way, and these calls have been made. -/
structure Told (ssid iface : Text) (known log : ScriptLog) : Prop where
  justified : Justified (Forgets ssid iface) log
  known : known ⊆ log

/-- One more call that a forget may make. -/
theorem Told.grow {known : ScriptLog} (told : Told ssid iface known log)
    {exchange : Exchange Call Answer} (allowed : Forgets ssid iface log exchange.request) :
    Told ssid iface (exchange :: known) (exchange :: log) where
  justified := ⟨allowed, told.justified⟩
  known := List.cons_subset_cons exchange told.known

/-- What has been told is told from a shorter record too. -/
theorem Told.kept {known : ScriptLog} {exchange : Exchange Call Answer}
    (told : Told ssid iface (exchange :: known) log) : Told ssid iface known log :=
  ⟨told.justified, fun _ member => told.known (List.mem_cons_of_mem _ member)⟩

/-- A command on the record has been called. -/
theorem Told.called {known : ScriptLog} {action : Action} {reply : Reply}
    (told : Told ssid iface (⟨.act action, reply⟩ :: known) log) : Called log action :=
  ⟨reply, told.known List.mem_cons_self⟩

section Rules

variable {known : ScriptLog} {leave : Ending → Shell → ScriptLog → Prop}

/-- A call that is allowed goes on the record with its answer. -/
theorem request_forgets (call : Call)
    (allowed : ∀ log, Told ssid iface known log → Forgets ssid iface log call) :
    (Session.request call : Sh (Answer call)).Ensures (fun _ log => Told ssid iface known log)
      (fun answer _ log => Told ssid iface (⟨call, answer⟩ :: known) log) leave :=
  .request fun _ _ log told => told.grow (allowed log told)

/-- A command that is allowed does. -/
theorem quiet_forgets (action : Action)
    (allowed : ∀ log, Told ssid iface known log → Forgets ssid iface log (.act action)) :
    (quiet action).Ensures (fun _ log => Told ssid iface known log)
      (fun _ _ log => ∃ reply, Told ssid iface (⟨.act action, reply⟩ :: known) log) leave :=
  .bind _ (request_forgets _ allowed) fun reply => .pure fun _ _ told => ⟨reply, told⟩

/-- **The loop over the listed connections** deals with each of them. -/
theorem forgetUuids_ensures {all : List Listed} (listed : ⟨.list .names, all⟩ ∈ known)
    (rows : List Listed) (subset : rows ⊆ all) :
    (forgetUuids ssid (rows.map Listed.full)).Ensures (fun _ log => Told ssid iface known log)
      (fun _ _ log => Told ssid iface known log ∧ ∀ row ∈ rows, Dealt ssid log row) leave := by
  induction rows with
  | nil => exact .pure fun _ _ told => ⟨told, fun row member => absurd member List.not_mem_nil⟩
  | cons row rows ih =>
      have later : (forgetUuids ssid (rows.map Listed.full)).Ensures
          (fun _ log => Told ssid iface known log ∧ Dealt ssid log row)
          (fun _ _ log => Told ssid iface known log ∧ ∀ row' ∈ row :: rows, Dealt ssid log row')
          leave := by
        have rest := ih fun other member => subset (List.mem_cons_of_mem row member)
        refine (rest.frame fun exchange log (dealt : Dealt ssid log row) => dealt.grow exchange).mono
          (fun _ _ => id) ?_ fun _ _ _ => And.left
        exact fun _ _ log post => ⟨post.1.1, List.forall_mem_cons.mpr ⟨post.2, post.1.2⟩⟩
      rw [List.map_cons, forgetUuids, row.read3_full]
      refine .ite (fun other => ?_) fun wifi => ?_
      · refine later.before fun _ log told => ⟨told, fun wifi => ?_⟩
        simp [wifi] at other
      rw [Bool.not_eq_true', Bool.not_eq_false] at wifi
      refine .bind _ (request_forgets _ fun _ _ => trivial) fun s => .ite (fun same => ?_) fun other => ?_
      · refine .bind _ (quiet_forgets _ fun log told => ?_) fun _ => ?_
        · exact ⟨all, row, subset List.mem_cons_self, s,
            told.known (List.mem_cons_of_mem _ listed), wifi, rfl, told.known List.mem_cons_self, same⟩
        · refine later.before fun _ log post => ?_
          obtain ⟨reply, told⟩ := post
          exact ⟨told.kept.kept, fun _ => ⟨s, told.kept.known List.mem_cons_self, fun _ => told.called⟩⟩
      · refine later.before fun _ log told => ⟨told.kept, fun _ => ?_⟩
        exact ⟨s, told.known List.mem_cons_self, fun same => absurd same other⟩

/-- The loop over the devices disconnects those that it may. -/
theorem disconnectAll_ensures {list kinds : Text} (used : inUse list = ssid) (unnamed : iface = [])
    (read : ⟨.read .wifiList, list⟩ ∈ known) (listed : ⟨.read .deviceKinds, kinds⟩ ∈ known)
    (devices : List Text) (subset : devices ⊆ wifiNames kinds) :
    (disconnectAll devices).Ensures (fun _ log => Told ssid iface known log)
      (fun _ _ log => Told ssid iface known log ∧
        ∀ device ∈ devices, device ≠ [] → Called log (.disconnect device)) leave := by
  induction devices with
  | nil => exact .pure fun _ _ told => ⟨told, fun device member => absurd member List.not_mem_nil⟩
  | cons device devices ih =>
      have rest := ih fun other member => subset (List.mem_cons_of_mem device member)
      refine .ite (fun empty => ?_) fun _ => .bind _ (quiet_forgets _ fun log told => ?_) fun _ => ?_
      · refine rest.mono (fun _ _ => id) (fun _ _ log post => ⟨post.1, ?_⟩) fun _ _ _ => id
        exact List.forall_mem_cons.mpr ⟨fun named => absurd empty named, post.2⟩
      · refine ⟨list, told.known read, used, ?_⟩
        rw [if_neg (absurd unnamed ·)]
        exact ⟨kinds, told.known listed, subset List.mem_cons_self⟩
      · refine (rest.frame fun exchange log (called : Called log (.disconnect device)) =>
          called.grow exchange).mono ?_ ?_ fun _ _ _ => And.left
        · rintro _ log ⟨reply, told⟩
          exact ⟨told.kept, told.called⟩
        · exact fun _ _ log post => ⟨post.1.1, List.forall_mem_cons.mpr ⟨fun _ => post.2, post.1.2⟩⟩

/-- The end of a forget leaves the network if it is in use. -/
theorem leaveNetwork_ensures :
    (leaveNetwork host ssid iface).Ensures (fun _ log => Told ssid iface known log)
      (fun _ _ _ => False) (fun ending _ log => (Told ssid iface known log ∧ Left ssid iface log) ∧
        ending = ⟨0, host.echo (txt "已忘记 " ++ ssid)⟩) := by
  refine .bind _ (request_forgets _ fun _ _ => trivial) fun list => .ite (fun used => ?_) fun unused => ?_
  · refine .ite (fun named => ?_) fun unnamed => ?_
    · refine .bind _ (quiet_forgets _ fun log told => ?_) fun _ => .exit ?_
      · refine ⟨list, told.known List.mem_cons_self, used, ?_⟩
        rw [if_pos named]
      · rintro _ log ⟨reply, told⟩
        refine ⟨⟨told.kept.kept, list, told.kept.known List.mem_cons_self, fun _ => ?_⟩, rfl⟩
        rw [if_pos named]
        exact told.called
    · rw [ne_eq, not_not] at unnamed
      refine .bind _ (request_forgets _ fun _ _ => trivial) fun kinds =>
        .bind _ (disconnectAll_ensures used unnamed (List.mem_cons_of_mem _ List.mem_cons_self)
          List.mem_cons_self _ (List.Subset.refl _)) fun _ => .exit fun _ log told => ⟨?_, rfl⟩
      refine ⟨told.1.kept.kept, list, told.1.kept.known List.mem_cons_self, fun _ => ?_⟩
      rw [if_neg (absurd unnamed ·)]
      exact ⟨kinds, told.1.known List.mem_cons_self, told.2⟩
  · refine .exit fun _ log told => ⟨⟨told.kept, list, told.known List.mem_cons_self, ?_⟩, rfl⟩
    exact fun used => absurd used unused

end Rules

/-- A forget ends well, whatever it is answered. -/
theorem forget_ensures : (forget host ssid iface).Ensures (fun _ log => log = [])
    (fun _ _ _ => False) (fun ending _ log => Forgotten host ssid iface ending log) := by
  have first (log : ScriptLog) : Forgets ssid iface log (.act (.deleteId ssid)) := .inl rfl
  have second (log : ScriptLog) :
      Forgets ssid iface log (.act (.deleteId (txt "gemini-" ++ ssid))) := .inr rfl
  refine .bind (fun _ _ log => ∃ r, Told ssid iface [⟨.act (.deleteId ssid), r⟩] log)
    ((quiet_forgets _ fun log _ => first log).before ?_) fun _ => .of_exists fun r₁ =>
    .bind _ (quiet_forgets _ fun log _ => second log) fun _ => .of_exists fun r₂ =>
    .bind _ (request_forgets _ fun _ _ => trivial) fun rows => ?_
  · rintro _ _ rfl
    exact ⟨trivial, List.Subset.refl []⟩
  rw [records_printed_map Listed.newline_notMem_full]
  refine .bind _ (forgetUuids_ensures List.mem_cons_self rows (List.Subset.refl rows)) fun _ => ?_
  refine (leaveNetwork_ensures.frame fun exchange log (dealt : ∀ row ∈ rows, Dealt ssid log row)
    row member => (dealt row member).grow exchange).mono (fun _ _ => id) (fun _ _ _ => And.left) ?_
  rintro ending _ log ⟨⟨⟨told, left⟩, ends⟩, dealt⟩
  exact ⟨told.justified, ⟨told.kept.kept.called, told.kept.called⟩,
    ⟨rows, told.known List.mem_cons_self, dealt⟩, left, ends⟩

/-- **A forget is exact.** Whatever `nmcli` answers, a run deletes by UUID every listed profile that
is taken for the network's and no other, by name only the network's own, and leaves a device only
when the network is in use; and what is taken for the network's is the network's, whatever is stored
and listed, exactly when its name has no colon and no backslash. -/
theorem forget_exact (line : newline ∉ ssid) {shell : Shell}
    {outcome : Except Ending Unit × Shell}
    (runs : (forget host ssid iface shell).Runs [] outcome log) :
    (∃ ending, outcome.1 = .error ending ∧ Forgotten host ssid iface ending log) ∧
      (Tells ssid ↔ ∀ c ∈ ssid, c ≠ colon ∧ c ≠ backslash) := by
  refine ⟨?_, tells_iff line⟩
  have ends := Program.wp_iff_runs.mp (@forget_ensures host ssid iface shell [] rfl) _ _ runs
  obtain ⟨result, shell⟩ := outcome
  cases result with
  | ok value => exact ends.elim
  | error ending => exact ⟨ending, rfl, ends⟩

/-- The network at home is forgotten. -/
theorem forget_exact_home :
    (∃ ending,
      ((forget plainHost homeNet.ssid homeNet.iface {}).eval homeAnswers () []).1.1 = .error ending ∧
        Forgotten plainHost homeNet.ssid homeNet.iface ending
          ((forget plainHost homeNet.ssid homeNet.iface {}).eval homeAnswers () []).2.1) ∧
      (Tells homeNet.ssid ↔ ∀ c ∈ homeNet.ssid, c ≠ colon ∧ c ≠ backslash) :=
  forget_exact homeName_line
    (Program.runs_eval homeAnswers (forget plainHost homeNet.ssid homeNet.iface {}) () [])

end Script.Connect

end Ginkgo
