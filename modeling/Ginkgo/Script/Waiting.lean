import Ginkgo.Calls.Cost
import Ginkgo.Script.Outcome

/-!
# How long a join waits

`nmcli` is told how long it may take to bring a connection up, and `wait_live` sleeps between its
checks. A join tries each saved profile for as long as that at most, and has four more ways in.
-/

namespace Ginkgo

open CText Calls

namespace Script

/-- The seconds that an action may take: the `-w` of `nmcli`, and the second of a `sleep`. -/
def Action.wait : Action → Nat
  | .up _ _ _ | .wifiConnect _ _ _ => 30
  | .deleteId _ | .deleteUuid _ | .disconnect _ => 3
  | .sleep => 1
  | _ => 0

/-- The seconds that a run has waited at most. -/
def waited : ScriptLog → Nat
  | [] => 0
  | ⟨.act action, _⟩ :: earlier => waited earlier + action.wait
  | _ :: earlier => waited earlier

/-- How many saved profiles have been looked at to bring them up. -/
def tried : ScriptLog → Nat
  | [] => 0
  | ⟨.read (.keyMgmtOf _), _⟩ :: earlier => tried earlier + 1
  | _ :: earlier => tried earlier

/-- A look at a saved profile is a credit of one attempt. -/
def weight (attempt : Nat) : Exchange Call Answer → Int
  | ⟨.act action, _⟩ => action.wait
  | ⟨.read (.keyMgmtOf _), _⟩ => -attempt
  | _ => 0

/-- The credits are for what has been waited less the attempts that looks have paid for. -/
theorem weigh_eq (attempt : Nat) (log : ScriptLog) :
    Session.weigh (weight attempt) log = waited log - attempt * tried log := by
  induction log with
  | nil => simp [Session.weigh, waited, tried]
  | cons exchange log ih =>
      rw [Session.weigh, ih]
      obtain ⟨call, answer⟩ := exchange
      cases call with
      | list fields => exact Int.add_zero _
      | act action =>
          change (waited log - attempt * tried log : Int) + action.wait =
            ((waited log + action.wait : Nat) : Int) - attempt * tried log
          omega
      | read query =>
          cases query with
          | keyMgmtOf uuid =>
              change (waited log - attempt * tried log : Int) + -(attempt : Int) =
                waited log - attempt * ((tried log + 1 : Nat) : Int)
              rw [Nat.cast_add, Int.mul_add]
              omega
          | _ => exact Int.add_zero _

namespace Connect

section Rules

variable {each : Nat}

/-- Listing connections costs nothing. -/
theorem connections_costs (fields : Listing) : (connections fields).Costs (weight each) 0 :=
  .request fun _ => Int.le_refl 0

theorem ask_costs (query : Query) : (ask query).Costs (weight each) 0 := by
  refine .request fun _ => ?_
  cases query with
  | keyMgmtOf uuid => exact Int.neg_nonpos_of_nonneg (Int.natCast_nonneg each)
  | _ => exact Int.le_refl 0

/-- An action costs what it may wait. -/
theorem act_costs (action : Action) :
    (Session.request (Call.act action) : Sh Reply).Costs (weight each) action.wait :=
  .request fun _ => Int.le_refl _

/-- So it does when its output is not kept. -/
theorem quiet_costs (action : Action) : (quiet action).Costs (weight each) action.wait :=
  (act_costs action).followed fun _ => .pure

theorem run_costs (action : Action) : (run action).Costs (weight each) action.wait :=
  (act_costs action).followed fun _ => Session.Costs.modify.after fun _ => .pure

end Rules

/-! ## The functions of the script -/

section Functions

variable {host : Host} {tries each : Nat} {want : Wanted}

/-- The preparation costs nothing. -/
theorem setup_costs : (setup want).Costs (weight each) 0 :=
  (quiet_costs .radioOn).after fun _ => (quiet_costs .networkingOn).after fun _ =>
    .ite ((quiet_costs (.setManaged want.iface)).after fun _ =>
      (quiet_costs (.setAutoconnect want.iface)).after fun _ => .pure) .pure

/-- Looking at the connections for their SSIDs costs nothing. -/
theorem ownUuids_costs (lines : List Text) : (ownUuids host want lines).Costs (weight each) 0 := by
  induction lines with
  | nil => exact .pure
  | cons line rest ih => exact .ite ih ((ask_costs _).after fun _ => ih.after fun _ => .pure)

/-- `uuids_for_ssid` costs nothing. -/
theorem uuidsForSsid_costs : (uuidsForSsid host want).Costs (weight each) 0 :=
  (connections_costs .kinds).after fun _ => (ownUuids_costs _).after fun _ =>
    (connections_costs .lines).after fun _ => .pure

/-- Deleting connections costs nothing. -/
theorem deleteUuids_costs (uuids : List Text) : (deleteUuids uuids).Costs (weight each) 0 := by
  induction uuids with
  | nil => exact .pure
  | cons uuid rest ih => exact (run_costs (.delete uuid)).after fun _ => ih

/-- `delete_ssid_profiles` costs nothing. -/
theorem deleteSsidProfiles_costs : (deleteSsidProfiles host want).Costs (weight each) 0 :=
  uuidsForSsid_costs.after fun _ => deleteUuids_costs _

/-- An activation waits half a minute at most. -/
theorem up_costs (id : Text) : (up want id).Costs (weight each) 30 := run_costs _

theorem upWithPsk_costs (id psk : Text) : (upWithPsk want id psk).Costs (weight each) 30 :=
  .ite (Session.Costs.modify.after fun _ => Session.Costs.modify.after fun _ =>
    Session.Costs.get.after fun _ => run_costs _) (up_costs id)

/-- Reading a stored password costs nothing. -/
theorem storedPsk_costs (id : Text) : (storedPsk id).Costs (weight each) 0 :=
  (ask_costs _).after fun _ => .pure

/-- Ending costs nothing. -/
theorem finish_costs {α : Type} (out : Text) (code : Nat) :
    (finish out code : Sh α).Costs (weight each) 0 :=
  Session.Costs.modify.after fun _ => .exit

theorem failExplain_costs : (failExplain : Sh Unit).Costs (weight each) 0 :=
  Session.Costs.get.after fun _ => .ite (finish_costs _ _) <| .ite (finish_costs _ _) <|
    .ite (finish_costs _ _) <| .ite (finish_costs _ _) <| .ite (finish_costs _ _) (finish_costs _ _)

/-- A check costs nothing. -/
theorem liveOk_costs : (liveOk host want).Costs (weight each) 0 :=
  (ask_costs _).after fun _ => .ite ((ask_costs _).after fun _ => .pure) .pure

/-- `wait_live` sleeps a second before each of its checks but the last. -/
theorem waitLive_costs (n : Nat) : (waitLive host want n).Costs (weight each) n := by
  induction n with
  | zero => exact liveOk_costs
  | succ n ih =>
      have slept : (quiet .sleep >>= fun _ => waitLive host want n).Costs (weight each) (1 + n) :=
        (quiet_costs .sleep).bind fun _ => ih
      exact liveOk_costs.after fun _ => .ite .pure (slept.mono (Nat.add_comm 1 n).le)

/-- An activation and the checks after it make up one attempt. -/
theorem upAndWait_costs {started : Sh Bool} (costs : started.Costs (weight each) 30) :
    (upAndWait host tries want started).Costs (weight each) (30 + tries) :=
  costs.bind fun _ => .ite (waitLive_costs tries) .pure

/-- Ending for a wrong password costs nothing. -/
theorem orWrongPw_costs (done : Bool) : (orWrongPw done).Costs (weight each) 0 :=
  .ite .pure (Session.Costs.get.after fun _ => .ite (finish_costs _ _) .pure)

/-- A saved profile is brought up once, and its look pays for that. -/
theorem trySaved_costs (uuid : Text) :
    (trySaved host tries want uuid).Costs (weight (30 + tries)) 0 :=
  .credit (fun _ => Int.le_refl _) fun _ => (ask_costs _).after fun _ =>
    (storedPsk_costs uuid).after fun psk => .ite (upAndWait_costs (up_costs uuid)) <|
      .ite ((upAndWait_costs (upWithPsk_costs uuid psk)).followed orWrongPw_costs) <|
        .ite .pure ((upAndWait_costs (up_costs uuid)).followed orWrongPw_costs)

/-- **The saved connections cost what their looks pay for.** -/
theorem joinSaved_costs (uuids : List Text) :
    (joinSaved host tries want uuids).Costs (weight (30 + tries)) 0 := by
  induction uuids with
  | nil => exact .pure
  | cons uuid rest ih => exact (trySaved_costs uuid).after fun _ => .ite .pure ih

/-- A join of an open network is one attempt. -/
theorem joinOpen_costs : (joinOpen host tries want).Costs (weight each) (30 + tries) :=
  deleteSsidProfiles_costs.after fun _ => (run_costs _).after fun _ =>
    (upAndWait_costs (up_costs _)).bind fun _ => .ite (finish_costs _ _) (finish_costs _ _)

/-- A join without a password is one attempt after the saved ones. -/
theorem joinWithout_costs :
    (joinWithout host tries want).Costs (weight (30 + tries)) (30 + tries) :=
  uuidsForSsid_costs.after fun _ => (joinSaved_costs _).after fun _ =>
    .ite ((finish_costs _ _).mono (Nat.zero_le _)) <| liveOk_costs.after fun _ =>
      .ite ((finish_costs _ _).mono (Nat.zero_le _)) <|
        .ite joinOpen_costs ((finish_costs _ _).mono (Nat.zero_le _))

/-- An existing connection is one attempt. -/
theorem joinExisting_costs (existed : Text) :
    (joinExisting host tries want existed).Costs (weight each) (30 + tries) :=
  (run_costs _).after fun _ => (upWithPsk_costs existed want.pass).bind fun _ =>
    .ite ((waitLive_costs tries).bind fun _ => .ite (finish_costs _ _) failExplain_costs) <|
      Session.Costs.get.after fun _ => .ite ((finish_costs _ _).mono (Nat.zero_le _)) .pure

/-- A join by `device wifi connect` is one. -/
theorem joinDirect_costs : (joinDirect host tries want).Costs (weight each) (30 + tries) :=
  (run_costs _).bind fun _ => (waitLive_costs tries).bind fun _ => .ite (finish_costs _ _) <|
    Session.Costs.get.after fun _ => .ite (finish_costs _ _) failExplain_costs

/-- With its second chance it is two. -/
theorem joinRetried_costs :
    (joinRetried host tries want).Costs (weight each) (30 + tries + (30 + tries)) :=
  .ite ((run_costs _).after fun _ => (upAndWait_costs (upWithPsk_costs _ _)).bind fun _ =>
      .ite ((finish_costs _ _).mono (Nat.zero_le _)) joinDirect_costs)
    (joinDirect_costs.mono (Nat.le_add_left _ _))

/-- A new connection is three attempts at most. -/
theorem joinNew_costs :
    (joinNew host tries want).Costs (weight each) (30 + tries + (30 + tries + (30 + tries))) :=
  deleteSsidProfiles_costs.after fun _ => (run_costs _).after fun _ => (run_costs _).after fun _ =>
    (upAndWait_costs (upWithPsk_costs _ _)).bind fun _ =>
      .ite ((finish_costs _ _).mono (Nat.zero_le _)) joinRetried_costs

/-- A join with a password is four at most. -/
theorem joinWith_costs : (joinWith host tries want).Costs (weight each) (4 * (30 + tries)) := by
  refine Session.Costs.modify.after fun _ => uuidsForSsid_costs.after fun _ => .ite ?_ ?_
  · exact ((joinExisting_costs _).bind fun _ => joinNew_costs).mono (by omega)
  · exact joinNew_costs.mono (by omega)

/-- **A join is four attempts** beyond those that looks pay for. -/
theorem join_costs : (join host tries want).Costs (weight (30 + tries)) (4 * (30 + tries)) := by
  refine setup_costs.after fun _ => Session.Costs.modify.after fun _ =>
    .ite ((finish_costs _ _).mono (Nat.zero_le _)) <| liveOk_costs.after fun _ =>
      .ite ((finish_costs _ _).mono (Nat.zero_le _)) (.ite ?_ joinWith_costs)
  exact joinWithout_costs.mono (by omega)

end Functions

/-- **A join does not wait for ever.** Whatever `nmcli` answers, a run waits at most as long as one
attempt for every saved profile that it looks at, and for four more. -/
theorem join_waits {host : Host} {tries : Nat} {want : Wanted}
    {outcome : Except Ending Unit × Shell} {log : ScriptLog}
    (runs : (join host tries want {}).Runs [] outcome log) :
    waited log ≤ (30 + tries) * (tried log + 4) := by
  have weighs := join_costs.runs runs
  rw [weigh_eq] at weighs
  have bound : (waited log : Int) ≤ ((30 + tries) * (tried log + 4) : Nat) := by
    rw [Nat.mul_add, Nat.mul_comm (30 + tries) 4, Nat.cast_add, Nat.cast_mul]
    omega
  exact Int.ofNat_le.mp bound

/-- The join of the network Home, with its own numbers. -/
theorem join_waits_home :
    waited (homeRun homeNet).2.1 ≤ (30 + 2) * (tried (homeRun homeNet).2.1 + 4) :=
  join_waits (Program.runs_eval homeAnswers (join plainHost 2 homeNet {}) () [])

end Connect

end Script

end Ginkgo
