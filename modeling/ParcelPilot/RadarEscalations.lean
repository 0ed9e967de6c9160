import ParcelPilot.ActionFrames
import ParcelPilot.Escalation
import ParcelPilot.RadarRecords
import ParcelPilot.RadarRuns

namespace ParcelPilot

-- The alerts whose tickets the workflow is to escalate. P1 is the severity that
-- makes a recurring alert high.
def AlertCandidate.Urgent (alert : AlertCandidate) : Prop :=
  alert.alertType = .slaBreach ∨ alert.alertType = .recurringIssue ∧ alert.severity = .high

section Agreement

variable [Host] {db : Db} {auth : AuthContext} {clock : SnapshotClock} {registry : Registry}
  {alertTypes : Option (List AlertType)} {windowDays : Int} {alertType : AlertType}
  {alert : AlertCandidate} {returned : List AlertCandidate} {ticketId : String}

-- What the workflow asks of a ticket, in its own terms.
def Escalatable (db : Db) (ticketId : String) (auth : AuthContext) (clock : SnapshotClock)
    (registry : Registry) : Prop :=
  ∃ ticket, (getTicket ticketId auth clock.tz).on db = .ok ticket ∧ ticket.status = .open_ ∧
    ∃ decision outcome, (calculateSla ticketId auth clock registry).on db = .ok decision ∧
      decision.result = some outcome ∧ outcome.escalates = true

theorem slaBreachAlert_escalates {ticket : Ticket} {decision : DecisionResult SlaOutcome}
    (raises : slaBreachAlert ticket decision = some alert) :
    ∃ outcome, decision.result = some outcome ∧ outcome.escalates = true := by
  unfold slaBreachAlert at raises
  split at raises
  · cases raises
  · rename_i outcome alerts
    split at raises
    · cases raises
    · rename_i breached
      unfold alertable at alerts
      split at alerts
      · cases alerts
      · rename_i found result
        split at alerts <;> cases alerts
        exact ⟨outcome,result,by simp [SlaOutcome.escalates,not_not.mp breached]⟩

theorem recurringTickets_severity {cutoff : DateTime} {severity : Severity} {ticket : Ticket}
    (counted : ticket ∈ recurringTickets db auth clock registry cutoff severity) :
    ∃ decision outcome, (calculateSla ticket.ticketId auth clock registry).on db = .ok decision ∧
      decision.result = some outcome ∧ outcome.severity = severity := by
  have kept := (List.mem_filter.mp counted).2
  rw [Bool.and_eq_true,decide_eq_true_eq,decide_eq_true_eq,Option.map_eq_some_iff] at kept
  obtain ⟨_,entry,found,named⟩ := kept
  obtain ⟨decision,calculated,enters⟩ := Option.bind_eq_some_iff.mp found
  unfold slaOf at calculated
  unfold recurringEntry at enters
  split at enters
  · cases enters
  · rename_i outcome result
    split at enters <;> cases enters
    cases ran : (calculateSla ticket.ticketId auth clock registry).on db with
    | error error =>
        rw [ran] at calculated
        cases calculated
    | ok found =>
        rw [ran] at calculated
        cases calculated
        exact ⟨_,_,rfl,result,named⟩

theorem raised_escalatable (raised : Raised db auth clock windowDays registry alertType alert)
    (urgent : alert.Urgent) (named : ticketId ∈ alert.representativeRecords) :
    Escalatable db ticketId auth clock registry := by
  have typed := raised_type raised
  cases raised with
  | breach listed calculated raises =>
      obtain ⟨_,_,_,records⟩ := slaBreachAlert_facts raises
      rw [records,List.mem_singleton] at named
      subst named
      obtain ⟨read,isOpen⟩ := mem_openTickets.mp listed
      obtain ⟨outcome,result,bar⟩ := slaBreachAlert_escalates raises
      exact ⟨_,read,isOpen,_,outcome,calculated,result,bar⟩
  | @recurring severity cutoff _ within high raises =>
      obtain ⟨_,_,_,_,_,records,level⟩ := recurringAlert_facts raises
      rw [records,Py.mem_sorted,List.mem_map] at named
      obtain ⟨ticket,counted,rfl⟩ := named
      obtain ⟨read,isOpen⟩ := mem_openTickets.mp (List.mem_filter.mp counted).1
      obtain ⟨decision,outcome,calculated,result,given⟩ := recurringTickets_severity counted
      refine ⟨ticket,read,isOpen,decision,outcome,calculated,result,?_⟩
      rcases urgent with other | ⟨_,top⟩
      · rw [typed] at other
        cases other
      · rw [level] at top
        have p1 : severity = .p1 := by
          by_contra lower
          rw [if_neg lower] at top
          cases top
        simp [SlaOutcome.escalates,given,p1]
  | approaching => simp [AlertCandidate.Urgent,typed] at urgent
  | issue => simp [AlertCandidate.Urgent,typed] at urgent
  | carrier => simp [AlertCandidate.Urgent,typed] at urgent
  | overdue => simp [AlertCandidate.Urgent,typed] at urgent

variable {reason userId requestId uuidHex : String}

-- An escalatable ticket is never refused: the call writes its proposal, or
-- raises before it has one.
theorem escalatable_prepares (able : Escalatable db ticketId auth clock registry) :
    PreparesEscalation db ticketId reason auth clock userId requestId registry uuidHex ↔
      Recordable db clock uuidHex := by
  obtain ⟨ticket,read,isOpen,eligible⟩ := able
  rw [prepares_iff read isOpen]
  exact and_iff_right eligible

theorem escalatable_accepted {outcome : ActionOutcome}
    (able : Escalatable db ticketId auth clock registry)
    (ran : ((prepareEscalation ticketId reason auth clock userId requestId registry uuidHex).on
      db).1 = .ok outcome) : outcome.success = true := by
  obtain ⟨ticket,read,isOpen,decision,sla,calculated,result,bar⟩ := able
  have ticket_open : ¬ (ticket.status ≠ .open_) := fun changed => changed isOpen
  unfold prepareEscalation at ran
  rw [alone_then (by rw [alone_reading,on_attempt,read])] at ran
  simp only [ticket_open,if_false] at ran
  rw [alone_then (by rw [alone_reading,calculated])] at ran
  simp only [result,bar,if_true] at ran
  obtain ⟨expiresAt,after,_,ran⟩ := alone_ok ran
  obtain ⟨_,later,_,ran⟩ := alone_ok ran
  cases ran
  rfl

theorem prepared_pending {outcome : ActionOutcome}
    (ran : ((prepareEscalation ticketId reason auth clock userId requestId registry uuidHex).on
      db).1 = .ok outcome) (succeeded : outcome.success = true) :
    ∃ record, outcome.record = some record ∧ record.status = .pendingConfirmation := by
  rcases reached : (prepareEscalation ticketId reason auth clock userId requestId registry uuidHex).on
    db with ⟨result,after⟩
  rw [reached] at ran
  cases ran
  obtain ⟨record,recorded,status,_⟩ := prepare_accepted_frame reached succeeded
  exact ⟨record,recorded,status⟩

-- The radar and the workflow decide alike: what an urgent alert names is never
-- refused, and it is accepted as soon as its proposal can be recorded.
theorem radar_escalations_accepted
    (ran : (runOperationsRadar auth clock alertTypes windowDays registry).on db = .ok returned)
    (listed : alert ∈ returned) (urgent : alert.Urgent)
    (named : ticketId ∈ alert.representativeRecords) (reason userId requestId uuidHex : String) :
    (∀ outcome, ((prepareEscalation ticketId reason auth clock userId requestId registry
        uuidHex).on db).1 = .ok outcome → outcome.success = true) ∧
    ((∃ outcome record, ((prepareEscalation ticketId reason auth clock userId requestId registry
        uuidHex).on db).1 = .ok outcome ∧ outcome.success = true ∧ outcome.record = some record ∧
        record.status = .pendingConfirmation) ↔ Recordable db clock uuidHex) := by
  obtain ⟨alertType,_,raised⟩ := (produced_raised ran alert).mp (returned_produced ran listed)
  have able := raised_escalatable raised urgent named
  refine ⟨fun outcome prepared => escalatable_accepted able prepared,?_⟩
  rw [← @escalatable_prepares _ db auth clock registry ticketId reason userId requestId uuidHex able]
  constructor
  · intro accepted
    rcases accepted with ⟨outcome,record,prepared,succeeded,_⟩
    exact ⟨outcome,prepared,succeeded⟩
  · intro accepted
    rcases accepted with ⟨outcome,prepared,succeeded⟩
    obtain ⟨record,recorded,status⟩ := prepared_pending prepared succeeded
    exact ⟨outcome,record,prepared,succeeded,recorded,status⟩

end Agreement

-- One hour to answer an outage, and two readings of the clock after it.
def hourDb : Db := {untargetedDb with
  slaTargets := [⟨"SRC-01",some "Basic",none,"P1","1 hour, 24x7",some 60,true,false⟩]}

-- 9999-12-31T23:50, the last minutes there are
def lastMinutes : SnapshotClock := ⟨⟨maxOrdinal * microsPerDay - 600000000,0,by decide⟩⟩

def outageRadar [Host] (clock : SnapshotClock) : Except PyError (List AlertCandidate) :=
  (runOperationsRadar ⟨.operationsAdmin,none⟩ clock (some [.slaBreach]) 30 {}).on hourDb

theorem outageRadar_names [Host] {clock : SnapshotClock} {decision : DecisionResult SlaOutcome}
    (calculated : (calculateSla "TKT-104" ⟨.operationsAdmin,none⟩ clock {}).on hourDb = .ok decision)
    (raises : (slaBreachAlert (outageTicket.toTicket clock.tz) decision).isSome = true) :
    ∃ returned, outageRadar clock = .ok returned ∧ ∃ alert ∈ returned, alert.alertType = .slaBreach ∧
      "TKT-104" ∈ alert.representativeRecords := by
  obtain ⟨alert,raises⟩ := Option.isSome_iff_exists.mp raises
  obtain ⟨typed,_,_,records⟩ := slaBreachAlert_facts raises
  have rule : (runRule ⟨.operationsAdmin,none⟩ clock 30 {} .slaBreach).on hourDb = .ok [alert] := by
    refine detectSla_ok.mpr ⟨fun ticket listed => ?_,?_⟩
    · cases List.mem_singleton.mp (show ticket ∈ [outageTicket.toTicket clock.tz] from listed)
      exact ⟨decision,calculated⟩
    · change [alert] = [outageTicket.toTicket clock.tz].filterMap _
      rw [List.filterMap_cons,slaOf,show (outageTicket.toTicket clock.tz).ticketId = "TKT-104" from rfl,
        calculated]
      simp [Except.toOption,raises]
  refine ⟨_,one_rule_ran (by decide) rule,alert,?_,typed,?_⟩
  · exact mem_ranking.mpr (by simp)
  · rw [records]
    exact List.mem_singleton_self _

-- An hour is over in both readings of the clock.
theorem outageRadar_told : let _ := asciiHost [] []
    ∀ clock ∈ [snapshotClock,lastMinutes], ∃ returned, outageRadar clock = .ok returned ∧
      ∃ alert ∈ returned, alert.alertType = .slaBreach ∧
        "TKT-104" ∈ alert.representativeRecords := by
  intro _ clock member
  have read : (getTicket "TKT-104" ⟨.operationsAdmin,none⟩ clock.tz).on hourDb =
      .ok (outageTicket.toTicket clock.tz) := getTicket_ok.mpr ⟨_,rfl,rfl,rfl⟩
  have known : hourDb.accounts.row "ACCT-003" = some basicAccount := rfl
  simp only [List.mem_cons,List.not_mem_nil,or_false] at member
  rcases member with rfl | rfl
  · exact outageRadar_names (sla_ran read known (.computed (outage_p1 _) rfl rfl rfl rfl))
      (by decide +kernel)
  · exact outageRadar_names (sla_ran read known (.computed (outage_p1 _) rfl rfl rfl rfl))
      (by decide +kernel)

theorem radar_escalations_outage : let _ := asciiHost [] []
    (∀ outcome, ((prepareEscalation "TKT-104" "customer blocked" ⟨.operationsAdmin,none⟩ snapshotClock
        "ops_admin" "REQ-1" {} "0123456789abcdef").on hourDb).1 = .ok outcome →
          outcome.success = true) ∧
    ((∃ outcome record, ((prepareEscalation "TKT-104" "customer blocked" ⟨.operationsAdmin,none⟩
        snapshotClock "ops_admin" "REQ-1" {} "0123456789abcdef").on hourDb).1 = .ok outcome ∧
        outcome.success = true ∧ outcome.record = some record ∧
        record.status = .pendingConfirmation) ↔
      Recordable hourDb snapshotClock "0123456789abcdef") := by
  intro _
  obtain ⟨returned,ran,alert,listed,typed,named⟩ := outageRadar_told snapshotClock (by simp)
  exact radar_escalations_accepted ran listed (.inl typed) named _ _ _ _

-- In the last quarter of an hour there is no time left to confirm in.
theorem last_escalation_raises : let _ := asciiHost [] []
    ∃ returned, (runOperationsRadar ⟨.operationsAdmin,none⟩ lastMinutes (some [.slaBreach]) 30 {}).on
        hourDb = .ok returned ∧ ∃ alert ∈ returned, alert.alertType = .slaBreach ∧
      "TKT-104" ∈ alert.representativeRecords ∧
      ∀ uuidHex outcome, ((prepareEscalation "TKT-104" "customer blocked" ⟨.operationsAdmin,none⟩
        lastMinutes "ops_admin" "REQ-1" {} uuidHex).on hourDb).1 ≠ .ok outcome := by
  intro _
  obtain ⟨returned,ran,alert,listed,typed,named⟩ := outageRadar_told lastMinutes (by simp)
  obtain ⟨alertType,_,raised⟩ := (produced_raised ran alert).mp (returned_produced ran listed)
  have able := raised_escalatable raised (.inl typed) named
  refine ⟨returned,ran,alert,listed,typed,named,fun uuidHex outcome prepared => ?_⟩
  obtain ⟨⟨expiresAt,expiry⟩,_⟩ := (escalatable_prepares able).mp
    ⟨outcome,prepared,escalatable_accepted able prepared⟩
  have none_left : lastMinutes.now.plusMinutes actionExpiryMinutes =
      .error (.overflowError "date value out of range") := rfl
  rw [none_left] at expiry
  cases expiry

end ParcelPilot
