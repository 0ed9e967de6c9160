import ParcelPilot.Actions

namespace ParcelPilot

section Eligibility

variable [Host] {db : Db} {ticketId reason userId requestId uuidHex : String} {auth : AuthContext}
  {clock : SnapshotClock} {registry : Registry} {ticket : Ticket}

def PreparesEscalation (db : Db) (ticketId reason : String) (auth : AuthContext)
    (clock : SnapshotClock) (userId requestId : String) (registry : Registry) (uuidHex : String) :
    Prop :=
  ∃ outcome, ((prepareEscalation ticketId reason auth clock userId requestId registry uuidHex).on
    db).1 = .ok outcome ∧ outcome.success = true

def ConfidentP1 (db : Db) (ticket : Ticket) : Prop :=
  ∃ decision outcome, (classifySeverity ticket).on db = .ok decision ∧
    decision.result = some outcome ∧ outcome.severity = some .p1 ∧ decision.trustState = .confident

def SlaBreached (db : Db) (ticketId : String) (auth : AuthContext) (clock : SnapshotClock)
    (registry : Registry) : Prop :=
  ∃ decision outcome, (calculateSla ticketId auth clock registry).on db = .ok decision ∧
    decision.result = some outcome ∧ outcome.breached = some true

-- The row of a prepared action can be written: it has an expiry and a new id.
def Recordable (db : Db) (clock : SnapshotClock) (uuidHex : String) : Prop :=
  (∃ expiresAt, clock.now.plusMinutes actionExpiryMinutes = .ok expiresAt) ∧
    db.actions.row (newActionId uuidHex) = none

theorem confidentP1_of_classified (classified : Classified db ticket .p1) : ConfidentP1 db ticket := by
  obtain ⟨decision,outcome,classifies,result,named⟩ := classified
  refine ⟨decision,outcome,classifies,result,named,?_⟩
  rw [classifySeverity_ref] at classifies
  cases classifies
  exact severityOf_confident result named

theorem classified_of_confidentP1 (confident : ConfidentP1 db ticket) : Classified db ticket .p1 := by
  obtain ⟨decision,outcome,classifies,result,named,_⟩ := confident
  exact ⟨decision,outcome,classifies,result,named⟩

theorem prepares_iff (read : (getTicket ticketId auth clock.tz).on db = .ok ticket)
    (isOpen : ticket.status = .open_) :
    PreparesEscalation db ticketId reason auth clock userId requestId registry uuidHex ↔
      (∃ decision outcome, (calculateSla ticketId auth clock registry).on db = .ok decision ∧
        decision.result = some outcome ∧ outcome.escalates = true) ∧ Recordable db clock uuidHex := by
  have found : (reading (Fallible.attempt (getTicket ticketId auth clock.tz))).on db =
      (.ok (.ok ticket),db) := by rw [alone_reading,on_attempt,read]
  have ticket_open : ¬ (ticket.status ≠ .open_) := fun changed => changed isOpen
  unfold PreparesEscalation prepareEscalation
  rw [alone_then found]
  simp only [ticket_open,if_false]
  cases ran : (calculateSla ticketId auth clock registry).on db with
  | error error =>
      rw [alone_raised (by rw [alone_reading,ran])]
      simp
  | ok decision =>
      rw [alone_then (by rw [alone_reading,ran])]
      cases assessed : decision.result with
      | none => simp [assessed,refused]
      | some outcome =>
          by_cases bar : outcome.escalates = true
          · simp only [bar,if_true]
            cases expiry : clock.now.plusMinutes actionExpiryMinutes with
            | error error =>
                rw [alone_raised (alone_raising _)]
                simp [Recordable,expiry]
            | ok expiresAt =>
                rw [alone_then (alone_raising _)]
                by_cases fresh : db.actions.row (newActionId uuidHex) = none
                · obtain ⟨after,inserted⟩ := insertAction_alone db
                    (escalationRecord ticket ticketId reason outcome decision.evidence
                      userId requestId uuidHex clock.now expiresAt) fresh
                  rw [alone_then inserted]
                  simp [accepted,Recordable,expiry,fresh,assessed,bar]
                · rw [alone_raised (insertAction_taken db
                    (escalationRecord ticket ticketId reason outcome decision.evidence
                      userId requestId uuidHex clock.now expiresAt) fresh)]
                  simp [Recordable,fresh]
          · simp [bar,refused,assessed]

-- P1 or SLA-breached, for any ticket the caller may see that is open.
def EscalationExact (db : Db) (ticketId reason : String) (auth : AuthContext)
    (clock : SnapshotClock) (userId requestId : String) (registry : Registry) (uuidHex : String) :
    Prop :=
  ∀ ticket, (getTicket ticketId auth clock.tz).on db = .ok ticket → ticket.status = .open_ →
    (PreparesEscalation db ticketId reason auth clock userId requestId registry uuidHex ↔
      ConfidentP1 db ticket ∨ SlaBreached db ticketId auth clock registry)

-- Eligibility is read back through the SLA calculation, so a P1 ticket needs a
-- readable target as well.
theorem escalation_exact_iff (db : Db) (ticketId reason : String) (auth : AuthContext)
    (clock : SnapshotClock) (userId requestId : String) (registry : Registry) (uuidHex : String) :
    EscalationExact db ticketId reason auth clock userId requestId registry uuidHex ↔
      ∀ ticket, (getTicket ticketId auth clock.tz).on db = .ok ticket → ticket.status = .open_ →
        (ConfidentP1 db ticket → SlaTargetReadable db clock registry ticket .p1) ∧
        (ConfidentP1 db ticket ∨ SlaBreached db ticketId auth clock registry →
          Recordable db clock uuidHex) := by
  refine forall_congr' fun ticket => forall_congr' fun read => forall_congr' fun isOpen => ?_
  rw [prepares_iff read isOpen]
  constructor
  · intro exact_
    refine ⟨fun confident => ?_,fun eligible => (exact_.mpr eligible).2⟩
    obtain ⟨⟨decision,outcome,ran,assessed,_⟩,_⟩ := exact_.mpr (.inl confident)
    obtain ⟨classified,readable⟩ := sla_assessed read ran assessed
    rwa [classified_unique classified (classified_of_confidentP1 confident)] at readable
  · rintro ⟨target,recordable⟩
    constructor
    · rintro ⟨⟨decision,outcome,ran,assessed,bar⟩,_⟩
      obtain ⟨classified,readable⟩ := sla_assessed read ran assessed
      simp only [SlaOutcome.escalates,Bool.or_eq_true,decide_eq_true_eq] at bar
      rcases bar with p1 | breached
      · rw [p1] at classified
        exact .inl (confidentP1_of_classified classified)
      · exact .inr ⟨decision,outcome,ran,assessed,breached⟩
    · intro eligible
      refine ⟨?_,recordable eligible⟩
      rcases eligible with confident | ⟨decision,outcome,ran,assessed,breached⟩
      · obtain ⟨decision,outcome,ran,assessed,p1⟩ := sla_readable read
          (classified_of_confidentP1 confident) (target confident)
        exact ⟨decision,outcome,ran,assessed,by simp [SlaOutcome.escalates,p1]⟩
      · exact ⟨decision,outcome,ran,assessed,by simp [SlaOutcome.escalates,breached]⟩

-- 2026-08-16T11:00+05:30, and the next day
def snapshotClock : SnapshotClock := ⟨⟨739843 * microsPerDay + 39600000000,19800000000,by decide⟩⟩

def nextDay : SnapshotClock := ⟨⟨739844 * microsPerDay + 39600000000,19800000000,by decide⟩⟩

-- 2026-08-16T09:00, without an offset
def morning : Stamp := ⟨739843 * microsPerDay + 32400000000,none,by decide⟩

def outageTicket : TicketRow where
  ticketId := "TKT-104"
  accountId := "ACCT-003"
  createdAt := morning
  status := .open_
  subject := "Booking down"
  description := "Complete outage since this morning."
  channel := "email"
  assignedTo := "queue"
  lastCustomerMessageAt := morning
  historicalResolution := none

def basicAccount : Account :=
  ⟨"ACCT-003","Kite Couriers","Basic","active","Priya",none,false,""⟩

-- No target is stored for the plan.
def untargetedDb : Db := {Db.empty with
  accounts := ⟨[basicAccount],by decide⟩, tickets := ⟨[outageTicket],by decide⟩}

def targetedDb : Db := {untargetedDb with
  slaTargets := [⟨"SRC-01",some "Basic",none,"P1","1 business hour",none,false,true⟩]}

theorem assignedSeverity_text {one two : Ticket} (subject : one.subject = two.subject)
    (description : one.description = two.description) : assignedSeverity one = assignedSeverity two := by
  simp only [assignedSeverity,severityOf,subject,description]

omit [Host] in
theorem outage_p1 (tz : Int) : @assignedSeverity (asciiHost [] []) (outageTicket.toTicket tz) =
    some .p1 := by
  rw [@assignedSeverity_text (asciiHost [] []) (outageTicket.toTicket tz) (outageTicket.toTicket 0)
    rfl rfl]
  decide +kernel

omit [Host] in
theorem outage_not_escalated : ¬ @EscalationExact (asciiHost [] []) untargetedDb "TKT-104"
    "customer blocked" ⟨.operationsAdmin,none⟩ snapshotClock "ops_admin" "REQ-1" {} "" := by
  let _ := asciiHost [] []
  intro exact_
  have read : (getTicket "TKT-104" ⟨.operationsAdmin,none⟩ snapshotClock.tz).on untargetedDb =
      .ok (outageTicket.toTicket snapshotClock.tz) := getTicket_ok.mpr ⟨_,rfl,rfl,rfl⟩
  have confident : ConfidentP1 untargetedDb (outageTicket.toTicket snapshotClock.tz) :=
    confidentP1_of_classified (classified_iff.mpr (outage_p1 _))
  have prepares := (exact_ _ read rfl).mpr (.inl confident)
  obtain ⟨⟨decision,sla,ran,assessed,_⟩,_⟩ := (prepares_iff read rfl).mp prepares
  obtain ⟨_,account,_,applicability,_,target,stored,_⟩ := sla_assessed read ran assessed
  cases stored

end Eligibility

end ParcelPilot
