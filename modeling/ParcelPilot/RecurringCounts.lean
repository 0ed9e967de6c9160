import ParcelPilot.AlertRecords
import ParcelPilot.Escalation
import ParcelPilot.Evidence

namespace ParcelPilot

section Lookup

variable [Host] {db : Db} {auth : AuthContext} {clock : SnapshotClock} {registry : Registry}
  {ticket : Ticket} {severity : Severity} {decision : DecisionResult SlaOutcome}

def slaTargetFor (db : Db) (clock : SnapshotClock) (registry : Registry) (ticket : Ticket)
    (severity : Severity) : Option SlaTarget :=
  (governingSource db registry .slaFirstResponse ticket.accountId clock.now.date).bind fun source =>
    (db.accounts.row ticket.accountId).bind fun account =>
      Db.slaTargetRow db.slaTargets source severity.value account.plan ticket.accountId

-- When the calculation returns at all, whatever it says then.
structure SlaCalculable (db : Db) (clock : SnapshotClock) (registry : Registry) (ticket : Ticket) :
    Prop where
  held : ∃ account, db.accounts.row ticket.accountId = some account
  governed : ∀ severity, assignedSeverity ticket = some severity → ∃ source,
    governingSource db registry .slaFirstResponse ticket.accountId clock.now.date = some source
  readable : ∀ severity target, assignedSeverity ticket = some severity →
    slaTargetFor db clock registry ticket severity = some target →
      target.requiresBusinessCalendar = true ∨ ∃ reading, slaDeadline ticket target = .ok reading

theorem governing_resolved {source : String}
    (governing : governingSource db registry .slaFirstResponse ticket.accountId clock.now.date =
      some source) :
    ∃ applicability, (resolveApplicability .slaFirstResponse ticket.accountId clock.now.date
      registry).on db = .ok applicability ∧ applicability.winningSourceId = source := by
  rw [resolve_governing] at governing
  cases resolved : (resolveApplicability .slaFirstResponse ticket.accountId clock.now.date
      registry).on db with
  | error error =>
      rw [resolved] at governing
      cases governing
  | ok applicability =>
      rw [resolved] at governing
      exact ⟨applicability,rfl,Option.some.inj governing⟩

theorem resolved_governing {applicability : ApplicabilityResult}
    (resolved : (resolveApplicability .slaFirstResponse ticket.accountId clock.now.date registry).on db =
      .ok applicability) :
    governingSource db registry .slaFirstResponse ticket.accountId clock.now.date =
      some applicability.winningSourceId := by
  rw [resolve_governing,resolved]
  rfl

theorem slaTargetFor_row {applicability : ApplicabilityResult} {account : Account}
    (resolved : (resolveApplicability .slaFirstResponse ticket.accountId clock.now.date registry).on db =
      .ok applicability) (known : db.accounts.row ticket.accountId = some account) :
    slaTargetFor db clock registry ticket severity = Db.slaTargetRow db.slaTargets
      applicability.winningSourceId severity.value account.plan ticket.accountId := by
  rw [slaTargetFor,resolved_governing resolved,known]
  rfl

-- What a calculation says, as far as the rule for recurring severity asks.
inductive SlaVerdict (db : Db) (clock : SnapshotClock) (registry : Registry) (ticket : Ticket) :
    DecisionResult SlaOutcome → Prop where
  | silent {decision : DecisionResult SlaOutcome} (result : decision.result = none)
      (untargeted : ∀ severity, assignedSeverity ticket = some severity →
        slaTargetFor db clock registry ticket severity = none) :
      SlaVerdict db clock registry ticket decision
  | targeted {decision : DecisionResult SlaOutcome} (result : decision.result = some outcome)
      (named : assignedSeverity ticket = some outcome.severity)
      (target : slaTargetFor db clock registry ticket outcome.severity = some found)
      (trust : decision.trustState =
        if found.requiresBusinessCalendar then .conditional else .confident) :
      SlaVerdict db clock registry ticket decision

theorem sla_verdict {ticketId : String} (read : (getTicket ticketId auth clock.tz).on db = .ok ticket)
    (ran : (calculateSla ticketId auth clock registry).on db = .ok decision) :
    SlaVerdict db clock registry ticket decision := by
  obtain ⟨account,known,assessed⟩ := sla_cases read ran
  cases assessed with
  | unclassified unnamed =>
      refine .silent rfl fun severity named => ?_
      rw [unnamed] at named
      cases named
  | untargeted named resolved absent =>
      refine .silent rfl fun severity given => ?_
      cases Option.some.inj (named.symm.trans given)
      rw [slaTargetFor_row resolved known,absent]
  | calendar named resolved stored needed =>
      refine .targeted rfl named ((slaTargetFor_row resolved known).trans stored) ?_
      rw [if_pos needed]
      rfl
  | computed named resolved stored plain reading =>
      refine .targeted rfl named ((slaTargetFor_row resolved known).trans stored) ?_
      rw [plain]
      rfl

theorem calculable_row {applicability : ApplicabilityResult} {account : Account}
    (known : db.accounts.row ticket.accountId = some account)
    (named : assignedSeverity ticket = some severity)
    (resolved : (resolveApplicability .slaFirstResponse ticket.accountId clock.now.date registry).on db =
      .ok applicability)
    (readable : ∀ target, Db.slaTargetRow db.slaTargets applicability.winningSourceId severity.value
        account.plan ticket.accountId = some target →
      target.requiresBusinessCalendar = true ∨ ∃ reading, slaDeadline ticket target = .ok reading) :
    SlaCalculable db clock registry ticket := by
  refine ⟨⟨account,known⟩,fun _ _ => ⟨_,resolved_governing resolved⟩,?_⟩
  intro given target classified found
  cases Option.some.inj (named.symm.trans classified)
  rw [slaTargetFor_row resolved known] at found
  exact readable target found

theorem sla_calculable_iff {ticketId : String}
    (read : (getTicket ticketId auth clock.tz).on db = .ok ticket) :
    (∃ decision, (calculateSla ticketId auth clock registry).on db = .ok decision) ↔
      SlaCalculable db clock registry ticket := by
  constructor
  · intro calculated
    rcases calculated with ⟨decision,ran⟩
    obtain ⟨account,known,assessed⟩ := sla_cases read ran
    cases assessed with
    | unclassified unnamed =>
        exact ⟨⟨account,known⟩,by simp [unnamed],by simp [unnamed]⟩
    | untargeted named resolved absent =>
        refine calculable_row known named resolved fun target found => ?_
        rw [absent] at found
        cases found
    | calendar named resolved stored needed =>
        refine calculable_row known named resolved fun target found => ?_
        cases Option.some.inj (stored.symm.trans found)
        exact .inl needed
    | computed named resolved stored plain reading =>
        refine calculable_row known named resolved fun target found => ?_
        cases Option.some.inj (stored.symm.trans found)
        exact .inr ⟨_,reading⟩
  · intro calculable
    rcases calculable with ⟨⟨account,known⟩,governed,readable⟩
    cases named : assignedSeverity ticket with
    | none => exact ⟨_,sla_ran read known (.unclassified named)⟩
    | some severity =>
        obtain ⟨source,governing⟩ := governed severity named
        obtain ⟨applicability,resolved,rfl⟩ := governing_resolved governing
        have row := @slaTargetFor_row _ db clock registry ticket severity _ _ resolved known
        cases stored : Db.slaTargetRow db.slaTargets applicability.winningSourceId severity.value
            account.plan ticket.accountId with
        | none => exact ⟨_,sla_ran read known (.untargeted named resolved stored)⟩
        | some target =>
            have computable := readable severity target named (row.trans stored)
            cases calendar : target.requiresBusinessCalendar with
            | true => exact ⟨_,sla_ran read known (.calendar named resolved stored calendar)⟩
            | false =>
                obtain ⟨⟨minutes,deadline⟩,reading⟩ := computable.resolve_left (by simp [calendar])
                exact ⟨_,sla_ran read known (.computed named resolved stored calendar reading)⟩

theorem recurringEntry_severity (high : severity ∈ [Severity.p1,.p2])
    (verdict : SlaVerdict db clock registry ticket decision) :
    (recurringEntry ticket decision).map (·.1) = some severity ↔
      assignedSeverity ticket = some severity ∧
        (slaTargetFor db clock registry ticket severity).isSome = true := by
  unfold recurringEntry
  cases verdict with
  | silent result untargeted =>
      simp only [result,Option.map_none,reduceCtorEq,false_iff,not_and]
      intro named
      rw [untargeted severity named]
      exact Bool.false_ne_true
  | @targeted outcome found _ result named target trust =>
      have trusted : decision.trustState ∈ [TrustState.confident,.conditional] := by
        rw [trust]
        split <;> decide
      simp only [result,trusted,and_true,named]
      constructor
      · intro entered
        split at entered
        · cases Option.some.inj entered
          exact ⟨rfl,by rw [target]; rfl⟩
        · cases entered
      · intro entered
        rcases entered with ⟨given,_⟩
        cases Option.some.inj given
        rw [if_pos high]
        rfl

end Lookup

section Counts

variable [Host] {db : Db} {auth : AuthContext} {clock : SnapshotClock} {registry : Registry}
  {warningRatio : Rat} {threshold windowDays : Int} {cutoff : DateTime} {severity : Severity}
  {alert : AlertCandidate} {alerts : List AlertCandidate} {ticket : Ticket}

def confidentSeverity (db : Db) (ticket : Ticket) : Option Severity :=
  ((classifySeverity ticket).on db).toOption.bind fun decision =>
    if decision.trustState = .confident then decision.result.bind (·.severity) else none

def classifiedTickets (db : Db) (auth : AuthContext) (clock : SnapshotClock) (windowDays : Int)
    (severity : Severity) : List Ticket :=
  (openTickets db auth clock).filter fun ticket =>
    clock.covers windowDays ticket && confidentSeverity db ticket = some severity

def targetedTickets (db : Db) (auth : AuthContext) (clock : SnapshotClock) (windowDays : Int)
    (registry : Registry) (severity : Severity) : List Ticket :=
  (classifiedTickets db auth clock windowDays severity).filter fun ticket =>
    (slaTargetFor db clock registry ticket severity).isSome

def recurringLevel (severity : Severity) : AlertSeverity := if severity = .p1 then .high else .medium

theorem confidentSeverity_assigned : confidentSeverity db ticket = assignedSeverity ticket := by
  rw [confidentSeverity,classifySeverity_ref,assignedSeverity,
    ← severityOf_evidence [documentRef db "SRC-01" (some "2")]]
  simp only [Except.toOption,Option.bind_some]
  split
  · rfl
  · rename_i doubtful
    cases named : (severityOf ticket [documentRef db "SRC-01" (some "2")]).result.bind (·.severity) with
    | none => rfl
    | some severity =>
        obtain ⟨outcome,result,assigned⟩ := Option.bind_eq_some_iff.mp named
        exact absurd (severityOf_confident result assigned) doubtful

theorem mem_classifiedTickets : ticket ∈ classifiedTickets db auth clock windowDays severity ↔
    ticket ∈ openTickets db auth clock ∧ clock.covers windowDays ticket = true ∧
      assignedSeverity ticket = some severity := by
  simp only [classifiedTickets,List.mem_filter,Bool.and_eq_true,decide_eq_true_eq,
    confidentSeverity_assigned]

-- Every ticket the rule looks at has a verdict, once the rule returns.
def AllCalculable (db : Db) (auth : AuthContext) (clock : SnapshotClock) (windowDays : Int)
    (registry : Registry) : Prop :=
  ∀ ticket ∈ openTickets db auth clock, clock.covers windowDays ticket = true →
    SlaCalculable db clock registry ticket

theorem all_calculable_iff (within : clock.now.minusDays windowDays = .ok cutoff) :
    AllCalculable db auth clock windowDays registry ↔
      ∀ ticket ∈ openTickets db auth clock, cutoff ≤ ticket.createdAt → ∃ decision,
        (calculateSla ticket.ticketId auth clock registry).on db = .ok decision := by
  refine forall₂_congr fun ticket listed => ?_
  rw [covers_iff within,sla_calculable_iff (mem_openTickets.mp listed).1]

theorem recurring_targeted (within : clock.now.minusDays windowDays = .ok cutoff)
    (calculable : AllCalculable db auth clock windowDays registry)
    (high : severity ∈ [Severity.p1,.p2]) :
    recurringTickets db auth clock registry cutoff severity =
      targetedTickets db auth clock windowDays registry severity := by
  rw [recurringTickets,targetedTickets,classifiedTickets,List.filter_filter]
  refine List.filter_congr fun ticket listed => Bool.eq_iff_iff.mpr ?_
  simp only [Bool.and_eq_true,decide_eq_true_eq,confidentSeverity_assigned,covers_iff within]
  rw [and_left_comm]
  apply and_congr_right
  intro recent
  obtain ⟨decision,ran⟩ := (all_calculable_iff within).mp calculable ticket listed recent
  rw [slaOf,ran]
  exact (recurringEntry_severity high (sla_verdict (mem_openTickets.mp listed).1 ran)).trans and_comm

omit [Host] in
theorem both_severities (found : Severity → Option AlertCandidate) :
    [Severity.p1,.p2].filterMap found = (found .p1).toList ++ (found .p2).toList := by
  simp only [List.filterMap_cons,List.filterMap_nil]
  cases found .p1 <;> cases found .p2 <;> rfl

theorem own_level (one : Severity) (tickets : List Ticket) :
    (recurringAlert threshold windowDays one tickets).toList.filter
        (·.severity = recurringLevel severity) =
      if recurringLevel one = recurringLevel severity then
        (recurringAlert threshold windowDays one tickets).toList else [] := by
  cases raises : recurringAlert threshold windowDays one tickets with
  | none => simp
  | some alert =>
      have level : alert.severity = recurringLevel one := (recurringAlert_facts raises).2.2.2.2.2.2
      rw [← level]
      split <;> rename_i same <;> simp [same]

theorem level_alerts (tickets : Severity → List Ticket) (high : severity ∈ [Severity.p1,.p2]) :
    ([Severity.p1,.p2].filterMap fun severity => recurringAlert threshold windowDays severity
      (tickets severity)).filter (·.severity = recurringLevel severity) =
        (recurringAlert threshold windowDays severity (tickets severity)).toList := by
  rw [both_severities,List.filter_append,own_level,own_level]
  simp only [List.mem_cons,List.not_mem_nil,or_false] at high
  rcases high with rfl | rfl <;> simp [recurringLevel]

theorem recurring_returns (threshold : Int) (within : clock.now.minusDays windowDays = .ok cutoff)
    (calculable : AllCalculable db auth clock windowDays registry) :
    ∃ alerts, (detectRecurringSeverity auth clock threshold windowDays registry).on db = .ok alerts :=
  ⟨_,detectRecurringSeverity_ok.mpr ⟨cutoff,within,(all_calculable_iff within).mp calculable,rfl⟩⟩

theorem recurring_level
    (ran : (detectRecurringSeverity auth clock threshold windowDays registry).on db = .ok alerts) :
    (∃ cutoff, clock.now.minusDays windowDays = .ok cutoff) ∧
      AllCalculable db auth clock windowDays registry ∧
      ∀ severity ∈ [Severity.p1,.p2], alerts.filter (·.severity = recurringLevel severity) =
        (recurringAlert threshold windowDays severity
          (targetedTickets db auth clock windowDays registry severity)).toList := by
  obtain ⟨cutoff,within,each,rfl⟩ := detectRecurringSeverity_ok.mp ran
  have calculable := (all_calculable_iff within).mpr each
  refine ⟨⟨cutoff,within⟩,calculable,fun severity high => ?_⟩
  rw [level_alerts _ high,recurring_targeted within calculable high]

def RecurringExact (db : Db) (auth : AuthContext) (clock : SnapshotClock) (threshold windowDays : Int)
    (registry : Registry) : Prop :=
  ∀ severity ∈ [Severity.p1,.p2],
    (threshold ≤ (classifiedTickets db auth clock windowDays severity).length → ∃ alerts,
      (detectRecurringSeverity auth clock threshold windowDays registry).on db = .ok alerts ∧
        (alerts.filter (·.severity = recurringLevel severity)).map (·.observedCount) =
          [((classifiedTickets db auth clock windowDays severity).length : Int)]) ∧
    ((classifiedTickets db auth clock windowDays severity).length < threshold → ∀ alerts,
      (detectRecurringSeverity auth clock threshold windowDays registry).on db = .ok alerts →
        ∀ alert ∈ alerts, alert.severity ≠ recurringLevel severity)

theorem recurringAlert_count {tickets : List Ticket} (enough : threshold ≤ tickets.length) :
    ((recurringAlert threshold windowDays severity tickets).toList).map (·.observedCount) =
      [(tickets.length : Int)] := by
  simp [recurringAlert,Int.not_lt.mpr enough]

theorem recurringAlert_few {tickets : List Ticket} (few : (tickets.length : Int) < threshold) :
    recurringAlert threshold windowDays severity tickets = none := by
  simp [recurringAlert,few]

-- Counts are read back through the SLA calculation, so that a ticket counts when
-- a target is found for it and none counts when one ticket has no calculation.
theorem recurring_exact_iff (db : Db) (auth : AuthContext) (clock : SnapshotClock)
    (threshold windowDays : Int) (registry : Registry) :
    RecurringExact db auth clock threshold windowDays registry ↔
      ∀ severity ∈ [Severity.p1,.p2],
        threshold ≤ (classifiedTickets db auth clock windowDays severity).length →
        (∃ cutoff, clock.now.minusDays windowDays = .ok cutoff) ∧
        AllCalculable db auth clock windowDays registry ∧
        ∀ ticket ∈ classifiedTickets db auth clock windowDays severity,
          (slaTargetFor db clock registry ticket severity).isSome = true := by
  refine forall₂_congr fun severity high => ?_
  constructor
  · intro exact_ enough
    rcases exact_ with ⟨reaches,_⟩
    obtain ⟨alerts,ran,counts⟩ := reaches enough
    obtain ⟨within,calculable,level⟩ := recurring_level ran
    refine ⟨within,calculable,List.length_filter_eq_length_iff.mp ?_⟩
    rw [level severity high] at counts
    change (targetedTickets db auth clock windowDays registry severity).length = _
    by_cases few : ((targetedTickets db auth clock windowDays registry severity).length : Int) < threshold
    · rw [recurringAlert_few few] at counts
      cases counts
    · rw [recurringAlert_count (Int.not_lt.mp few)] at counts
      exact Int.ofNat_inj.mp (List.cons.inj counts).1
  · intro whole
    constructor
    · intro enough
      obtain ⟨⟨cutoff,within⟩,calculable,targeted⟩ := whole enough
      obtain ⟨alerts,ran⟩ := recurring_returns threshold within calculable
      refine ⟨alerts,ran,?_⟩
      rw [(recurring_level ran).2.2 severity high,targetedTickets,List.filter_eq_self.mpr targeted]
      exact recurringAlert_count enough
    · intro few alerts ran alert member leveled
      have fewer : (targetedTickets db auth clock windowDays registry severity).length ≤
          (classifiedTickets db auth clock windowDays severity).length := List.length_filter_le _ _
      have listed : alert ∈ alerts.filter (·.severity = recurringLevel severity) :=
        List.mem_filter.mpr ⟨member,decide_eq_true leveled⟩
      rw [(recurring_level ran).2.2 severity high,recurringAlert_few (by omega)] at listed
      cases listed

theorem nothing_targeted (empty : db.slaTargets = []) :
    targetedTickets db auth clock windowDays registry severity = [] := by
  refine List.filter_eq_nil_iff.mpr fun ticket _ => ?_
  rw [slaTargetFor,empty]
  simp [Db.slaTargetRow]

omit [Host] in
theorem outage_classified : let _ := asciiHost [] []
    ∀ (db : Db) (auth : AuthContext), db.tickets.row "TKT-104" = some outageTicket →
      auth.allowsAccount "ACCT-003" = true → outageTicket.toTicket snapshotClock.tz ∈
        classifiedTickets db auth snapshotClock 30 .p1 := by
  intro _ db auth stored allowed
  have read : (getTicket "TKT-104" auth snapshotClock.tz).on db =
      .ok (outageTicket.toTicket snapshotClock.tz) := getTicket_ok.mpr ⟨_,stored,allowed,rfl⟩
  exact mem_classifiedTickets.mpr ⟨mem_openTickets.mpr ⟨read,rfl⟩,by decide,outage_p1 _⟩

omit [Host] in
theorem untargeted_not_counted : ¬ @RecurringExact (asciiHost [] []) untargetedDb
    ⟨.operationsAdmin,none⟩ snapshotClock 1 30 {} := by
  let _ := asciiHost [] []
  intro exact_
  have one := List.length_pos_of_mem (outage_classified untargetedDb ⟨.operationsAdmin,none⟩ rfl rfl)
  obtain ⟨alerts,ran,counts⟩ := (exact_ .p1 (by simp)).1 (by omega)
  rw [(recurring_level ran).2.2 .p1 (by simp),nothing_targeted rfl,recurringAlert_few (by decide)]
    at counts
  cases counts

-- An alert is no less doubtful than the calculations for its own tickets.
def KeepsTrust (db : Db) (auth : AuthContext) (clock : SnapshotClock) (registry : Registry)
    (alert : AlertCandidate) : Prop :=
  ∀ ticketId ∈ alert.representativeRecords, ∀ decision,
    (calculateSla ticketId auth clock registry).on db = .ok decision →
      severityOrder decision.trustState ≤ severityOrder alert.trustState

-- Every alert of the three rules that go through the SLA calculation.
def TrustKept (db : Db) (auth : AuthContext) (clock : SnapshotClock) (warningRatio : Rat)
    (threshold windowDays : Int) (registry : Registry) : Prop :=
  ∀ call ∈ [RuleCall.slaBreaches,.slaApproaching warningRatio,.recurringSeverity threshold windowDays],
    ∀ alerts, (call.run auth clock registry).on db = .ok alerts →
      ∀ alert ∈ alerts, KeepsTrust db auth clock registry alert

theorem slaBreachAlert_trust {decision : DecisionResult SlaOutcome}
    (raises : slaBreachAlert ticket decision = some alert) :
    alert.trustState = decision.trustState := by
  unfold slaBreachAlert at raises
  split at raises
  · cases raises
  · split at raises <;> cases raises
    rfl

theorem slaApproachingAlert_trust {decision : DecisionResult SlaOutcome}
    (raises : slaApproachingAlert warningRatio ticket decision = some alert) :
    alert.trustState = decision.trustState := by
  unfold slaApproachingAlert at raises
  split at raises
  · cases raises
  · split at raises
    · cases raises
    · split at raises
      · split at raises <;> cases raises
        rfl
      · cases raises

theorem recurringAlert_trust {tickets : List Ticket}
    (raises : recurringAlert threshold windowDays severity tickets = some alert) :
    alert.trustState = .confident := by
  unfold recurringAlert at raises
  dsimp only at raises
  split at raises <;> cases raises
  rfl

theorem detectSla_keeps {rule : Ticket → DecisionResult SlaOutcome → Option AlertCandidate}
    (copies : ∀ ticket decision alert, rule ticket decision = some alert →
      alert.trustState = decision.trustState ∧ alert.representativeRecords = [ticket.ticketId])
    (ran : (detectSla rule auth clock registry).on db = .ok alerts) (member : alert ∈ alerts) :
    KeepsTrust db auth clock registry alert := by
  obtain ⟨_,rfl⟩ := detectSla_ok.mp ran
  obtain ⟨ticket,_,decision,calculated,raises⟩ := mem_slaAlerts.mp member
  obtain ⟨trust,records⟩ := copies ticket decision alert raises
  intro ticketId named other again
  rw [records,List.mem_singleton] at named
  subst named
  cases Except.ok.inj (calculated.symm.trans again)
  rw [trust]

theorem targeted_trust (listed : ticket ∈ targetedTickets db auth clock windowDays registry severity)
    {decision : DecisionResult SlaOutcome}
    (ran : (calculateSla ticket.ticketId auth clock registry).on db = .ok decision) :
    ∃ target, slaTargetFor db clock registry ticket severity = some target ∧
      decision.trustState = if target.requiresBusinessCalendar then .conditional else .confident := by
  obtain ⟨classified,found⟩ := List.mem_filter.mp listed
  obtain ⟨isOpen,_,named⟩ := mem_classifiedTickets.mp classified
  cases sla_verdict (mem_openTickets.mp isOpen).1 ran with
  | silent result untargeted =>
      rw [untargeted severity named] at found
      cases found
  | targeted result given target trust =>
      cases Option.some.inj (named.symm.trans given)
      exact ⟨_,target,trust⟩

theorem recurring_keeps_iff {tickets : List Ticket}
    (raises : recurringAlert threshold windowDays severity tickets = some alert) :
    KeepsTrust db auth clock registry alert ↔ ∀ ticket ∈ tickets, ∀ decision,
      (calculateSla ticket.ticketId auth clock registry).on db = .ok decision →
        decision.trustState = .confident := by
  have records := (recurringAlert_facts raises).2.2.2.2.2.1
  have confident (state : TrustState) :
      severityOrder state ≤ severityOrder alert.trustState ↔ state = .confident := by
    rw [recurringAlert_trust raises]
    cases state <;> decide
  simp only [KeepsTrust,records,Py.mem_sorted,List.forall_mem_map,confident]

theorem mem_recurring
    (ran : (detectRecurringSeverity auth clock threshold windowDays registry).on db = .ok alerts) :
    alert ∈ alerts ↔ ∃ severity ∈ [Severity.p1,.p2], recurringAlert threshold windowDays severity
      (targetedTickets db auth clock windowDays registry severity) = some alert := by
  obtain ⟨cutoff,within,each,rfl⟩ := detectRecurringSeverity_ok.mp ran
  rw [List.mem_filterMap]
  apply exists_congr
  intro severity
  apply and_congr_right
  intro high
  rw [recurring_targeted within ((all_calculable_iff within).mpr each) high]

theorem targeted_calculated (calculable : AllCalculable db auth clock windowDays registry)
    (listed : ticket ∈ targetedTickets db auth clock windowDays registry severity) :
    ∃ decision, (calculateSla ticket.ticketId auth clock registry).on db = .ok decision := by
  obtain ⟨isOpen,recent,_⟩ := mem_classifiedTickets.mp (List.mem_filter.mp listed).1
  exact (sla_calculable_iff (mem_openTickets.mp isOpen).1).mpr (calculable ticket isOpen recent)

theorem recurring_keeps_plain (calculable : AllCalculable db auth clock windowDays registry)
    (raises : recurringAlert threshold windowDays severity
      (targetedTickets db auth clock windowDays registry severity) = some alert) :
    KeepsTrust db auth clock registry alert ↔
      ∀ ticket ∈ targetedTickets db auth clock windowDays registry severity, ∀ target,
        slaTargetFor db clock registry ticket severity = some target →
          target.requiresBusinessCalendar = false := by
  rw [recurring_keeps_iff raises]
  refine forall₂_congr fun ticket listed => ?_
  constructor
  · intro confident target found
    obtain ⟨decision,calculated⟩ := targeted_calculated calculable listed
    obtain ⟨other,same,trust⟩ := targeted_trust listed calculated
    cases Option.some.inj (found.symm.trans same)
    rw [confident decision calculated] at trust
    cases calendar : target.requiresBusinessCalendar with
    | false => rfl
    | true => simp [calendar] at trust
  · intro plain decision calculated
    obtain ⟨target,found,trust⟩ := targeted_trust listed calculated
    rw [trust,plain target found]
    rfl

-- Alerts about recurring severity are confident whatever they count, so that
-- trust is promoted where a counted target is in business time.
theorem trust_kept_iff (db : Db) (auth : AuthContext) (clock : SnapshotClock) (warningRatio : Rat)
    (threshold windowDays : Int) (registry : Registry) :
    TrustKept db auth clock warningRatio threshold windowDays registry ↔
      ∀ severity ∈ [Severity.p1,.p2],
        (∃ cutoff, clock.now.minusDays windowDays = .ok cutoff) →
        AllCalculable db auth clock windowDays registry →
        threshold ≤ (targetedTickets db auth clock windowDays registry severity).length →
        ∀ ticket ∈ targetedTickets db auth clock windowDays registry severity, ∀ target,
          slaTargetFor db clock registry ticket severity = some target →
            target.requiresBusinessCalendar = false := by
  constructor
  · intro kept severity high returns calculable enough
    rcases returns with ⟨cutoff,within⟩
    obtain ⟨alerts,ran⟩ := recurring_returns threshold within calculable
    obtain ⟨alert,raises⟩ := recurringAlert_enough windowDays severity enough
    apply (recurring_keeps_plain calculable raises).mp
    exact kept (.recurringSeverity threshold windowDays) (by simp) alerts ran alert
      ((mem_recurring ran).mpr ⟨severity,high,raises⟩)
  · intro plain call listed alerts ran alert member
    simp only [List.mem_cons,List.not_mem_nil,or_false] at listed
    rcases listed with rfl | rfl | rfl
    · refine detectSla_keeps (fun ticket decision alert raises => ?_) ran member
      exact ⟨slaBreachAlert_trust raises,(slaBreachAlert_facts raises).2.2.2⟩
    · refine detectSla_keeps (fun ticket decision alert raises => ?_) ran member
      exact ⟨slaApproachingAlert_trust raises,(slaApproachingAlert_facts raises).2.2.2⟩
    · obtain ⟨returns,calculable,_⟩ := recurring_level ran
      obtain ⟨severity,high,raises⟩ := (mem_recurring ran).mp member
      apply (recurring_keeps_plain calculable raises).mpr
      exact plain severity high returns calculable (recurringAlert_facts raises).1

-- One P1 ticket with a target in business hours.
def calendarDb : Db := {untargetedDb with
  slaTargets := [⟨"SRC-01",some "Basic",none,"P1","4 business hours",none,false,true⟩]}

omit [Host] in
theorem calendar_target : let _ := asciiHost [] []
    slaTargetFor calendarDb snapshotClock {} (outageTicket.toTicket snapshotClock.tz) .p1 =
      calendarDb.slaTargets.head? := by decide

omit [Host] in
theorem calendar_calculable : let _ := asciiHost [] []
    AllCalculable calendarDb ⟨.operationsAdmin,none⟩ snapshotClock 30 {} := by
  intro _ ticket listed _
  have only : ticket = outageTicket.toTicket snapshotClock.tz := List.mem_singleton.mp listed
  subst only
  refine ⟨⟨basicAccount,rfl⟩,fun severity _ => ⟨"SRC-01",rfl⟩,fun severity target named found => ?_⟩
  cases Option.some.inj ((outage_p1 _).symm.trans named)
  rw [calendar_target] at found
  cases found
  exact .inl rfl

omit [Host] in
theorem calendar_promoted : ¬ @TrustKept (asciiHost [] []) calendarDb ⟨.operationsAdmin,none⟩
    snapshotClock defaultApproachingWarningRatio 1 30 {} := by
  let _ := asciiHost [] []
  intro kept
  have classified := outage_classified calendarDb ⟨.operationsAdmin,none⟩ rfl rfl
  have targeted : outageTicket.toTicket snapshotClock.tz ∈
      targetedTickets calendarDb ⟨.operationsAdmin,none⟩ snapshotClock 30 {} .p1 :=
    List.mem_filter.mpr ⟨classified,by rw [calendar_target]; rfl⟩
  have one := List.length_pos_of_mem targeted
  obtain ⟨alerts,ran⟩ := recurring_returns 1 (show DateTime.minusDays _ _ = .ok _ from rfl)
    calendar_calculable
  obtain ⟨alert,raises⟩ := recurringAlert_enough 30 .p1 (Int.ofNat_le.mpr one)
  have plain := (recurring_keeps_plain calendar_calculable raises).mp
    (kept (.recurringSeverity 1 30) (by simp) alerts ran alert
      ((mem_recurring ran).mpr ⟨.p1,by simp,raises⟩)) _ targeted _ calendar_target
  cases plain

end Counts

end ParcelPilot
