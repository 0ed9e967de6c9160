import ParcelPilot.RecurringCounts

namespace ParcelPilot

-- One scope contained in another; no scope is everything.
def ScopeWithin : Option (List String) → Option (List String) → Prop
  | _,none => True
  | none,some _ => False
  | some narrow,some wide => ∀ accountId ∈ narrow, accountId ∈ wide

-- An alert that has all of another in it.
structure Widens (alert other : AlertCandidate) : Prop where
  records : ∀ recordId ∈ alert.representativeRecords, recordId ∈ other.representativeRecords
  accounts : ∀ accountId ∈ alert.affectedAccounts, accountId ∈ other.affectedAccounts
  counted : alert.observedCount ≤ other.observedCount

theorem within_allows {narrow wide : AuthContext}
    (within : ScopeWithin narrow.accountScope wide.accountScope) {accountId : String}
    (allowed : narrow.allowsAccount accountId = true) : wide.allowsAccount accountId = true := by
  unfold AuthContext.allowsAccount at allowed ⊢
  cases outer : wide.accountScope with
  | none => rfl
  | some accounts =>
      cases inner : narrow.accountScope with
      | none =>
          rw [inner,outer] at within
          exact within.elim
      | some scope =>
          rw [inner,outer] at within
          rw [inner] at allowed
          exact decide_eq_true (within accountId (of_decide_eq_true allowed))

theorem fewer_records {id : ρ → String} {few many : List ρ} (distinct : (few.map id).Nodup)
    (sub : ∀ record ∈ few, record ∈ many) : few.length ≤ many.length :=
  (List.subperm_of_subset (List.Nodup.of_map id distinct) sub).length_le

theorem made_widens {narrow wide : AuthContext} {id account : ρ → String} {few many : List ρ}
    {alert other : AlertCandidate} (made : MadeOf db narrow id account few alert)
    (also : MadeOf db wide id account many other) (sub : ∀ record ∈ few, record ∈ many) :
    Widens alert other := by
  refine ⟨?_,?_,?_⟩
  · intro recordId member
    rw [made.ids,Py.mem_sorted,List.mem_map] at member
    obtain ⟨record,one,rfl⟩ := member
    rw [also.ids,Py.mem_sorted]
    exact List.mem_map_of_mem (sub record one)
  · intro accountId member
    rw [made.accounts,Py.mem_sortedSet,List.mem_map] at member
    obtain ⟨record,one,rfl⟩ := member
    rw [also.accounts,Py.mem_sortedSet]
    exact List.mem_map_of_mem (sub record one)
  · rw [made.counted,also.counted]
    exact Int.ofNat_le.mpr (fewer_records made.distinct sub)

section Narrowing

variable [Host] {db : Db} {narrow wide : AuthContext} {clock : SnapshotClock} {registry : Registry}
  {cutoff earlier : DateTime} {threshold windowDays widerDays : Int}
  {alerts more : List AlertCandidate} {alert : AlertCandidate} {ticket : Ticket}

theorem ticket_wider (within : ScopeWithin narrow.accountScope wide.accountScope) {ticketId : String}
    (read : (getTicket ticketId narrow clock.tz).on db = .ok ticket) :
    (getTicket ticketId wide clock.tz).on db = .ok ticket := by
  obtain ⟨row,found,allowed,same⟩ := getTicket_ok.mp read
  exact getTicket_ok.mpr ⟨row,found,within_allows within allowed,same⟩

theorem order_wider (within : ScopeWithin narrow.accountScope wide.accountScope) {order : Order}
    {orderId : String} (read : (getOrder orderId narrow clock.tz).on db = .ok order) :
    (getOrder orderId wide clock.tz).on db = .ok order := by
  obtain ⟨row,found,allowed,same⟩ := getOrder_ok.mp read
  exact getOrder_ok.mpr ⟨row,found,within_allows within allowed,same⟩

theorem sla_wider (within : ScopeWithin narrow.accountScope wide.accountScope)
    (read : (getTicket ticket.ticketId narrow clock.tz).on db = .ok ticket)
    {decision : DecisionResult SlaOutcome}
    (ran : (calculateSla ticket.ticketId narrow clock registry).on db = .ok decision) :
    (calculateSla ticket.ticketId wide clock registry).on db = .ok decision := by
  obtain ⟨account,known,assessed⟩ := sla_cases read ran
  exact sla_ran (ticket_wider within read) known assessed

theorem recurring_wider (within : ScopeWithin narrow.accountScope wide.accountScope)
    (longer : earlier ≤ cutoff) {severity : Severity}
    (counted : ticket ∈ recurringTickets db narrow clock registry cutoff severity) :
    ticket ∈ recurringTickets db wide clock registry earlier severity := by
  obtain ⟨listed,kept⟩ := List.mem_filter.mp counted
  obtain ⟨read,isOpen⟩ := mem_openTickets.mp listed
  rw [Bool.and_eq_true,decide_eq_true_eq,decide_eq_true_eq] at kept
  obtain ⟨recent,entered⟩ := kept
  refine List.mem_filter.mpr ⟨mem_openTickets.mpr ⟨ticket_wider within read,isOpen⟩,?_⟩
  rw [Bool.and_eq_true,decide_eq_true_eq,decide_eq_true_eq]
  refine ⟨Int.le_trans longer recent,?_⟩
  rw [← entered]
  cases ran : (calculateSla ticket.ticketId narrow clock registry).on db with
  | error error => simp [slaOf,ran,Except.toOption] at entered
  | ok decision => rw [slaOf,slaOf,ran,sla_wider within read ran]

theorem carrier_wider (within : ScopeWithin narrow.accountScope wide.accountScope)
    (longer : earlier ≤ cutoff) {carrier : String} {order : Order}
    (counted : order ∈ carrierOrders db narrow clock cutoff carrier) :
    order ∈ carrierOrders db wide clock earlier carrier := by
  obtain ⟨faulty,same⟩ := List.mem_filter.mp counted
  obtain ⟨read,fault,recent⟩ := mem_faultyOrders.mp faulty
  exact List.mem_filter.mpr ⟨mem_faultyOrders.mpr
    ⟨order_wider within read,fault,Int.le_trans longer recent⟩,same⟩

theorem matching_wider (within : ScopeWithin narrow.accountScope wide.accountScope)
    (longer : earlier ≤ cutoff) {issue : KnownIssue}
    (counted : ticket ∈ matchingTickets (recentTickets db narrow clock cutoff) issue) :
    ticket ∈ matchingTickets (recentTickets db wide clock earlier) issue := by
  obtain ⟨recent,matched⟩ := List.mem_filter.mp counted
  obtain ⟨read,since⟩ := mem_recentTickets.mp recent
  exact List.mem_filter.mpr ⟨mem_recentTickets.mpr
    ⟨ticket_wider within read,Int.le_trans longer since⟩,matched⟩

theorem recurring_narrowed (within : ScopeWithin narrow.accountScope wide.accountScope)
    (longer : windowDays ≤ widerDays)
    (ran : (detectRecurringSeverity narrow clock threshold windowDays registry).on db = .ok alerts)
    (again : (detectRecurringSeverity wide clock threshold widerDays registry).on db = .ok more)
    (member : alert ∈ alerts) : ∃ other ∈ more, other.severity = alert.severity ∧ Widens alert other := by
  obtain ⟨cutoff,first,_,rfl⟩ := detectRecurringSeverity_ok.mp ran
  obtain ⟨earlier,second,_,rfl⟩ := detectRecurringSeverity_ok.mp again
  obtain ⟨severity,high,raises⟩ := List.mem_filterMap.mp member
  obtain ⟨read,distinct⟩ := @recurringTickets_read _ db narrow clock registry cutoff severity
  obtain ⟨readAll,apart⟩ := @recurringTickets_read _ db wide clock registry earlier severity
  have kept := fun ticket => @recurring_wider _ db narrow wide clock registry cutoff earlier ticket
    within (DateTime.minusDays_le first second longer) severity
  have enough := (recurringAlert_facts raises).1
  have fewer := fewer_records distinct kept
  obtain ⟨other,also⟩ := @recurringAlert_enough _ widerDays severity threshold
    (recurringTickets db wide clock registry earlier severity) (by omega)
  refine ⟨other,List.mem_filterMap.mpr ⟨severity,high,also⟩,?_,?_⟩
  · rw [(recurringAlert_facts raises).2.2.2.2.2.2,(recurringAlert_facts also).2.2.2.2.2.2]
  · exact made_widens (recurringAlert_made read distinct raises) (recurringAlert_made readAll apart also)
      kept

theorem carrier_narrowed (within : ScopeWithin narrow.accountScope wide.accountScope)
    (longer : windowDays ≤ widerDays)
    (ran : (detectCarrierPatterns narrow clock threshold windowDays).on db = .ok alerts)
    (again : (detectCarrierPatterns wide clock threshold widerDays).on db = .ok more)
    (member : alert ∈ alerts) : ∃ other ∈ more, other.title = alert.title ∧ Widens alert other := by
  obtain ⟨cutoff,first,rfl⟩ := detectCarrierPatterns_ok.mp ran
  obtain ⟨earlier,second,rfl⟩ := detectCarrierPatterns_ok.mp again
  obtain ⟨⟨carrier,orders⟩,grouped,raises⟩ := List.mem_filterMap.mp member
  obtain ⟨rfl,some_⟩ := (Py.mem_grouped _ _ _ _).mp grouped
  obtain ⟨read,distinct⟩ := @carrierOrders_read _ db narrow clock cutoff carrier
  obtain ⟨readAll,apart⟩ := @carrierOrders_read _ db wide clock earlier carrier
  have kept := fun order => @carrier_wider _ db narrow wide clock cutoff earlier within
    (DateTime.minusDays_le first second longer) carrier order
  have enough := (carrierAlert_facts raises).1
  have fewer := fewer_records distinct kept
  obtain ⟨other,also⟩ := @carrierAlert_enough _ widerDays carrier threshold
    (carrierOrders db wide clock earlier carrier) (Int.le_trans enough (Int.ofNat_le.mpr fewer))
  obtain ⟨order,one⟩ := List.exists_mem_of_ne_nil _ some_
  refine ⟨other,List.mem_filterMap.mpr ⟨(carrier,_),(Py.mem_grouped _ _ _ _).mpr
    ⟨rfl,List.ne_nil_of_mem (kept order one)⟩,also⟩,?_,?_⟩
  · rw [(carrierAlert_facts raises).2.2.2.2.2.2,(carrierAlert_facts also).2.2.2.2.2.2]
  · exact made_widens (carrierAlert_made read distinct raises) (carrierAlert_made readAll apart also) kept

-- The alert that a rule call makes of an entry of the guide.
def AlertFor (db : Db) (auth : AuthContext) (clock : SnapshotClock) (minOccurrences windowDays : Int)
    (issue : KnownIssue) (alert : AlertCandidate) : Prop :=
  ∃ cutoff, clock.now.minusDays windowDays = .ok cutoff ∧
    alert = issueAlert db minOccurrences windowDays (recentTickets db auth clock cutoff) issue

theorem issue_narrowed {minOccurrences : Int}
    (within : ScopeWithin narrow.accountScope wide.accountScope) (longer : windowDays ≤ widerDays)
    (ran : (detectKnownIssuePatterns narrow clock minOccurrences windowDays).on db = .ok alerts)
    (again : (detectKnownIssuePatterns wide clock minOccurrences widerDays).on db = .ok more)
    (member : alert ∈ alerts) : ∃ issue ∈ knownIssues db,
      AlertFor db narrow clock minOccurrences windowDays issue alert ∧
      ∃ other ∈ more, AlertFor db wide clock minOccurrences widerDays issue other ∧
        Widens alert other := by
  obtain ⟨cutoff,first,rfl⟩ := detectKnownIssuePatterns_ok.mp ran
  obtain ⟨earlier,second,rfl⟩ := detectKnownIssuePatterns_ok.mp again
  obtain ⟨issue,parsed,reports,rfl⟩ := mem_alerts.mp member
  obtain ⟨read,distinct⟩ := @recentTickets_read _ db narrow clock cutoff
  obtain ⟨readAll,apart⟩ := @recentTickets_read _ db wide clock earlier
  have kept := fun ticket => @matching_wider _ db narrow wide clock cutoff earlier ticket within
    (DateTime.minusDays_le first second longer) issue
  have made := @issueAlert_made _ db narrow clock minOccurrences windowDays _ issue read distinct reports
  have fewer := fewer_records made.distinct kept
  obtain ⟨unmarked,enough⟩ := reported_iff.mp reports
  have reportsToo : reported minOccurrences (recentTickets db wide clock earlier) issue = true :=
    reported_iff.mpr ⟨unmarked,by omega⟩
  refine ⟨issue,parsed,⟨cutoff,first,rfl⟩,_,mem_alerts.mpr ⟨issue,parsed,reportsToo,rfl⟩,
    ⟨earlier,second,rfl⟩,?_⟩
  exact made_widens made (issueAlert_made readAll apart reportsToo) kept

-- What a caller sees less of, or looks at for a shorter time, is only counted
-- less: each verdict is the record's own. A record whose verdict raises takes
-- the whole list down, so only calls that return are compared.
theorem narrowing_never_adds (db : Db) (clock : SnapshotClock) (registry : Registry)
    (within : ScopeWithin narrow.accountScope wide.accountScope) (longer : windowDays ≤ widerDays) :
    (∀ threshold alerts more,
      (detectRecurringSeverity narrow clock threshold windowDays registry).on db = .ok alerts →
      (detectRecurringSeverity wide clock threshold widerDays registry).on db = .ok more →
      ∀ alert ∈ alerts, ∃ other ∈ more, other.severity = alert.severity ∧ Widens alert other) ∧
    (∀ threshold alerts more,
      (detectCarrierPatterns narrow clock threshold windowDays).on db = .ok alerts →
      (detectCarrierPatterns wide clock threshold widerDays).on db = .ok more →
      ∀ alert ∈ alerts, ∃ other ∈ more, other.title = alert.title ∧ Widens alert other) ∧
    ∀ minOccurrences alerts more,
      (detectKnownIssuePatterns narrow clock minOccurrences windowDays).on db = .ok alerts →
      (detectKnownIssuePatterns wide clock minOccurrences widerDays).on db = .ok more →
      ∀ alert ∈ alerts, ∃ issue ∈ knownIssues db,
        AlertFor db narrow clock minOccurrences windowDays issue alert ∧
        ∃ other ∈ more, AlertFor db wide clock minOccurrences widerDays issue other ∧
          Widens alert other := by
  refine ⟨?_,?_,?_⟩
  · intro threshold alerts more ran again alert member
    exact recurring_narrowed within longer ran again member
  · intro threshold alerts more ran again alert member
    exact carrier_narrowed within longer ran again member
  · intro minOccurrences alerts more ran again alert member
    exact issue_narrowed within longer ran again member

end Narrowing

theorem narrowing_guide : let _ := repeatedHost
    ∃ alerts more, (detectKnownIssuePatterns oneAccount ⟨.epoch⟩ 1 30).on repeatedGuide = .ok alerts ∧
      (detectKnownIssuePatterns everyAccount ⟨.epoch⟩ 1 30).on repeatedGuide = .ok more ∧
      ∃ alert ∈ alerts, ∃ other ∈ more, Widens alert other := by
  intro _
  have back : DateTime.minusDays (SnapshotClock.now ⟨.epoch⟩) 30 = .ok monthBefore := rfl
  have parsed : firstMention ∈ knownIssues repeatedGuide := by decide +kernel
  have reports : reported 1 (recentTickets repeatedGuide oneAccount ⟨.epoch⟩ monthBefore)
      firstMention = true := by decide +kernel
  have member : issueAlert repeatedGuide 1 30 (recentTickets repeatedGuide oneAccount ⟨.epoch⟩
      monthBefore) firstMention ∈ _ := mem_alerts.mpr ⟨firstMention,parsed,reports,rfl⟩
  obtain ⟨_,_,issues⟩ := @narrowing_never_adds _ oneAccount everyAccount 30 30 repeatedGuide ⟨.epoch⟩ {}
    trivial (Int.le_refl 30)
  obtain ⟨_,_,_,other,found,_,widens⟩ := issues 1 _ _ (detectKnownIssuePatterns_on back)
    (detectKnownIssuePatterns_on back) _ member
  exact ⟨_,_,detectKnownIssuePatterns_on back,detectKnownIssuePatterns_on back,_,member,other,found,widens⟩

-- Two outages, and an agreement on answering times with one of the customers
-- alone; the registry has no target for the others.
def otherAccount : Account := {basicAccount with accountId := "ACCT-001"}

def otherOutage : TicketRow := {outageTicket with ticketId := "TKT-105", accountId := "ACCT-001"}

def agreedOutages : Db := {Db.empty with
  sources := ⟨[agreementSource "SRC-05" "ACCT-003" .active 739616 none],by decide⟩
  slaTargets := [⟨"SRC-05",none,some "ACCT-003","P1","1 hour, 24x7",some 60,true,false⟩]
  accounts := ⟨[basicAccount,otherAccount],by decide⟩
  tickets := ⟨[outageTicket,otherOutage],by decide⟩}

def noTargets : Defaults
  | .slaFirstResponse => some none
  | topic => defaultSource topic

def soleAgreement : Registry where
  overrides := [⟨"ACCT-003","SRC-05","1",.slaFirstResponse,"The agreement's targets apply."⟩]
  defaults := noTargets

def agreedAccount : AuthContext := ⟨.supportAgent,some ["ACCT-003"]⟩

theorem agreed_calculable : let _ := asciiHost [] []
    AllCalculable agreedOutages agreedAccount snapshotClock 30 soleAgreement := by
  intro _ ticket listed _
  have only : ticket = outageTicket.toTicket snapshotClock.tz := List.mem_singleton.mp listed
  subst only
  refine ⟨⟨basicAccount,rfl⟩,fun severity _ => ⟨"SRC-05",rfl⟩,fun severity target named found => ?_⟩
  cases Option.some.inj ((outage_p1 _).symm.trans named)
  cases found
  exact .inr ⟨_,rfl⟩

theorem agreed_alerted : let _ := asciiHost [] []
    ∃ alerts, (detectRecurringSeverity agreedAccount snapshotClock 1 30 soleAgreement).on
      agreedOutages = .ok alerts ∧ alerts ≠ [] := by
  intro _
  have targeted : outageTicket.toTicket snapshotClock.tz ∈
      targetedTickets agreedOutages agreedAccount snapshotClock 30 soleAgreement .p1 :=
    List.mem_filter.mpr ⟨outage_classified agreedOutages agreedAccount rfl rfl,rfl⟩
  obtain ⟨alerts,ran⟩ := recurring_returns 1 (show DateTime.minusDays _ _ = .ok _ from rfl)
    agreed_calculable
  obtain ⟨alert,raises⟩ := recurringAlert_enough 30 .p1
    (Int.ofNat_le.mpr (List.length_pos_of_mem targeted))
  exact ⟨alerts,ran,List.ne_nil_of_mem ((mem_recurring ran).mpr ⟨.p1,by simp,raises⟩)⟩

theorem wider_call_raises : let _ := asciiHost [] []
    ScopeWithin agreedAccount.accountScope everyAccount.accountScope ∧
      (∃ alerts, (detectRecurringSeverity agreedAccount snapshotClock 1 30 soleAgreement).on
        agreedOutages = .ok alerts ∧ alerts ≠ []) ∧
      ∀ more, (detectRecurringSeverity everyAccount snapshotClock 1 30 soleAgreement).on
        agreedOutages ≠ .ok more := by
  intro _
  refine ⟨trivial,agreed_alerted,fun more ran => ?_⟩
  have read : (getTicket "TKT-105" everyAccount snapshotClock.tz).on agreedOutages =
      .ok (otherOutage.toTicket snapshotClock.tz) := getTicket_ok.mpr ⟨otherOutage,rfl,rfl,rfl⟩
  obtain ⟨_,calculable,_⟩ := recurring_level ran
  have listed : otherOutage.toTicket snapshotClock.tz ∈
      openTickets agreedOutages everyAccount snapshotClock := mem_openTickets.mpr ⟨read,rfl⟩
  have named := @assignedSeverity_text _ (otherOutage.toTicket snapshotClock.tz)
    (outageTicket.toTicket snapshotClock.tz) rfl rfl
  obtain ⟨source,governing⟩ := (calculable _ listed (by decide)).governed .p1 (named.trans (outage_p1 _))
  cases governing

end ParcelPilot
