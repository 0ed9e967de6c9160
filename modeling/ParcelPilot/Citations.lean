import ParcelPilot.OrderDecisions
import ParcelPilot.Actions
import ParcelPilot.RadarAlerts

namespace ParcelPilot

section Backing

variable [Host] {db : Db}

def chunksAt (db : Db) (sourceId section_ : String) : List DocumentChunk :=
  db.documentChunks.filter fun chunk => chunk.sourceId = sourceId && chunk.section_ = some section_

def EvidenceRef.Backed (db : Db) (ref : EvidenceRef) : Prop :=
  ref.kind = .document → ∃ chunk section_, ref.locator = some (clauseLocator chunk.page (some section_)) ∧
    chunksAt db ref.sourceId section_ = [chunk]

-- A place with one row. A section that is missing is printed as None, and its
-- page is the default.
def OneRow (db : Db) (sourceId : String) (section_ : Option String) : Prop :=
  ∃ chunk, chunksAt db sourceId (section_.getD "None") = [chunk] ∧ (section_ = none → chunk.page = 1)

theorem chunkPage_at (sourceId section_ : String) :
    db.answer (.chunkPage sourceId (some section_)) = (chunksAt db sourceId section_).head?.map (·.page) := by
  simp only [Db.answer,chunksAt,List.head?_filter,Option.isSome_some,Bool.and_true]
  rfl

theorem chunkPage_missing (sourceId : String) :
    db.answer (.chunkPage sourceId none) = (none : Option Nat) := by
  have absent : (db.documentChunks.find? fun chunk =>
      chunk.sourceId = sourceId && (none : Option String).isSome && chunk.section_ = none) = none := by
    simp
  exact congrArg (Option.map (·.page)) absent

theorem documentRef_backed {sourceId : String} {section_ note : Option String} :
    EvidenceRef.Backed db {documentRef db sourceId section_ with note := note} ↔
      OneRow db sourceId section_ := by
  constructor
  · intro backed
    obtain ⟨chunk,place,located,only⟩ := backed rfl
    obtain ⟨page,same⟩ := clauseLocator_inj.mp (Option.some.inj located)
    refine ⟨chunk,?_,fun missing => ?_⟩
    · rw [same]
      exact only
    · subst missing
      rw [chunkPage_missing] at page
      exact page.symm
  · rintro ⟨chunk,only,first⟩ _
    refine ⟨chunk,section_.getD "None",congrArg some (clauseLocator_inj.mpr ⟨?_,rfl⟩),only⟩
    cases section_ with
    | none =>
        rw [chunkPage_missing]
        exact (first rfl).symm
    | some place =>
        rw [chunkPage_at,show chunksAt db sourceId place = [chunk] from only]
        rfl

end Backing

section Places

variable [Host] {db : Db} {auth : AuthContext} {clock : SnapshotClock} {registry : Registry}

-- The evidence of everything a caller can be given: the results of the four
-- evaluations, the alerts of the rules and the records of prepared actions.
inductive Issued (db : Db) (auth : AuthContext) (clock : SnapshotClock) (registry : Registry) :
    List EvidenceRef → Prop where
  | cancellation {decision : DecisionResult CancellationOutcome}
      (ran : (evaluateCancellation orderId auth clock feeRules registry).on db = .ok decision) :
      Issued db auth clock registry decision.evidence
  | credit {decision : DecisionResult ServiceCreditOutcome}
      (ran : (evaluateServiceCredit orderId auth clock creditRules registry).on db = .ok decision) :
      Issued db auth clock registry decision.evidence
  | severity {decision : DecisionResult SeverityOutcome}
      (ran : (classifySeverity ticket).on db = .ok decision) :
      Issued db auth clock registry decision.evidence
  | sla {decision : DecisionResult SlaOutcome}
      (ran : (calculateSla ticketId auth clock registry).on db = .ok decision) :
      Issued db auth clock registry decision.evidence
  | alert {alert : AlertCandidate}
      (ran : (runRule auth clock windowDays registry alertType).on db = .ok alerts)
      (raised : alert ∈ alerts) : Issued db auth clock registry alert.evidence
  | prepared {outcome : ActionOutcome} {record : ActionRecord}
      (ran : ((prepareEscalation ticketId reason auth clock userId requestId registry uuidHex).on
        db).1 = .ok outcome) (recorded : outcome.record = some record) :
      Issued db auth clock registry record.evidence

-- The places these look up, read off the registry and the stored records.
inductive Cited (db : Db) (auth : AuthContext) (clock : SnapshotClock) (registry : Registry) :
    String → Option String → Prop where
  | definitions : Cited db auth clock registry "SRC-01" (some "2")
  | settledOrder {order : Order} (read : (getOrder orderId auth clock.tz).on db = .ok order)
      (settled : order.status ≠ .booked)
      (known : registry.defaults .cancellationFee = some (some source)) :
      Cited db auth clock registry source.1 (some source.2)
  | requestedOrder {order : Order} (read : (getOrder orderId auth clock.tz).on db = .ok order)
      (booked : order.status = .booked) (requested : order.cancellationRequestedAt = some requestedAt)
      (known : registry.defaults .cancellationFee = some (some source))
      (resolved : (resolveApplicability .cancellationFee order.accountId clock.now.date registry).on
        db = .ok applicability) :
      Cited db auth clock registry applicability.winningSourceId (some applicability.winningSection)
  | faultOrder {order : Order} (read : (getOrder orderId auth clock.tz).on db = .ok order)
      (fault : order.carrierFault = false ∨ order.customerFault = true)
      (known : registry.defaults .serviceCreditThresholdAndAmount = some (some source)) :
      Cited db auth clock registry source.1 (some source.2)
  | carrierOrder {order : Order} (read : (getOrder orderId auth clock.tz).on db = .ok order)
      (carrier : order.carrierFault = true) (customer : order.customerFault = false)
      (known : registry.defaults .serviceCreditThresholdAndAmount = some (some source))
      (resolved : (resolveApplicability .serviceCreditThresholdAndAmount order.accountId
        clock.now.date registry).on db = .ok applicability) :
      Cited db auth clock registry applicability.winningSourceId (some applicability.winningSection)
  | targetTicket {ticket : Ticket} (read : (getTicket ticketId auth clock.tz).on db = .ok ticket)
      (known : db.accounts.row ticket.accountId = some account)
      (named : assignedSeverity ticket = some severity)
      (resolved : (resolveApplicability .slaFirstResponse ticket.accountId clock.now.date registry).on
        db = .ok applicability)
      (stored : Db.slaTargetRow db.slaTargets applicability.winningSourceId severity.value
        account.plan ticket.accountId = some target)
      (readable : target.requiresBusinessCalendar = true ∨
        ∃ reading, slaDeadline ticket target = .ok reading) :
      Cited db auth clock registry applicability.winningSourceId (some applicability.winningSection)
  | knownIssue {cutoff : DateTime} (within : clock.now.minusDays windowDays = .ok cutoff)
      (parsed : issue ∈ knownIssues db)
      (reports : reported defaultKnownIssueMinOccurrences (recentTickets db auth clock cutoff) issue =
        true) :
      Cited db auth clock registry issue.sourceId issue.section_

-- Evidence that looks up cited places only.
def FromCited (db : Db) (auth : AuthContext) (clock : SnapshotClock) (registry : Registry)
    (evidence : List EvidenceRef) : Prop :=
  ∀ ref ∈ evidence, ref.kind = .document → ∃ sourceId section_ note,
    Cited db auth clock registry sourceId section_ ∧
      ref = {documentRef db sourceId section_ with note := note}

section Evidence

theorem fromCited_nil : FromCited db auth clock registry [] := by
  intro ref member
  cases member

theorem fromCited_structured {rest : List EvidenceRef} (table recordId : String)
    (note : Option String) (cited : FromCited db auth clock registry rest) :
    FromCited db auth clock registry (citeStructured table recordId note :: rest) := by
  intro ref member document
  rcases List.mem_cons.mp member with rfl | later
  · cases document
  · exact cited ref later document

theorem fromCited_document {sourceId : String} {section_ : Option String} {rest : List EvidenceRef}
    (note : Option String) (place : Cited db auth clock registry sourceId section_)
    (cited : FromCited db auth clock registry rest) :
    FromCited db auth clock registry
      ({documentRef db sourceId section_ with note := note} :: rest) := by
  intro ref member document
  rcases List.mem_cons.mp member with rfl | later
  · exact ⟨sourceId,section_,note,place,rfl⟩
  · exact cited ref later document

theorem fromCited_records (table : String) (ids : List String) :
    FromCited db auth clock registry (ids.map (citeStructured table ·)) := by
  induction ids with
  | nil => exact fromCited_nil
  | cons id rest ih => exact fromCited_structured table id none ih

theorem severityOf_cites (ticket : Ticket) (evidence : List EvidenceRef) :
    (severityOf ticket evidence).evidence = evidence := by
  unfold severityOf
  dsimp only
  split
  · split <;> rfl
  · rfl

end Evidence

section Producers

variable {orderId ticketId : String} {feeRules : FeeRules} {creditRules : CreditRules}
  {windowDays : Int} {alertType : AlertType} {alert : AlertCandidate}

theorem cancellation_cited {decision : DecisionResult CancellationOutcome}
    (ran : (evaluateCancellation orderId auth clock feeRules registry).on db = .ok decision) :
    FromCited db auth clock registry decision.evidence := by
  unfold evaluateCancellation at ran
  obtain ⟨order,read,ran⟩ := on_bind_ok.mp ran
  obtain ⟨source,asserted,ran⟩ := on_bind_ok.mp ran
  have known := assertDefault_ok.mp asserted
  have default_ (settled : order.status ≠ .booked) : FromCited db auth clock registry
      [citeStructured "orders" order.orderId,documentRef db source.1 (some source.2)] :=
    fromCited_structured _ _ none (fromCited_document none (.settledOrder read settled known)
      fromCited_nil)
  cases status : order.status with
  | delivered =>
      simp only [status] at ran
      cases ran
      exact default_ (by simp [status])
  | pickedUp =>
      simp only [status] at ran
      cases ran
      exact default_ (by simp [status])
  | draft =>
      simp only [status] at ran
      cases ran
      exact default_ (by simp [status])
  | booked =>
      simp only [status] at ran
      cases requested : order.cancellationRequestedAt with
      | none =>
          simp only [requested] at ran
          cases ran
          exact fromCited_structured _ _ none fromCited_nil
      | some requestedAt =>
          simp only [requested] at ran
          obtain ⟨applicability,resolved,ran⟩ := on_bind_ok.mp ran
          obtain ⟨rule,_,ran⟩ := on_bind_ok.mp ran
          obtain ⟨⟨fee,note⟩,_,ran⟩ := on_bind_ok.mp ran
          cases ran
          exact fromCited_structured _ _ none (fromCited_document none
            (.requestedOrder read status requested known resolved) fromCited_nil)

theorem credit_cited {decision : DecisionResult ServiceCreditOutcome}
    (ran : (evaluateServiceCredit orderId auth clock creditRules registry).on db = .ok decision) :
    FromCited db auth clock registry decision.evidence := by
  obtain ⟨order,read,_⟩ := on_bind_ok.mp ran
  cases credit_cases read ran with
  | denied known fault =>
      exact fromCited_structured _ _ none (fromCited_document none (.faultOrder read fault known)
        fromCited_nil)
  | decided known carrier customer resolved ruled applied =>
      exact fromCited_structured _ _ none (fromCited_document none
        (.carrierOrder read carrier customer known resolved) fromCited_nil)

theorem severity_cited (ticket : Ticket) : FromCited db auth clock registry
    (severityOf ticket [documentRef db "SRC-01" (some "2")]).evidence := by
  rw [severityOf_cites]
  exact fromCited_document none .definitions fromCited_nil

theorem sla_cited {decision : DecisionResult SlaOutcome}
    (ran : (calculateSla ticketId auth clock registry).on db = .ok decision) :
    FromCited db auth clock registry decision.evidence := by
  obtain ⟨ticket,read,_⟩ := on_bind_ok.mp ran
  obtain ⟨account,known,assessed⟩ := sla_cases read ran
  have evidenced {applicability : ApplicabilityResult}
      (place : Cited db auth clock registry applicability.winningSourceId
        (some applicability.winningSection)) :
      FromCited db auth clock registry (slaEvidence db ticket applicability) := by
    unfold slaEvidence
    rw [severityOf_cites]
    exact fromCited_structured _ _ none (fromCited_document none .definitions
      (fromCited_document none place fromCited_nil))
  cases assessed with
  | unclassified unnamed => exact fromCited_structured _ _ none (severity_cited ticket)
  | untargeted named resolved absent => exact fromCited_structured _ _ none fromCited_nil
  | calendar named resolved stored needed =>
      exact evidenced (.targetTicket read known named resolved stored (.inl needed))
  | computed named resolved stored plain reading =>
      exact evidenced (.targetTicket read known named resolved stored (.inr ⟨_,reading⟩))

theorem slaBreachAlert_evidence {ticket : Ticket} {decision : DecisionResult SlaOutcome}
    (raises : slaBreachAlert ticket decision = some alert) :
    alert.evidence = slaAlertEvidence ticket decision := by
  unfold slaBreachAlert at raises
  split at raises
  · cases raises
  · split at raises
    · cases raises
    · cases raises
      rfl

theorem slaApproachingAlert_evidence {ratio : Rat} {ticket : Ticket}
    {decision : DecisionResult SlaOutcome}
    (raises : slaApproachingAlert ratio ticket decision = some alert) :
    alert.evidence = slaAlertEvidence ticket decision := by
  unfold slaApproachingAlert at raises
  split at raises
  · cases raises
  · split at raises
    · cases raises
    · split at raises
      · split at raises
        · cases raises
        · cases raises
          rfl
      · cases raises

theorem recurringAlert_evidence {threshold : Int} {severity : Severity} {tickets : List Ticket}
    (raises : recurringAlert threshold windowDays severity tickets = some alert) :
    ∃ ids : List String, alert.evidence = ids.map (citeStructured "tickets" ·) := by
  unfold recurringAlert at raises
  dsimp only at raises
  split at raises
  · cases raises
  · cases raises
    exact ⟨_,rfl⟩

theorem carrierAlert_evidence {threshold : Int} {carrier : String} {orders : List Order}
    (raises : carrierAlert threshold windowDays carrier orders = some alert) :
    ∃ ids : List String, alert.evidence = ids.map (citeStructured "orders" ·) := by
  unfold carrierAlert at raises
  dsimp only at raises
  split at raises
  · cases raises
  · cases raises
    exact ⟨_,rfl⟩

theorem overduePickupAlert_evidence {snapshot : DateTime} {order : Order}
    (raises : overduePickupAlert snapshot order = some alert) :
    alert.evidence = [citeStructured "orders" order.orderId] := by
  unfold overduePickupAlert at raises
  split at raises
  · cases raises
  · cases raises
    rfl

theorem raised_cited (raised : Raised db auth clock windowDays registry alertType alert) :
    FromCited db auth clock registry alert.evidence := by
  cases raised with
  | breach listed calculated raises =>
      rw [slaBreachAlert_evidence raises]
      exact fromCited_structured _ _ _ (sla_cited calculated)
  | approaching listed calculated raises =>
      rw [slaApproachingAlert_evidence raises]
      exact fromCited_structured _ _ _ (sla_cited calculated)
  | recurring within high raises =>
      obtain ⟨ids,cited⟩ := recurringAlert_evidence raises
      rw [cited]
      exact fromCited_records "tickets" ids
  | issue within parsed reports =>
      exact fromCited_document _ (.knownIssue within parsed reports) (fromCited_records "tickets" _)
  | carrier within raises =>
      obtain ⟨ids,cited⟩ := carrierAlert_evidence raises
      rw [cited]
      exact fromCited_records "orders" ids
  | overdue listed raises =>
      rw [overduePickupAlert_evidence raises]
      exact fromCited_structured _ _ none fromCited_nil

theorem prepared_evidence {outcome : ActionOutcome} {record : ActionRecord}
    {reason userId requestId uuidHex : String}
    (ran : ((prepareEscalation ticketId reason auth clock userId requestId registry uuidHex).on
      db).1 = .ok outcome) (recorded : outcome.record = some record) :
    ∃ decision, (calculateSla ticketId auth clock registry).on db = .ok decision ∧
      record.evidence = citeStructured "tickets" ticketId :: decision.evidence := by
  unfold prepareEscalation at ran
  obtain ⟨found,middle,looked,ran⟩ := alone_ok ran
  rw [alone_reading] at looked
  obtain rfl : db = middle := congrArg Prod.snd looked
  split at ran
  · cases ran
    cases recorded
  · cases ran
    cases recorded
  · cases ran
  · split at ran
    · cases ran
      cases recorded
    · obtain ⟨decision,after,calculated,ran⟩ := alone_ok ran
      have same : (calculateSla ticketId auth clock registry).on db = .ok decision := by
        rw [alone_reading] at calculated
        exact congrArg Prod.fst calculated
      refine ⟨decision,same,?_⟩
      split at ran
      · cases ran
        cases recorded
      · split at ran
        · obtain ⟨expiresAt,_,_,ran⟩ := alone_ok ran
          obtain ⟨_,_,_,ran⟩ := alone_ok ran
          cases ran
          cases recorded
          rfl
        · cases ran
          cases recorded

theorem issued_cited {evidence : List EvidenceRef} (issued : Issued db auth clock registry evidence) :
    FromCited db auth clock registry evidence := by
  cases issued with
  | cancellation ran => exact cancellation_cited ran
  | credit ran => exact credit_cited ran
  | severity ran =>
      rw [classifySeverity_ref] at ran
      cases ran
      exact severity_cited _
  | sla ran => exact sla_cited ran
  | alert ran raised => exact raised_cited ((runRule_raises ran).mp raised)
  | prepared ran recorded =>
      obtain ⟨decision,calculated,evidence⟩ := prepared_evidence ran recorded
      rw [evidence]
      exact fromCited_structured _ _ none (sla_cited calculated)

end Producers

section Rulings

-- Rules that answer for every source.
def waivedEverywhere : FeeRules := fun _ => some {kind := .fullWaiver}

def fixedEverywhere : CreditRules := fun _ =>
  some {thresholdHours := 0, kind := .fixedAmount, fixedAmountInr := some 0}

theorem fixedEverywhere_applies (delayHours : Rat) (shipmentFeeInr : PyFloat) :
    ∃ eligible credit note, applyCreditRule ⟨0,.fixedAmount,none,none,some 0⟩ delayHours
      shipmentFeeInr = .ok (eligible,credit,note) := by
  unfold applyCreditRule
  split
  · exact ⟨_,_,_,rfl⟩
  · exact ⟨_,_,_,rfl⟩

variable {orderId : String} {order : Order} {source : String × String}

theorem settled_issued (read : (getOrder orderId auth clock.tz).on db = .ok order)
    (settled : order.status ≠ .booked)
    (known : registry.defaults .cancellationFee = some (some source)) :
    ∃ evidence, Issued db auth clock registry evidence ∧
      documentRef db source.1 (some source.2) ∈ evidence := by
  have asserted : (registry.assertDefault .cancellationFee).on db = .ok source :=
    assertDefault_ok.mpr known
  obtain ⟨decision,ran,evidence⟩ : ∃ decision,
      (evaluateCancellation orderId auth clock waivedEverywhere registry).on db = .ok decision ∧
        decision.evidence = [citeStructured "orders" order.orderId,
          documentRef db source.1 (some source.2)] := by
    cases status : order.status with
    | booked => exact absurd status settled
    | _ =>
        simp only [evaluateCancellation,on_bind,read,asserted,Except.bind,status,citeDocument_ref,
          on_pure]
        exact ⟨_,rfl,rfl⟩
  exact ⟨_,.cancellation ran,by simp [evidence]⟩

theorem requested_issued {applicability : ApplicabilityResult}
    (read : (getOrder orderId auth clock.tz).on db = .ok order) (booked : order.status = .booked)
    (requested : order.cancellationRequestedAt = some requestedAt)
    (known : registry.defaults .cancellationFee = some (some source))
    (resolved : (resolveApplicability .cancellationFee order.accountId clock.now.date registry).on db =
      .ok applicability) :
    ∃ evidence, Issued db auth clock registry evidence ∧ documentRef db applicability.winningSourceId
      (some applicability.winningSection) ∈ evidence := by
  have asserted : (registry.assertDefault .cancellationFee).on db = .ok source :=
    assertDefault_ok.mpr known
  obtain ⟨decision,ran,evidence⟩ : ∃ decision,
      (evaluateCancellation orderId auth clock waivedEverywhere registry).on db = .ok decision ∧
        decision.evidence = [citeStructured "orders" order.orderId,
          documentRef db applicability.winningSourceId (some applicability.winningSection)] := by
    simp only [evaluateCancellation,on_bind,read,asserted,Except.bind,booked,requested,resolved,
      on_orRaise,ruleOf,waivedEverywhere,applyFeeRule,citeDocument_ref,on_pure]
    exact ⟨_,rfl,rfl⟩
  exact ⟨_,.cancellation ran,by simp [evidence]⟩

theorem fault_issued (read : (getOrder orderId auth clock.tz).on db = .ok order)
    (fault : order.carrierFault = false ∨ order.customerFault = true)
    (known : registry.defaults .serviceCreditThresholdAndAmount = some (some source)) :
    ∃ evidence, Issued db auth clock registry evidence ∧
      documentRef db source.1 (some source.2) ∈ evidence := by
  have asserted : (registry.assertDefault .serviceCreditThresholdAndAmount).on db = .ok source :=
    assertDefault_ok.mpr known
  have denied : (!order.carrierFault || order.customerFault) = true := by simpa using fault
  obtain ⟨decision,ran,evidence⟩ : ∃ decision,
      (evaluateServiceCredit orderId auth clock fixedEverywhere registry).on db = .ok decision ∧
        decision.evidence = [citeStructured "orders" order.orderId,
          documentRef db source.1 (some source.2)] := by
    simp only [evaluateServiceCredit,on_bind,read,asserted,Except.bind,denied,if_true,
      citeDocument_ref,on_pure]
    exact ⟨_,rfl,rfl⟩
  exact ⟨_,.credit ran,by simp [evidence]⟩

theorem carrier_issued {applicability : ApplicabilityResult}
    (read : (getOrder orderId auth clock.tz).on db = .ok order) (carrier : order.carrierFault = true)
    (customer : order.customerFault = false)
    (known : registry.defaults .serviceCreditThresholdAndAmount = some (some source))
    (resolved : (resolveApplicability .serviceCreditThresholdAndAmount order.accountId clock.now.date
      registry).on db = .ok applicability) :
    ∃ evidence, Issued db auth clock registry evidence ∧ documentRef db applicability.winningSourceId
      (some applicability.winningSection) ∈ evidence := by
  have asserted : (registry.assertDefault .serviceCreditThresholdAndAmount).on db = .ok source :=
    assertDefault_ok.mpr known
  obtain ⟨eligible,credit,note,applied⟩ :=
    fixedEverywhere_applies (creditDelay order clock.now) order.shipmentFeeInr
  unfold creditDelay at applied
  obtain ⟨decision,ran,evidence⟩ : ∃ decision,
      (evaluateServiceCredit orderId auth clock fixedEverywhere registry).on db = .ok decision ∧
        decision.evidence = [citeStructured "orders" order.orderId,
          documentRef db applicability.winningSourceId (some applicability.winningSection)] := by
    simp only [evaluateServiceCredit,on_bind,read,asserted,Except.bind,carrier,customer,Bool.not_true,
      Bool.or_self,Bool.false_eq_true,if_false,resolved,on_orRaise,ruleOf,fixedEverywhere,applied,
      citeDocument_ref,on_pure]
    exact ⟨_,rfl,rfl⟩
  exact ⟨_,.credit ran,by simp [evidence]⟩

theorem target_issued {ticket : Ticket} {account : Account} {severity : Severity}
    {applicability : ApplicabilityResult} {target : SlaTarget}
    (read : (getTicket ticketId auth clock.tz).on db = .ok ticket)
    (known : db.accounts.row ticket.accountId = some account)
    (named : assignedSeverity ticket = some severity)
    (resolved : (resolveApplicability .slaFirstResponse ticket.accountId clock.now.date registry).on
      db = .ok applicability)
    (stored : Db.slaTargetRow db.slaTargets applicability.winningSourceId severity.value
      account.plan ticket.accountId = some target)
    (readable : target.requiresBusinessCalendar = true ∨
      ∃ reading, slaDeadline ticket target = .ok reading) :
    ∃ evidence, Issued db auth clock registry evidence ∧ documentRef db applicability.winningSourceId
      (some applicability.winningSection) ∈ evidence := by
  have cited : documentRef db applicability.winningSourceId (some applicability.winningSection) ∈
      slaEvidence db ticket applicability := by simp [slaEvidence]
  cases calendar : target.requiresBusinessCalendar with
  | true => exact ⟨_,.sla (sla_ran read known (.calendar named resolved stored calendar)),cited⟩
  | false =>
      obtain ⟨⟨minutes,deadline⟩,reading⟩ := readable.resolve_left (by simp [calendar])
      exact ⟨_,.sla (sla_ran read known (.computed named resolved stored calendar reading)),cited⟩

theorem issue_issued {issue : KnownIssue} {windowDays : Int} {cutoff : DateTime}
    (within : clock.now.minusDays windowDays = .ok cutoff) (parsed : issue ∈ knownIssues db)
    (reports : reported defaultKnownIssueMinOccurrences (recentTickets db auth clock cutoff) issue =
      true) :
    ∃ evidence, Issued db auth clock registry evidence ∧
      {documentRef db issue.sourceId issue.section_ with note := some issue.kiId} ∈ evidence := by
  have ran : (runRule auth clock windowDays registry .knownIssuePattern).on db = .ok _ :=
    detectKnownIssuePatterns_on within
  exact ⟨_,.alert ran (List.mem_map_of_mem (List.mem_filter.mpr ⟨parsed,reports⟩)),
    List.mem_cons_self⟩

def blankTicket : Ticket :=
  ⟨"","",.epoch,.open_,"","","","",.epoch,none⟩

theorem cited_issued {sourceId : String} {section_ : Option String}
    (place : Cited db auth clock registry sourceId section_) :
    ∃ evidence, Issued db auth clock registry evidence ∧ ∃ note,
      {documentRef db sourceId section_ with note := note} ∈ evidence := by
  have plain {evidence : List EvidenceRef} (issued : Issued db auth clock registry evidence ∧
      documentRef db sourceId section_ ∈ evidence) :
      ∃ evidence, Issued db auth clock registry evidence ∧ ∃ note,
        {documentRef db sourceId section_ with note := note} ∈ evidence :=
    ⟨evidence,issued.1,none,issued.2⟩
  cases place with
  | definitions =>
      have classified : (classifySeverity blankTicket).on db = .ok _ := classifySeverity_ref
      refine plain ⟨.severity classified,?_⟩
      rw [severityOf_cites]
      exact List.mem_singleton.mpr rfl
  | settledOrder read settled known =>
      obtain ⟨evidence,issued⟩ := settled_issued read settled known
      exact plain issued
  | requestedOrder read booked requested known resolved =>
      obtain ⟨evidence,issued⟩ := requested_issued read booked requested known resolved
      exact plain issued
  | faultOrder read fault known =>
      obtain ⟨evidence,issued⟩ := fault_issued read fault known
      exact plain issued
  | carrierOrder read carrier customer known resolved =>
      obtain ⟨evidence,issued⟩ := carrier_issued read carrier customer known resolved
      exact plain issued
  | targetTicket read known named resolved stored readable =>
      obtain ⟨evidence,issued⟩ := target_issued read known named resolved stored readable
      exact plain issued
  | knownIssue within parsed reports =>
      obtain ⟨evidence,issued,cited⟩ := issue_issued within parsed reports
      exact ⟨evidence,issued,_,cited⟩

-- What is handed out cites existing text just when every place that is looked
-- up has one row.
theorem citations_backed_iff :
    (∀ evidence, Issued db auth clock registry evidence → ∀ ref ∈ evidence, ref.Backed db) ↔
      ∀ sourceId section_, Cited db auth clock registry sourceId section_ →
        OneRow db sourceId section_ := by
  constructor
  · intro backed sourceId section_ place
    obtain ⟨evidence,issued,note,cited⟩ := cited_issued place
    exact documentRef_backed.mp (backed evidence issued _ cited)
  · intro rows evidence issued ref member document
    obtain ⟨sourceId,section_,note,place,rfl⟩ := issued_cited issued ref member document
    exact documentRef_backed.mpr (rows sourceId section_ place) document

end Rulings

end Places

-- Nothing is ingested, and a severity is still cited to a page.
theorem unread_policy_cited : let _ := asciiHost [] []
    ∃ decision, (classifySeverity blankTicket).on Db.empty = .ok decision ∧
      decision.evidence = [⟨.document,"SRC-01",some "p1:2",none⟩] ∧
      ¬ EvidenceRef.Backed Db.empty ⟨.document,"SRC-01",some "p1:2",none⟩ := by
  intro _
  refine ⟨_,classifySeverity_ref,?_,fun backed => ?_⟩
  · rw [severityOf_cites]
    decide +kernel
  · obtain ⟨chunk,section_,_,only⟩ := backed rfl
    cases only

end ParcelPilot
