import Mathlib.Tactic.Linarith
import ParcelPilot.Escalation
import ParcelPilot.OrderDecisions

namespace ParcelPilot

-- The three services that consult the resolver.
inductive DomainService where
  | cancellation | serviceCredit | sla
deriving DecidableEq,Repr

section Review

variable [Host]

def DomainService.trust (service : DomainService) (entityId : String) (auth : AuthContext)
    (clock : SnapshotClock) (feeRules : FeeRules) (creditRules : CreditRules) (registry : Registry) :
    Query TrustState :=
  match service with
  | .cancellation => do
      let decision ← evaluateCancellation entityId auth clock feeRules registry
      pure decision.trustState
  | .serviceCredit => do
      let decision ← evaluateServiceCredit entityId auth clock creditRules registry
      pure decision.trustState
  | .sla => do
      let decision ← calculateSla entityId auth clock registry
      pure decision.trustState

-- The clause a service resolved on its way to an answer.
inductive ClauseUsed (db : Db) (entityId : String) (auth : AuthContext) (clock : SnapshotClock)
    (registry : Registry) : DomainService → ApplicabilityResult → Prop where
  | cancellation (read : (getOrder entityId auth clock.tz).on db = .ok order)
      (booked : order.status = .booked) (requested : order.cancellationRequestedAt.isSome)
      (resolved : (resolveApplicability .cancellationFee order.accountId clock.now.date registry).on db =
        .ok applicability) :
      ClauseUsed db entityId auth clock registry .cancellation applicability
  | serviceCredit (read : (getOrder entityId auth clock.tz).on db = .ok order)
      (carrier : order.carrierFault = true) (customer : order.customerFault = false)
      (resolved : (resolveApplicability .serviceCreditThresholdAndAmount order.accountId
        clock.now.date registry).on db = .ok applicability) :
      ClauseUsed db entityId auth clock registry .serviceCredit applicability
  | sla (read : (getTicket entityId auth clock.tz).on db = .ok ticket)
      (named : (assignedSeverity ticket).isSome)
      (resolved : (resolveApplicability .slaFirstResponse ticket.accountId clock.now.date registry).on db =
        .ok applicability) :
      ClauseUsed db entityId auth clock registry .sla applicability

def SlaInTerm (db : Db) (ticketId : String) (auth : AuthContext) (clock : SnapshotClock)
    (registry : Registry) : Prop :=
  ∀ ticket, (getTicket ticketId auth clock.tz).on db = .ok ticket → (assignedSeverity ticket).isSome →
    ∀ override, registry.override .slaFirstResponse ticket.accountId = some override →
      db.activeAt override.sourceId clock.now.date

variable {db : Db} {entityId : String} {auth : AuthContext} {clock : SnapshotClock}
  {feeRules : FeeRules} {creditRules : CreditRules} {registry : Registry} {trust : TrustState}
  {applicability : ApplicabilityResult}

theorem review_iff_lapsed {topic : ClauseTopic} {accountId : String} {at_ : Date}
    (resolved : (resolveApplicability topic accountId at_ registry).on db = .ok applicability) :
    applicability.needsHumanReview = true ↔
      ∃ override, registry.override topic accountId = some override ∧
        ¬ db.activeAt override.sourceId at_ := by
  cases resolve_cases resolved with
  | uncontested known silent => simp [byDefault,silent]
  | agreed known first active => simp [AgreementOverride.governs,first,active]
  | lapsed known first inactive reason => simp [byDefault,first,inactive]

theorem cancellation_escalates {decision : DecisionResult CancellationOutcome}
    (ran : (evaluateCancellation entityId auth clock feeRules registry).on db = .ok decision)
    (used : ClauseUsed db entityId auth clock registry .cancellation applicability)
    (review : applicability.needsHumanReview = true) : decision.trustState = .escalate := by
  cases used with
  | cancellation read booked requested resolved =>
      cases cancellation_cases read ran with
      | settled known decides reason evidence =>
          simp only [settledDecision,booked] at decides
          split at decides
          · rename_i unasked
            rw [unasked] at requested
            cases requested
          · cases decides
      | charged known _ asked again ruled applied =>
          cases Except.ok.inj (resolved.symm.trans again)
          simp [cancellationFee,trustFrom,review]

theorem credit_escalates {decision : DecisionResult ServiceCreditOutcome}
    (ran : (evaluateServiceCredit entityId auth clock creditRules registry).on db = .ok decision)
    (used : ClauseUsed db entityId auth clock registry .serviceCredit applicability)
    (review : applicability.needsHumanReview = true) : decision.trustState = .escalate := by
  cases used with
  | serviceCredit read carrier customer resolved =>
      cases credit_cases read ran with
      | denied known fault => simp [carrier,customer] at fault
      | decided known _ _ again ruled applied =>
          cases Except.ok.inj (resolved.symm.trans again)
          simp [creditDecision,trustFrom,review]

theorem sla_never_escalates {decision : DecisionResult SlaOutcome}
    (ran : (calculateSla entityId auth clock registry).on db = .ok decision) :
    decision.trustState ≠ .escalate := by
  obtain ⟨ticket,read,_⟩ := on_bind_ok.mp ran
  obtain ⟨account,_,assessed⟩ := sla_cases read ran
  cases assessed <;> simp [slaUnclassified,slaNoTarget,slaBusinessCalendar,slaComputed]

theorem sla_resolved {decision : DecisionResult SlaOutcome} {ticket : Ticket}
    (ran : (calculateSla entityId auth clock registry).on db = .ok decision)
    (read : (getTicket entityId auth clock.tz).on db = .ok ticket)
    (named : (assignedSeverity ticket).isSome) :
    ∃ applicability, (resolveApplicability .slaFirstResponse ticket.accountId clock.now.date
      registry).on db = .ok applicability := by
  obtain ⟨account,_,assessed⟩ := sla_cases read ran
  cases assessed with
  | unclassified unnamed => simp [unnamed] at named
  | untargeted _ resolved absent => exact ⟨_,resolved⟩
  | calendar _ resolved stored needed => exact ⟨_,resolved⟩
  | computed _ resolved stored plain reading => exact ⟨_,resolved⟩

-- A clause under review makes the answer escalate, whichever service gives it;
-- only the target calculation does not pass the review on.
theorem review_escalates_iff {service : DomainService}
    (ran : (service.trust entityId auth clock feeRules creditRules registry).on db = .ok trust) :
    (∀ applicability, ClauseUsed db entityId auth clock registry service applicability →
        applicability.needsHumanReview = true → trust = .escalate) ↔
      (service = .sla → SlaInTerm db entityId auth clock registry) := by
  cases service with
  | cancellation =>
      obtain ⟨decision,decided,ended⟩ := on_bind_ok.mp ran
      cases ended
      exact iff_of_true (fun _ used review => cancellation_escalates decided used review) nofun
  | serviceCredit =>
      obtain ⟨decision,decided,ended⟩ := on_bind_ok.mp ran
      cases ended
      exact iff_of_true (fun _ used review => credit_escalates decided used review) nofun
  | sla =>
      obtain ⟨decision,decided,ended⟩ := on_bind_ok.mp ran
      cases ended
      constructor
      · intro escalates _ ticket read named override first
        obtain ⟨applicability,resolved⟩ := sla_resolved decided read named
        by_contra lapsed
        have review := (review_iff_lapsed resolved).mpr ⟨override,first,lapsed⟩
        exact sla_never_escalates decided (escalates _ (.sla read named resolved) review)
      · intro inTerm applicability used review
        cases used with
        | sla read named resolved =>
            obtain ⟨override,first,lapsed⟩ := (review_iff_lapsed resolved).mp review
            exact absurd (inTerm rfl _ read named override first) lapsed

-- The account's agreement ended with 2025; the default target is an hour.
def lapsedRegistry : Registry where
  overrides := [⟨"ACCT-003","SRC-05","1",.slaFirstResponse,"the 2025 agreement"⟩]

def lapsedDb : Db := {untargetedDb with
  sources := ⟨[agreementSource "SRC-05" "ACCT-003" .active 739251 (some 739615)],by decide⟩
  slaTargets := [⟨"SRC-01",some "Basic",none,"P1","1 hour, 24x7",some 60,true,false⟩]}

def admin : AuthContext := ⟨.operationsAdmin,none⟩

omit [Host] in
theorem outage_ran : let _ := asciiHost [] []
    ∀ (db : Db) (clock : SnapshotClock) (registry : Registry) decision,
      db.tickets.row "TKT-104" = some outageTicket → db.accounts.row "ACCT-003" = some basicAccount →
      SlaAssessed db clock.now registry (outageTicket.toTicket clock.tz) basicAccount decision →
      (calculateSla "TKT-104" admin clock registry).on db = .ok decision := by
  intro _ db clock registry decision stored known assessed
  exact sla_ran (getTicket_ok.mpr ⟨_,stored,rfl,rfl⟩) known assessed

omit [Host] in
theorem lapsed_trust : let _ := asciiHost [] []
    (DomainService.sla.trust "TKT-104" admin snapshotClock defaultFeeRules defaultCreditRules
      lapsedRegistry).on lapsedDb = .ok .confident := by
  intro _
  exact on_bind_ok.mpr ⟨_,outage_ran lapsedDb snapshotClock lapsedRegistry _ rfl rfl
    (.computed (outage_p1 _) rfl rfl rfl rfl),rfl⟩

omit [Host] in
theorem lapsed_inactive : ¬ lapsedDb.activeAt "SRC-05" snapshotClock.now.date := by
  rintro ⟨source,found,now⟩
  cases found
  exact absurd now (by decide)

omit [Host] in
theorem lapsed_answered_confidently : let _ := asciiHost [] []
    (DomainService.sla.trust "TKT-104" admin snapshotClock defaultFeeRules defaultCreditRules
        lapsedRegistry).on lapsedDb = .ok .confident ∧
      ¬ ∀ applicability, ClauseUsed lapsedDb "TKT-104" admin snapshotClock lapsedRegistry .sla
        applicability → applicability.needsHumanReview = true → TrustState.confident = .escalate := by
  intro _
  refine ⟨lapsed_trust,fun escalates => ?_⟩
  have read : (getTicket "TKT-104" admin snapshotClock.tz).on lapsedDb =
      .ok (outageTicket.toTicket snapshotClock.tz) := getTicket_ok.mpr ⟨_,rfl,rfl,rfl⟩
  have named : (assignedSeverity (outageTicket.toTicket snapshotClock.tz)).isSome := by
    rw [outage_p1]
    rfl
  obtain ⟨decision,decided,_⟩ := on_bind_ok.mp lapsed_trust
  obtain ⟨applicability,resolved⟩ := sla_resolved decided read named
  have review := (review_iff_lapsed resolved).mpr ⟨_,rfl,lapsed_inactive⟩
  cases escalates applicability (.sla read named resolved) review

omit [Host] in
theorem lapsed_review_iff : let _ := asciiHost [] []
    (∀ applicability, ClauseUsed lapsedDb "TKT-104" admin snapshotClock lapsedRegistry .sla
        applicability → applicability.needsHumanReview = true → TrustState.confident = .escalate) ↔
      (DomainService.sla = .sla → SlaInTerm lapsedDb "TKT-104" admin snapshotClock lapsedRegistry) := by
  intro _
  exact review_escalates_iff lapsed_trust

end Review

-- Two looks at one order or ticket.
section Looks

variable [Host] {db : Db} {registry : Registry} {auth : AuthContext} {one two : SnapshotClock}

-- The account's first agreement on the topic is in force at both looks or at
-- neither.
def SameForce (db : Db) (registry : Registry) (topic : ClauseTopic) (accountId : String)
    (one two : SnapshotClock) : Prop :=
  ∀ override, registry.override topic accountId = some override →
    (db.activeAt override.sourceId one.now.date ↔ db.activeAt override.sourceId two.now.date)

def ApplicabilityResult.clause (applicability : ApplicabilityResult) : String × String :=
  (applicability.winningSourceId,applicability.winningSection)

omit [Host] in
theorem activeAt_source {sourceId : String} {at_ : Date} {agreement : SourceDocument}
    (found : db.sources.row sourceId = some agreement) :
    db.activeAt sourceId at_ ↔ agreement.isActiveAt at_ = true := by
  constructor
  · rintro ⟨other,same,now⟩
    cases Option.some.inj (found.symm.trans same)
    exact now
  · exact fun now => ⟨agreement,found,now⟩

theorem clause_same {topic : ClauseTopic} {accountId : String} {source : String × String}
    (known : registry.defaults topic = some (some source))
    (force : SameForce db registry topic accountId one two) :
    ((resolveApplicability topic accountId one.now.date registry).on db).map
        ApplicabilityResult.clause =
      ((resolveApplicability topic accountId two.now.date registry).on db).map
        ApplicabilityResult.clause := by
  cases first : registry.override topic accountId with
  | none => rw [resolve_uncontested db known first,resolve_uncontested db known first]
  | some override =>
      have alike := force override first
      simp only [resolveApplicability,Registry.default,known,first,on_bind,on_pure,Except.bind,getSource_on]
      cases found : db.sources.row override.sourceId with
      | none => rfl
      | some agreement =>
          rw [activeAt_source found,activeAt_source found] at alike
          dsimp only
          by_cases active : agreement.isActiveAt one.now.date = true
          · rw [if_pos active,if_pos (alike.mp active)]
          · rw [if_neg active,if_neg (fun now => active (alike.mpr now))]
            simp only [on_pure,Except.map,ApplicabilityResult.clause,byDefault]

def ReadAlike (one two : SnapshotClock) (first second : Stamp) : Prop :=
  one.tz = two.tz ∨ (first.offset.isSome ↔ second.offset.isSome)

omit [Host] in
theorem minutesSince_alike {first second : Stamp} (alike : ReadAlike one two first second) :
    (first.read one.tz).minutesSince (second.read one.tz) =
      (first.read two.tz).minutesSince (second.read two.tz) := by
  rcases alike with same | both
  · rw [same]
  · have difference : (first.read one.tz).instant - (second.read one.tz).instant =
        (first.read two.tz).instant - (second.read two.tz).instant := by
      unfold Stamp.read DateTime.instant
      cases early : first.offset with
      | none =>
          have late : second.offset = none := by simpa [early] using both
          rw [late]
          simp only [Option.getD_none]
          omega
      | some offset =>
          obtain ⟨other,late⟩ : ∃ other, second.offset = some other := by
            rw [← Option.isSome_iff_exists,← both,early]
            rfl
          rw [late]
          rfl
    unfold DateTime.minutesSince
    rw [difference]

def feeTerms (decision : DecisionResult CancellationOutcome) :
    Option (CancellationDecision × Option Rat × String) :=
  decision.result.map fun outcome => (outcome.decision,outcome.feeInr,outcome.applicableRule)

-- The terms of a charged cancellation follow from the clause and the minutes.
def chargedTerms (feeRules : FeeRules) (minutes : Rat) (clause : String × String) :
    Except PyError (Option (CancellationDecision × Option Rat × String)) :=
  (ruleOf feeRules clause.1).bind fun rule =>
    (applyFeeRule rule minutes).map fun charge => some (.canCancel,some charge.1,clauseName clause)

variable {orderId : String} {feeRules : FeeRules} {row : OrderRow}

theorem charged_terms {clock : SnapshotClock} {source : String × String} {requested : Stamp}
    (stored : db.orders.row orderId = some row) (allowed : auth.allowsAccount row.accountId = true)
    (known : registry.defaults .cancellationFee = some (some source)) (booked : row.status = .booked)
    (asked : row.cancellationRequestedAt = some requested) :
    ((evaluateCancellation orderId auth clock feeRules registry).on db).map feeTerms =
      (((resolveApplicability .cancellationFee row.accountId clock.now.date registry).on db).map
        ApplicabilityResult.clause).bind (chargedTerms feeRules
          ((requested.read clock.tz).minutesSince (row.bookedAt.read clock.tz))) := by
  have read : (getOrder orderId auth clock.tz).on db = .ok (row.toOrder clock.tz) := by
    rw [getOrder_on,stored]
    simp only [allowed,if_true]
  have asserted : (registry.assertDefault .cancellationFee).on db = .ok source :=
    assertDefault_ok.mpr known
  have status : (row.toOrder clock.tz).status = .booked := booked
  have request : (row.toOrder clock.tz).cancellationRequestedAt = some (requested.read clock.tz) := by
    simp only [OrderRow.toOrder,asked,Option.map_some]
  simp only [evaluateCancellation,on_bind,read,asserted,Except.bind,status,request,
    show (row.toOrder clock.tz).accountId = row.accountId from rfl,
    show (row.toOrder clock.tz).bookedAt = row.bookedAt.read clock.tz from rfl]
  cases (resolveApplicability .cancellationFee row.accountId clock.now.date registry).on db with
  | error error => rfl
  | ok applicability =>
      simp only [on_orRaise,Except.map,chargedTerms,ApplicabilityResult.clause]
      cases ruleOf feeRules applicability.winningSourceId with
      | error error => rfl
      | ok rule =>
          simp only [Except.bind]
          cases applyFeeRule rule ((requested.read clock.tz).minutesSince (row.bookedAt.read clock.tz)) with
          | error error => rfl
          | ok charge =>
              simp only [citeDocument_ref,on_pure]
              rfl

-- The decision, the fee and the rule are the same at two looks between which the
-- account's agreement neither starts nor ends; the clause in force on the day of
-- the look decides.
theorem fee_stable {requested : Stamp} (stored : db.orders.row orderId = some row)
    (booked : row.status = .booked) (asked : row.cancellationRequestedAt = some requested)
    (force : SameForce db registry .cancellationFee row.accountId one two)
    (alike : ReadAlike one two requested row.bookedAt) :
    ((evaluateCancellation orderId auth one feeRules registry).on db).map feeTerms =
        ((evaluateCancellation orderId auth two feeRules registry).on db).map feeTerms ∧
      ∀ decision outcome, (evaluateCancellation orderId auth one feeRules registry).on db = .ok decision →
        decision.result = some outcome → ∃ applicability,
          (resolveApplicability .cancellationFee row.accountId one.now.date registry).on db =
            .ok applicability ∧ outcome.applicableRule = clauseName applicability.clause := by
  constructor
  · by_cases allowed : auth.allowsAccount row.accountId = true
    · rcases known : registry.defaults .cancellationFee with _ | _ | source
      · have unknown : (registry.assertDefault .cancellationFee).on db =
            .error (.keyError "<ClauseTopic.CANCELLATION_FEE: 'cancellation_fee'>") := by
          simp [Registry.assertDefault,Registry.default,known,ClauseTopic.name,ClauseTopic.value]
        simp only [evaluateCancellation,on_bind,getOrder_on,stored,allowed,if_true,Except.bind,unknown]
      · have missing : (registry.assertDefault .cancellationFee).on db = .error .assertionError := by
          simp [Registry.assertDefault,Registry.default,known]
        simp only [evaluateCancellation,on_bind,getOrder_on,stored,allowed,if_true,Except.bind,missing]
      · rw [charged_terms stored allowed known booked asked,charged_terms stored allowed known booked asked,
          clause_same known force,minutesSince_alike alike]
    · simp only [evaluateCancellation,on_bind,getOrder_on,stored,allowed,Bool.false_eq_true,if_false,
        Except.bind]
  · intro decision outcome ran result
    obtain ⟨order,read,_⟩ := on_bind_ok.mp ran
    have same : row.toOrder one.tz = order := by
      rw [getOrder_on,stored] at read
      dsimp only at read
      split at read
      · exact Except.ok.inj read
      · cases read
    subst same
    cases cancellation_cases read ran with
    | settled known decides reason evidence =>
        simp only [settledDecision,OrderRow.toOrder,booked,asked] at decides
        simp at decides
    | charged known _ _ resolved ruled applied =>
        cases result
        exact ⟨_,resolved,rfl⟩

-- 2026-08-16T08:00 and T10:20, without an offset; the latter also with one
def earlyBooking : Stamp := ⟨739843 * microsPerDay + 28800000000,none,by decide⟩

def lateRequest : Stamp := ⟨739843 * microsPerDay + 37200000000,none,by decide⟩

def indiaBooking : Stamp := ⟨739843 * microsPerDay + 36000000000,some 19800000000,by decide⟩

-- The same day, 11:00+05:00.
def otherZone : SnapshotClock := ⟨{snapshotClock.now with offset := 18000000000}⟩

def cancelledOrder (bookedAt requestedAt : Stamp) : OrderRow where
  orderId := "ORD-1001"
  accountId := "ACCT-001"
  carrier := "SwiftShip"
  status := .booked
  bookedAt := bookedAt
  pickupWindowStart := .epoch
  pickupWindowEnd := .epoch
  pickupActualAt := none
  shipmentFeeInr := 1800
  carrierFault := false
  customerFault := false
  cancellationRequestedAt := some requestedAt
  notes := ""

-- The waiver ends with the day of the request.
def waiverDb : Db := {Db.empty with
  sources := ⟨[agreementSource "SRC-05" "ACCT-001" .active 739616 (some 739843)],by decide⟩
  orders := ⟨[cancelledOrder earlyBooking lateRequest],by simp⟩}

-- Only the booking is stored with its offset.
def mixedDb : Db := {waiverDb with
  orders := ⟨[cancelledOrder indiaBooking lateRequest],by simp⟩}

def feeToldAt (db : Db) (clock : SnapshotClock) (registry : Registry) :
    Except PyError (Option (CancellationDecision × Option Rat × String)) :=
  ((evaluateCancellation "ORD-1001" admin clock defaultFeeRules registry).on db).map feeTerms

omit [Host] in
theorem fee_changes : let _ := asciiHost [] []
    (feeToldAt waiverDb snapshotClock {} = .ok (some (.canCancel,some 0,"SRC-05#2")) ∧
      feeToldAt waiverDb nextDay {} = .ok (some (.canCancel,some 250,"SRC-03#1"))) ∧
    feeToldAt mixedDb snapshotClock {overrides := []} = .ok (some (.canCancel,some 0,"SRC-03#1")) ∧
      feeToldAt mixedDb otherZone {overrides := []} = .ok (some (.canCancel,some 250,"SRC-03#1")) := by
  intro _
  refine ⟨⟨?_,?_⟩,?_,?_⟩
  · decide +kernel
  · decide +kernel
  · decide +kernel
  · decide +kernel

omit [Host] in
theorem fee_stable_same_day : let _ := asciiHost [] []
    feeToldAt waiverDb snapshotClock {} = feeToldAt waiverDb otherZone {} := by
  intro _
  have stored : waiverDb.orders.row "ORD-1001" = some (cancelledOrder earlyBooking lateRequest) := rfl
  have booked : (cancelledOrder earlyBooking lateRequest).status = .booked := rfl
  have asked : (cancelledOrder earlyBooking lateRequest).cancellationRequestedAt =
      some lateRequest := rfl
  have force : SameForce waiverDb {} .cancellationFee "ACCT-001" snapshotClock otherZone :=
    fun _ _ => Iff.rfl
  have alike : ReadAlike snapshotClock otherZone lateRequest earlyBooking := .inr Iff.rfl
  have stable := @fee_stable _ waiverDb {} admin snapshotClock otherZone "ORD-1001" defaultFeeRules _ _
    stored booked asked force alike
  exact stable.1

variable {ticketId : String} {ticketRow : TicketRow}

-- The deadline a ticket has by the target that governs at a look, if it has one.
inductive ClockDeadline (db : Db) (clock : SnapshotClock) (registry : Registry) (ticket : Ticket) :
    DateTime → Prop where
  | due (known : db.accounts.row ticket.accountId = some account)
      (named : assignedSeverity ticket = some severity)
      (resolved : (resolveApplicability .slaFirstResponse ticket.accountId clock.now.date registry).on db =
        .ok applicability)
      (stored : Db.slaTargetRow db.slaTargets applicability.winningSourceId severity.value
        account.plan ticket.accountId = some target)
      (plain : target.requiresBusinessCalendar = false)
      (reading : slaDeadline ticket target = .ok (minutes,deadline)) :
      ClockDeadline db clock registry ticket deadline

def BreachedBy (db : Db) (ticketId : String) (auth : AuthContext) (clock : SnapshotClock)
    (registry : Registry) (elapsed : Rat) : Prop :=
  ∃ decision outcome, (calculateSla ticketId auth clock registry).on db = .ok decision ∧
    decision.result = some outcome ∧ decision.trustState = .confident ∧
    outcome.breached = some true ∧ outcome.elapsedMinutesPastDeadline = some elapsed

theorem breachedBy_iff {clock : SnapshotClock} {ticket : Ticket} {elapsed : Rat}
    (read : (getTicket ticketId auth clock.tz).on db = .ok ticket) :
    BreachedBy db ticketId auth clock registry elapsed ↔
      ∃ deadline, ClockDeadline db clock registry ticket deadline ∧
        elapsed = clock.now.minutesSince deadline ∧ 0 < elapsed := by
  constructor
  · rintro ⟨decision,outcome,ran,result,trusted,breached,past⟩
    obtain ⟨account,known,assessed⟩ := sla_cases read ran
    cases assessed with
    | unclassified unnamed => cases result
    | untargeted named resolved absent => cases result
    | calendar named resolved stored needed => cases trusted
    | computed named resolved stored plain reading =>
        cases result
        simp only [Option.some.injEq,decide_eq_true_eq] at breached past
        subst past
        exact ⟨_,.due known named resolved stored plain reading,rfl,breached⟩
  · rintro ⟨deadline,due,rfl,positive⟩
    cases due with
    | due known named resolved stored plain reading =>
        exact ⟨_,_,sla_ran read known (.computed named resolved stored plain reading),rfl,rfl,
          by simp [positive],rfl⟩

theorem clause_kept {topic : ClauseTopic} {accountId : String} {applicability : ApplicabilityResult}
    (resolved : (resolveApplicability topic accountId one.now.date registry).on db = .ok applicability)
    (force : SameForce db registry topic accountId one two) :
    ∃ other, (resolveApplicability topic accountId two.now.date registry).on db = .ok other ∧
      other.clause = applicability.clause := by
  have settled {source : String × String} (known : registry.defaults topic = some (some source)) :
      ∃ other, (resolveApplicability topic accountId two.now.date registry).on db = .ok other ∧
        other.clause = applicability.clause := by
    have same := clause_same known force
    rw [resolved] at same
    cases reached : (resolveApplicability topic accountId two.now.date registry).on db with
    | error error =>
        rw [reached] at same
        cases same
    | ok other =>
        rw [reached] at same
        exact ⟨other,rfl,(Except.ok.inj same).symm⟩
  cases resolve_cases resolved with
  | uncontested known silent => exact settled known
  | agreed known first active =>
      exact ⟨_,resolve_agreed db known first ((force _ first).mp active),rfl⟩
  | lapsed known first inactive reason => exact settled known

omit [Host] in
theorem minutesSince_le {a b c d : DateTime} :
    a.minutesSince b ≤ c.minutesSince d ↔ a.instant - b.instant ≤ c.instant - d.instant := by
  have positive : (0 : Rat) < microsPerMinute := by
    unfold microsPerMinute
    norm_num
  unfold DateTime.minutesSince
  rw [div_le_div_iff_of_pos_right positive]
  exact Int.cast_le

theorem deadline_kept {deadline : DateTime}
    (due : ClockDeadline db one registry (ticketRow.toTicket one.tz) deadline)
    (force : SameForce db registry .slaFirstResponse ticketRow.accountId one two)
    (alike : one.tz = two.tz ∨ ticketRow.createdAt.offset.isSome) :
    ClockDeadline db two registry (ticketRow.toTicket two.tz) deadline := by
  cases due with
  | @due account severity applicability target minutes _ known named resolved stored plain reading =>
      obtain ⟨other,again,clause⟩ := clause_kept resolved force
      have created : (ticketRow.toTicket two.tz).createdAt = (ticketRow.toTicket one.tz).createdAt := by
        rcases alike with same | zoned
        · rw [same]
        · obtain ⟨offset,given⟩ := Option.isSome_iff_exists.mp zoned
          simp only [TicketRow.toTicket,Stamp.read,given,Option.getD_some]
      have still : slaDeadline (ticketRow.toTicket two.tz) target = .ok (minutes,deadline) := by
        unfold slaDeadline at reading ⊢
        rw [created]
        exact reading
      have source : other.winningSourceId = applicability.winningSourceId := congrArg Prod.fst clause
      rw [← source] at stored
      exact .due known named again stored plain still

-- A breach told once is told later, and by at least as much, exactly when the
-- target governing then leaves a deadline that time has outrun; so it is while
-- the account's agreement neither starts nor ends.
theorem breach_stays {elapsed : Rat} (stored : db.tickets.row ticketId = some ticketRow)
    (later : one.now ≤ two.now) (breached : BreachedBy db ticketId auth one registry elapsed) :
    ∃ deadline, ClockDeadline db one registry (ticketRow.toTicket one.tz) deadline ∧
      ((∃ longer, BreachedBy db ticketId auth two registry longer ∧ elapsed ≤ longer) ↔
        ∃ next, ClockDeadline db two registry (ticketRow.toTicket two.tz) next ∧
          next.instant - deadline.instant ≤ two.now.instant - one.now.instant) ∧
      (SameForce db registry .slaFirstResponse ticketRow.accountId one two →
        one.tz = two.tz ∨ ticketRow.createdAt.offset.isSome →
        ∃ longer, BreachedBy db ticketId auth two registry longer ∧ elapsed ≤ longer) := by
  obtain ⟨decision,outcome,ran,_⟩ := id breached
  obtain ⟨ticket,read,_⟩ := on_bind_ok.mp ran
  obtain ⟨row,found,allowed,_⟩ := getTicket_ok.mp read
  cases Option.some.inj (stored.symm.trans found)
  have readOne : (getTicket ticketId auth one.tz).on db = .ok (ticketRow.toTicket one.tz) :=
    getTicket_ok.mpr ⟨_,stored,allowed,rfl⟩
  have readTwo : (getTicket ticketId auth two.tz).on db = .ok (ticketRow.toTicket two.tz) :=
    getTicket_ok.mpr ⟨_,stored,allowed,rfl⟩
  obtain ⟨deadline,due,past,positive⟩ := (breachedBy_iff readOne).mp breached
  have exact_ : (∃ longer, BreachedBy db ticketId auth two registry longer ∧ elapsed ≤ longer) ↔
      ∃ next, ClockDeadline db two registry (ticketRow.toTicket two.tz) next ∧
        next.instant - deadline.instant ≤ two.now.instant - one.now.instant := by
    constructor
    · rintro ⟨longer,again,more⟩
      obtain ⟨next,dueNext,pastNext,_⟩ := (breachedBy_iff readTwo).mp again
      rw [past,pastNext,minutesSince_le] at more
      exact ⟨next,dueNext,by omega⟩
    · rintro ⟨next,dueNext,outrun⟩
      have more : elapsed ≤ two.now.minutesSince next := by
        rw [past,minutesSince_le]
        omega
      have still : 0 < two.now.minutesSince next := lt_of_lt_of_le positive more
      exact ⟨_,(breachedBy_iff readTwo).mpr ⟨next,dueNext,rfl,still⟩,more⟩
  refine ⟨deadline,due,exact_,fun force alike => exact_.mpr ⟨deadline,deadline_kept due force alike,?_⟩⟩
  have moved : one.now.instant ≤ two.now.instant := later
  omega

-- The agreement's target is by the clock and ends with the day; the default one
-- is in business hours.
def handoverDb : Db := {untargetedDb with
  sources := ⟨[agreementSource "SRC-05" "ACCT-003" .active 739616 (some 739843)],by decide⟩
  slaTargets := [⟨"SRC-05",none,some "ACCT-003","P1","1 hour, 24x7",some 60,true,false⟩,
    ⟨"SRC-01",some "Basic",none,"P1","1 business hour",none,false,true⟩]}

def slaToldAt (clock : SnapshotClock) :
    Except PyError (TrustState × Option (Option Bool × Option Rat)) :=
  ((calculateSla "TKT-104" admin clock lapsedRegistry).on handoverDb).map fun decision =>
    (decision.trustState,decision.result.map fun outcome =>
      (outcome.breached,outcome.elapsedMinutesPastDeadline))

theorem breachedBy_told {clock : SnapshotClock} {elapsed : Rat} :
    BreachedBy handoverDb "TKT-104" admin clock lapsedRegistry elapsed ↔
      slaToldAt clock = .ok (.confident,some (some true,some elapsed)) := by
  unfold BreachedBy slaToldAt
  cases (calculateSla "TKT-104" admin clock lapsedRegistry).on handoverDb with
  | error error => simp [Except.map]
  | ok decision =>
      cases result : decision.result with
      | none => simp [Except.map,result]
      | some outcome => simp [Except.map,result]

omit [Host] in
theorem handover_breached : let _ := asciiHost [] []
    BreachedBy handoverDb "TKT-104" admin snapshotClock lapsedRegistry 60 := by
  intro _
  refine ⟨_,_,outage_ran handoverDb snapshotClock lapsedRegistry _ rfl rfl
    (.computed (outage_p1 _) rfl rfl rfl rfl),rfl,rfl,?_,?_⟩
  · decide +kernel
  · decide +kernel

omit [Host] in
theorem breach_forgotten : let _ := asciiHost [] []
    snapshotClock.now ≤ nextDay.now ∧
      BreachedBy handoverDb "TKT-104" admin snapshotClock lapsedRegistry 60 ∧
      ∀ longer, ¬ BreachedBy handoverDb "TKT-104" admin nextDay lapsedRegistry longer := by
  intro _
  refine ⟨by decide,handover_breached,fun longer breached => ?_⟩
  obtain ⟨decision,told,doubtful⟩ : ∃ decision, (calculateSla "TKT-104" admin nextDay
      lapsedRegistry).on handoverDb = .ok decision ∧ decision.trustState = .conditional :=
    ⟨_,outage_ran handoverDb nextDay lapsedRegistry _ rfl rfl (.calendar (outage_p1 _) rfl rfl rfl),rfl⟩
  rw [breachedBy_told,slaToldAt,told] at breached
  have trusted := (Prod.mk.inj (Except.ok.inj breached)).1
  rw [doubtful] at trusted
  cases trusted

omit [Host] in
theorem breach_stays_handover : let _ := asciiHost [] []
    ∃ deadline, ClockDeadline handoverDb snapshotClock lapsedRegistry
        (outageTicket.toTicket snapshotClock.tz) deadline ∧
      ((∃ longer, BreachedBy handoverDb "TKT-104" admin nextDay lapsedRegistry longer ∧
          60 ≤ longer) ↔
        ∃ next, ClockDeadline handoverDb nextDay lapsedRegistry
            (outageTicket.toTicket nextDay.tz) next ∧
          next.instant - deadline.instant ≤ nextDay.now.instant - snapshotClock.now.instant) := by
  intro _
  have stored : handoverDb.tickets.row "TKT-104" = some outageTicket := rfl
  have later : snapshotClock.now ≤ nextDay.now := by decide
  obtain ⟨deadline,due,stays,_⟩ := breach_stays stored later handover_breached
  exact ⟨deadline,due,stays⟩

end Looks

end ParcelPilot
