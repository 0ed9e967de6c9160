import Mathlib.Algebra.Order.Ring.Unbundled.Rat
import ParcelPilot.Sla

namespace ParcelPilot

-- `default_source = defaults[topic]; assert default_source is not None`
def Registry.assertDefault (registry : Registry) (topic : ClauseTopic) : Query (String × String) := do
  match ← registry.default topic with
  | none => throw .assertionError
  | some source => pure source

-- app/domain/cancellation.py
inductive CancellationDecision where
  | canCancel | cannotCancel | noActionNeeded
deriving DecidableEq,Repr

def CancellationDecision.value : CancellationDecision → String
  | .canCancel => "can_cancel"
  | .cannotCancel => "cannot_cancel"
  | .noActionNeeded => "no_action_needed"

structure CancellationOutcome where
  decision : CancellationDecision
  feeInr : Option Rat
  applicableRule : String
  orderStatus : OrderStatus
  minutesSinceBooking : Option Rat
deriving DecidableEq,Repr

inductive FeeRuleKind where
  | thresholdFee | fullWaiver
deriving DecidableEq,Repr

structure CancellationFeeRule where
  kind : FeeRuleKind
  thresholdMinutes : Option Int := none
  feeInr : Option Rat := none
deriving DecidableEq,Repr

abbrev FeeRules := String → Option CancellationFeeRule

def defaultFeeRules : FeeRules
  | "SRC-03" => some {kind := .thresholdFee, thresholdMinutes := some 30, feeInr := some 250}
  | "SRC-05" => some {kind := .fullWaiver}
  | _ => none

-- `rules[source_id]`
def ruleOf [Host] (rules : String → Option ρ) (sourceId : String) : Except PyError ρ :=
  match rules sourceId with
  | none => .error (.keyError (Host.reprStr sourceId))
  | some rule => .ok rule

def clauseName (source : String × String) : String := source.1 ++ "#" ++ source.2

section Cancellation

variable [Host]

def applyFeeRule (rule : CancellationFeeRule) (minutes : Rat) : Except PyError (Rat × String) :=
  match rule.kind with
  | .fullWaiver =>
      .ok (0,"the agreement waives the cancellation fee regardless of elapsed time")
  | .thresholdFee =>
      match rule.thresholdMinutes,rule.feeInr with
      | some threshold,some fee =>
          if minutes ≤ threshold then
            .ok (0,"within " ++ toString threshold ++ " minutes of booking, no fee applies")
          else
            .ok (fee,"more than " ++ toString threshold ++ " minutes after booking, INR " ++
              Host.general fee ++ " fee applies")
      | _,_ => .error .assertionError

-- An answer that rests on the status alone.
def byStatus (order : Order) (source : String × String) (decision : CancellationDecision)
    (feeInr : Option Rat) (reason : String) (evidence : List EvidenceRef) :
    DecisionResult CancellationOutcome where
  result := some ⟨decision,feeInr,clauseName source,order.status,none⟩
  trustState := .confident
  reason := reason
  evidence := evidence

def cancellationFee (order : Order) (requestedAt : DateTime) (minutes fee : Rat) (note : String)
    (applicability : ApplicabilityResult) (clause : EvidenceRef) :
    DecisionResult CancellationOutcome where
  result := some ⟨.canCancel,some fee,
    clauseName (applicability.winningSourceId,applicability.winningSection),order.status,
    some minutes⟩
  trustState := trustFrom applicability.needsHumanReview false
  reason := note ++ ". " ++ applicability.reason
  evidence := [citeStructured "orders" order.orderId,clause]
  calculationInputs := [("minutes_since_booking",.float minutes),
    ("booked_at",.str order.bookedAt.isoformat),
    ("cancellation_requested_at",.str requestedAt.isoformat)]
  conflicts := conflictsOf applicability order.accountId
  needsHumanReview := applicability.needsHumanReview

def evaluateCancellation (orderId : String) (auth : AuthContext) (clock : SnapshotClock)
    (feeRules : FeeRules) (registry : Registry) : Query (DecisionResult CancellationOutcome) := do
  let snapshot := clock.now
  let order ← getOrder orderId auth clock.tz
  let orderEvidence := citeStructured "orders" order.orderId
  let default_ ← registry.assertDefault .cancellationFee
  match order.status with
  | .delivered =>
      let clause ← citeDocument default_.1 (some default_.2)
      pure (byStatus order default_ .cannotCancel none
        "Order status is DELIVERED; the SOP says delivered orders cannot be cancelled."
        [orderEvidence,clause])
  | .pickedUp =>
      let clause ← citeDocument default_.1 (some default_.2)
      pure (byStatus order default_ .cannotCancel none
        ("Order status is PICKED_UP; the SOP says use the return-to-origin workflow " ++
          "instead of cancellation. This applies even under an agreement's waiver - a " ++
          "cancellation-fee waiver explicitly stops applying once a shipment is PICKED_UP.")
        [orderEvidence,clause])
  | .draft =>
      let clause ← citeDocument default_.1 (some default_.2)
      pure (byStatus order default_ .canCancel (some 0)
        "DRAFT orders may be cancelled with no fee." [orderEvidence,clause])
  | .booked =>
      match order.cancellationRequestedAt with
      | none =>
          pure (byStatus order default_ .noActionNeeded none
            "No cancellation has been requested for this order." [orderEvidence])
      | some requestedAt =>
          let minutes := requestedAt.minutesSince order.bookedAt
          let applicability ←
            resolveApplicability .cancellationFee order.accountId snapshot.date registry
          let rule ← orRaise (ruleOf feeRules applicability.winningSourceId)
          let (fee,note) ← orRaise (applyFeeRule rule minutes)
          let clause ← citeDocument applicability.winningSourceId
            (some applicability.winningSection)
          pure (cancellationFee order requestedAt minutes fee note applicability clause)

variable {db : Db} {orderId : String} {auth : AuthContext} {clock : SnapshotClock}
  {feeRules : FeeRules} {registry : Registry} {order : Order}

-- What the status settles without looking at a clause.
def settledDecision (order : Order) : Option (CancellationDecision × Option Rat) :=
  match order.status with
  | .delivered => some (.cannotCancel,none)
  | .pickedUp => some (.cannotCancel,none)
  | .draft => some (.canCancel,some 0)
  | .booked => if order.cancellationRequestedAt = none then some (.noActionNeeded,none) else none

-- Everything the evaluation returns for an order the caller sees, once.
inductive CancellationAssessed (db : Db) (snapshot : DateTime) (feeRules : FeeRules)
    (registry : Registry) (order : Order) : DecisionResult CancellationOutcome → Prop where
  | settled (known : registry.defaults .cancellationFee = some (some source))
      (decides : settledDecision order = some (decision,feeInr)) (reason : String)
      (evidence : List EvidenceRef) :
      CancellationAssessed db snapshot feeRules registry order
        (byStatus order source decision feeInr reason evidence)
  | charged (known : registry.defaults .cancellationFee = some (some source))
      (booked : order.status = .booked) (requested : order.cancellationRequestedAt = some requestedAt)
      (resolved : (resolveApplicability .cancellationFee order.accountId snapshot.date registry).on db =
        .ok applicability)
      (ruled : ruleOf feeRules applicability.winningSourceId = .ok rule)
      (applied : applyFeeRule rule (requestedAt.minutesSince order.bookedAt) = .ok (fee,note)) :
      CancellationAssessed db snapshot feeRules registry order
        (cancellationFee order requestedAt (requestedAt.minutesSince order.bookedAt) fee note
          applicability (documentRef db applicability.winningSourceId
            (some applicability.winningSection)))

theorem assertDefault_ok {topic : ClauseTopic} {source : String × String} :
    (registry.assertDefault topic).on db = .ok source ↔ registry.defaults topic = some (some source) := by
  simp only [Registry.assertDefault,Registry.default,on_bind]
  rcases registry.defaults topic with _ | _ | present <;> simp [Except.bind]

theorem cancellation_cases (read : (getOrder orderId auth clock.tz).on db = .ok order)
    (ran : (evaluateCancellation orderId auth clock feeRules registry).on db = .ok decision) :
    CancellationAssessed db clock.now feeRules registry order decision := by
  unfold evaluateCancellation at ran
  obtain ⟨same,again,ran⟩ := on_bind_ok.mp ran
  cases Except.ok.inj (again.symm.trans read)
  obtain ⟨source,asserted,ran⟩ := on_bind_ok.mp ran
  have known := assertDefault_ok.mp asserted
  cases status : order.status with
  | delivered =>
      simp only [status] at ran
      obtain ⟨clause,_,ran⟩ := on_bind_ok.mp ran
      cases ran
      exact .settled known (by simp [settledDecision,status]) _ _
  | pickedUp =>
      simp only [status] at ran
      obtain ⟨clause,_,ran⟩ := on_bind_ok.mp ran
      cases ran
      exact .settled known (by simp [settledDecision,status]) _ _
  | draft =>
      simp only [status] at ran
      obtain ⟨clause,_,ran⟩ := on_bind_ok.mp ran
      cases ran
      exact .settled known (by simp [settledDecision,status]) _ _
  | booked =>
      simp only [status] at ran
      cases requested : order.cancellationRequestedAt with
      | none =>
          simp only [requested] at ran
          cases ran
          exact .settled known (by simp [settledDecision,status,requested]) _ _
      | some requestedAt =>
          simp only [requested] at ran
          obtain ⟨applicability,resolved,ran⟩ := on_bind_ok.mp ran
          obtain ⟨rule,ruled,ran⟩ := on_bind_ok.mp ran
          obtain ⟨⟨fee,note⟩,applied,ran⟩ := on_bind_ok.mp ran
          rw [on_orRaise] at ruled applied
          obtain ⟨clause,cited,ran⟩ := on_bind_ok.mp ran
          rw [citeDocument_ref] at cited
          cases cited
          cases ran
          exact .charged known status requested resolved ruled applied

end Cancellation

-- app/domain/service_credit.py
def managerApprovalThresholdInr : Rat := 1000

inductive DelayReference where
  | pickupActualAt | snapshot
deriving DecidableEq,Repr

def DelayReference.value : DelayReference → String
  | .pickupActualAt => "pickup_actual_at"
  | .snapshot => "snapshot"

structure ServiceCreditOutcome where
  eligible : Bool
  creditInr : Option PyFloat
  applicableRule : String
  delayHours : Option Rat
  delayReference : Option DelayReference
  managerApprovalRequired : Bool
deriving DecidableEq,Repr

inductive CreditRuleKind where
  | percentageWithCap | fixedAmount
deriving DecidableEq,Repr

structure ServiceCreditRule where
  thresholdHours : Rat
  kind : CreditRuleKind
  capInr : Option Rat := none
  percentage : Option Rat := none
  fixedAmountInr : Option Rat := none
deriving DecidableEq,Repr

abbrev CreditRules := String → Option ServiceCreditRule

def defaultCreditRules : CreditRules
  | "SRC-03" => some {
      thresholdHours := 2, kind := .percentageWithCap, capInr := some 500
      percentage := some (1 / 10)}
  | "SRC-06" => some {thresholdHours := 4, kind := .fixedAmount, fixedAmountInr := some 300}
  | _ => none

section ServiceCredit

variable [Host]

def applyCreditRule (rule : ServiceCreditRule) (delayHours : Rat) (shipmentFeeInr : PyFloat) :
    Except PyError (Bool × Option PyFloat × String) :=
  if delayHours ≤ rule.thresholdHours then
    .ok (false,none,
      "delay is <= " ++ Host.general rule.thresholdHours ++ " hours; threshold not met")
  else match rule.kind with
    | .fixedAmount =>
        match rule.fixedAmountInr with
        | some amount => .ok (true,some amount,
            "delay > " ++ Host.general rule.thresholdHours ++
              " hours with carrier fault and no customer fault (fixed INR " ++
              Host.general amount ++ ")")
        | none => .error .assertionError
    | .percentageWithCap =>
        match rule.capInr,rule.percentage with
        | some cap,some percentage => .ok (true,some (min (cap : PyFloat) (percentage * shipmentFeeInr)),
            "delay > " ++ Host.general rule.thresholdHours ++
              " hours with carrier fault and no customer fault (default formula: lower of INR " ++
              Host.general cap ++ " or " ++ Host.percent percentage ++ " of fee)")
        | _,_ => .error .assertionError

def creditDenied (order : Order) (source : String × String) (clause : EvidenceRef) :
    DecisionResult ServiceCreditOutcome where
  result := some ⟨false,none,clauseName source,none,none,false⟩
  trustState := .confident
  reason := "Not eligible: " ++
    (if order.carrierFault then "customer_fault is True" else "carrier_fault is False") ++
    ". The SOP requires carrier fault and no customer-caused issue."
  evidence := [citeStructured "orders" order.orderId,clause]
  calculationInputs := [("carrier_fault",.bool order.carrierFault),
    ("customer_fault",.bool order.customerFault)]

def creditAssumptions (order : Order) : List String :=
  match order.pickupActualAt with
  | some _ => []
  | none => ["pickup_actual_at is null; delay is measured from the dataset snapshot and is " ++
      "still accruing (ADR-006) - this is not a final delay figure"]

def creditDecision (order : Order) (delayHours : Rat) (eligible : Bool) (credit : Option PyFloat)
    (note : String) (applicability : ApplicabilityResult) (clause : EvidenceRef) :
    DecisionResult ServiceCreditOutcome :=
  let managerApproval := credit.any ((managerApprovalThresholdInr : PyFloat) < ·)
  let reviewRequired := applicability.needsHumanReview || managerApproval
  let assumptions := creditAssumptions order
  { result := some ⟨eligible,credit,
      clauseName (applicability.winningSourceId,applicability.winningSection),some delayHours,
      some (if order.pickupActualAt.isSome then .pickupActualAt else .snapshot),managerApproval⟩
    trustState := trustFrom reviewRequired (!assumptions.isEmpty)
    reason := note ++ ". " ++ applicability.reason ++
      (if managerApproval then
        " Requires manager approval (individual credits above INR " ++
          Host.general managerApprovalThresholdInr ++ ")." else "")
    evidence := [citeStructured "orders" order.orderId,clause]
    assumptions := assumptions
    calculationInputs := [("delay_hours",.float delayHours),
      ("shipment_fee_inr",.float order.shipmentFeeInr),("carrier_fault",.bool order.carrierFault),
      ("customer_fault",.bool order.customerFault)]
    conflicts := conflictsOf applicability order.accountId
    needsHumanReview := reviewRequired }

def evaluateServiceCredit (orderId : String) (auth : AuthContext) (clock : SnapshotClock)
    (creditRules : CreditRules) (registry : Registry) :
    Query (DecisionResult ServiceCreditOutcome) := do
  let snapshot := clock.now
  let order ← getOrder orderId auth clock.tz
  let default_ ← registry.assertDefault .serviceCreditThresholdAndAmount
  if !order.carrierFault || order.customerFault then
    let clause ← citeDocument default_.1 (some default_.2)
    pure (creditDenied order default_ clause)
  else
    let delayHours := (order.pickupActualAt.getD snapshot).hoursSince order.pickupWindowEnd
    let applicability ← resolveApplicability .serviceCreditThresholdAndAmount order.accountId
      snapshot.date registry
    let rule ← orRaise (ruleOf creditRules applicability.winningSourceId)
    let (eligible,credit,note) ← orRaise (applyCreditRule rule delayHours order.shipmentFeeInr)
    let clause ← citeDocument applicability.winningSourceId (some applicability.winningSection)
    pure (creditDecision order delayHours eligible credit note applicability clause)

variable {db : Db} {orderId : String} {auth : AuthContext} {clock : SnapshotClock}
  {creditRules : CreditRules} {registry : Registry} {order : Order}

def creditDelay (order : Order) (snapshot : DateTime) : Rat :=
  (order.pickupActualAt.getD snapshot).hoursSince order.pickupWindowEnd

-- Everything the evaluation returns for an order the caller sees, once.
inductive CreditAssessed (db : Db) (snapshot : DateTime) (creditRules : CreditRules)
    (registry : Registry) (order : Order) : DecisionResult ServiceCreditOutcome → Prop where
  | denied (known : registry.defaults .serviceCreditThresholdAndAmount = some (some source))
      (fault : order.carrierFault = false ∨ order.customerFault = true) :
      CreditAssessed db snapshot creditRules registry order
        (creditDenied order source (documentRef db source.1 (some source.2)))
  | decided (known : registry.defaults .serviceCreditThresholdAndAmount = some (some source))
      (carrier : order.carrierFault = true) (customer : order.customerFault = false)
      (resolved : (resolveApplicability .serviceCreditThresholdAndAmount order.accountId snapshot.date
        registry).on db = .ok applicability)
      (ruled : ruleOf creditRules applicability.winningSourceId = .ok rule)
      (applied : applyCreditRule rule (creditDelay order snapshot) order.shipmentFeeInr =
        .ok (eligible,credit,note)) :
      CreditAssessed db snapshot creditRules registry order
        (creditDecision order (creditDelay order snapshot) eligible credit note applicability
          (documentRef db applicability.winningSourceId (some applicability.winningSection)))

theorem credit_cases (read : (getOrder orderId auth clock.tz).on db = .ok order)
    (ran : (evaluateServiceCredit orderId auth clock creditRules registry).on db = .ok decision) :
    CreditAssessed db clock.now creditRules registry order decision := by
  unfold evaluateServiceCredit at ran
  obtain ⟨same,again,ran⟩ := on_bind_ok.mp ran
  cases Except.ok.inj (again.symm.trans read)
  obtain ⟨source,asserted,ran⟩ := on_bind_ok.mp ran
  have known := assertDefault_ok.mp asserted
  split at ran
  · rename_i fault
    obtain ⟨clause,cited,ran⟩ := on_bind_ok.mp ran
    rw [citeDocument_ref] at cited
    cases cited
    cases ran
    exact .denied known (by simpa using fault)
  · rename_i clean
    simp only [Bool.or_eq_true,Bool.not_eq_true',not_or,Bool.not_eq_false,Bool.not_eq_true] at clean
    obtain ⟨applicability,resolved,ran⟩ := on_bind_ok.mp ran
    obtain ⟨rule,ruled,ran⟩ := on_bind_ok.mp ran
    obtain ⟨⟨eligible,credit,note⟩,applied,ran⟩ := on_bind_ok.mp ran
    rw [on_orRaise] at ruled applied
    obtain ⟨clause,cited,ran⟩ := on_bind_ok.mp ran
    rw [citeDocument_ref] at cited
    cases cited
    cases ran
    exact .decided known clean.1 clean.2 resolved ruled applied

end ServiceCredit

end ParcelPilot
