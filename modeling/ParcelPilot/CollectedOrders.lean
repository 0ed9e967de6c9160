import ParcelPilot.OrderDecisions

namespace ParcelPilot

-- A shipment that has left: by its status, or by a pickup recorded by now.
def CollectedBy (order : Order) (snapshot : DateTime) : Prop :=
  order.status = .pickedUp ∨ order.status = .delivered ∨
    ∃ time, order.pickupActualAt = some time ∧ time ≤ snapshot

section Cancellation

variable [Host] {db : Db} {orderId : String} {auth : AuthContext} {clock : SnapshotClock}
  {feeRules : FeeRules} {registry : Registry} {order : Order}

def NeverCancellable (db : Db) (orderId : String) (auth : AuthContext) (clock : SnapshotClock)
    (feeRules : FeeRules) (registry : Registry) : Prop :=
  ∀ order, (getOrder orderId auth clock.tz).on db = .ok order → CollectedBy order clock.now →
    ∀ decision outcome, (evaluateCancellation orderId auth clock feeRules registry).on db =
        .ok decision → decision.result = some outcome → outcome.decision ≠ .canCancel

-- The two branches that let an order be cancelled, with all that they look up.
inductive CancellationGranted (db : Db) (snapshot : DateTime) (feeRules : FeeRules)
    (registry : Registry) (order : Order) : Prop where
  | draft (known : registry.defaults .cancellationFee = some (some source))
      (status : order.status = .draft) : CancellationGranted db snapshot feeRules registry order
  | charged (known : registry.defaults .cancellationFee = some (some source))
      (status : order.status = .booked) (requested : order.cancellationRequestedAt = some requestedAt)
      (resolved : (resolveApplicability .cancellationFee order.accountId snapshot.date registry).on db =
        .ok applicability)
      (ruled : ruleOf feeRules applicability.winningSourceId = .ok rule)
      (applied : applyFeeRule rule (requestedAt.minutesSince order.bookedAt) = .ok charge) :
      CancellationGranted db snapshot feeRules registry order

theorem granted_ran (read : (getOrder orderId auth clock.tz).on db = .ok order)
    (granted : CancellationGranted db clock.now feeRules registry order) :
    ∃ decision outcome, (evaluateCancellation orderId auth clock feeRules registry).on db =
      .ok decision ∧ decision.result = some outcome ∧ outcome.decision = .canCancel := by
  cases granted with
  | @draft source known status =>
      have asserted : (registry.assertDefault .cancellationFee).on db = .ok source :=
        assertDefault_ok.mpr known
      simp only [evaluateCancellation,on_bind,read,asserted,Except.bind,status,citeDocument_ref,on_pure]
      exact ⟨_,_,rfl,rfl,rfl⟩
  | @charged source _ _ _ _ known status requested resolved ruled applied =>
      have asserted : (registry.assertDefault .cancellationFee).on db = .ok source :=
        assertDefault_ok.mpr known
      simp only [evaluateCancellation,on_bind,read,asserted,Except.bind,status,requested,resolved,
        on_orRaise,ruled,applied,citeDocument_ref,on_pure]
      exact ⟨_,_,rfl,rfl,rfl⟩

theorem granted_of_decided (read : (getOrder orderId auth clock.tz).on db = .ok order)
    {decision : DecisionResult CancellationOutcome} {outcome : CancellationOutcome}
    (ran : (evaluateCancellation orderId auth clock feeRules registry).on db = .ok decision)
    (result : decision.result = some outcome) (can : outcome.decision = .canCancel) :
    CancellationGranted db clock.now feeRules registry order := by
  cases cancellation_cases read ran with
  | settled known decides reason evidence =>
      cases result
      cases can
      unfold settledDecision at decides
      cases status : order.status with
      | draft => exact .draft known status
      | booked =>
          rw [status] at decides
          dsimp only at decides
          split at decides <;> cases decides
      | pickedUp => simp [status] at decides
      | delivered => simp [status] at decides
  | charged known booked requested resolved ruled applied =>
      exact .charged known booked requested resolved ruled applied

theorem granted_status (granted : CancellationGranted db snapshot feeRules registry order) :
    order.status ≠ .pickedUp ∧ order.status ≠ .delivered := by
  cases granted with
  | draft known status => simp [status]
  | charged known status requested resolved ruled applied => simp [status]

-- The branches go by the status alone: a pickup that is recorded while the order
-- still reads DRAFT or BOOKED does not stop a cancellation.
theorem never_cancellable_iff (db : Db) (orderId : String) (auth : AuthContext)
    (clock : SnapshotClock) (feeRules : FeeRules) (registry : Registry) :
    NeverCancellable db orderId auth clock feeRules registry ↔
      ∀ order, (getOrder orderId auth clock.tz).on db = .ok order →
        (∃ time, order.pickupActualAt = some time ∧ time ≤ clock.now) →
          ¬ CancellationGranted db clock.now feeRules registry order := by
  constructor
  · intro never order read collected granted
    obtain ⟨decision,outcome,ran,result,can⟩ := granted_ran read granted
    exact never order read (.inr (.inr collected)) decision outcome ran result can
  · intro withheld order read collected decision outcome ran result can
    have granted := granted_of_decided read ran result can
    rcases collected with pickedUp | delivered | pickup
    · exact (granted_status granted).1 pickedUp
    · exact (granted_status granted).2 delivered
    · exact withheld order read pickup granted

end Cancellation

-- The pickup is recorded, the status has not caught up with it.
def lateStatusOrder : OrderRow where
  orderId := "ORD-901"
  accountId := "ACCT-003"
  carrier := "SwiftShip"
  status := .booked
  bookedAt := .epoch
  pickupWindowStart := .epoch
  pickupWindowEnd := .epoch
  pickupActualAt := some .epoch
  shipmentFeeInr := 1800
  carrierFault := false
  customerFault := false
  cancellationRequestedAt := some .epoch
  notes := ""

def lateStatusDb : Db := {Db.empty with orders := ⟨[lateStatusOrder],by simp⟩}

theorem late_status_cancellable : let _ := asciiHost [] []
    ¬ NeverCancellable lateStatusDb "ORD-901" ⟨.operationsAdmin,none⟩ ⟨.epoch⟩ defaultFeeRules {} := by
  intro _ never
  have read : (getOrder "ORD-901" ⟨.operationsAdmin,none⟩ (SnapshotClock.tz ⟨.epoch⟩)).on
      lateStatusDb = .ok (lateStatusOrder.toOrder (SnapshotClock.tz ⟨.epoch⟩)) :=
    getOrder_ok.mpr ⟨_,rfl,rfl,rfl⟩
  have pickup : ∃ time, (lateStatusOrder.toOrder (SnapshotClock.tz ⟨.epoch⟩)).pickupActualAt =
      some time ∧ time ≤ SnapshotClock.now ⟨.epoch⟩ := ⟨_,rfl,by decide⟩
  have applied : applyFeeRule {kind := .thresholdFee, thresholdMinutes := some 30, feeInr := some 250}
      (DateTime.minutesSince (Stamp.epoch.read 0) (Stamp.epoch.read 0)) =
        .ok (0,"within 30 minutes of booking, no fee applies") := if_pos (by decide +kernel)
  have granted : CancellationGranted lateStatusDb (SnapshotClock.now ⟨.epoch⟩) defaultFeeRules {}
      (lateStatusOrder.toOrder (SnapshotClock.tz ⟨.epoch⟩)) :=
    .charged rfl rfl rfl (resolve_uncontested lateStatusDb rfl (by decide)) rfl applied
  obtain ⟨decision,outcome,ran,result,can⟩ := granted_ran read granted
  exact never _ read (.inr (.inr pickup)) decision outcome ran result can

end ParcelPilot
