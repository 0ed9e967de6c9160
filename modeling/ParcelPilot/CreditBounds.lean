import ParcelPilot.FaultCells
import ParcelPilot.OverduePickups

namespace ParcelPilot

structure ServiceCreditRule.NonNegative (rule : ServiceCreditRule) : Prop where
  cap : ∀ cap, rule.capInr = some cap → 0 ≤ cap
  percentage : ∀ percentage, rule.percentage = some percentage → 0 ≤ percentage
  fixedAmount : ∀ amount, rule.fixedAmountInr = some amount → 0 ≤ amount

def CreditRules.NonNegative (creditRules : CreditRules) : Prop :=
  ∀ sourceId rule, creditRules sourceId = some rule → rule.NonNegative

def DecisionResult.grants (decision : DecisionResult ServiceCreditOutcome) (amount : PyFloat) : Prop :=
  ∃ outcome, decision.result = some outcome ∧ outcome.eligible = true ∧
    outcome.creditInr = some amount

def OrderRow.rerecord (row : OrderRow) (pickedUp : Stamp) (fee : PyFloat) : OrderRow :=
  {row with pickupActualAt := some pickedUp, shipmentFeeInr := fee}

def Db.rerecord (db : Db) (orderId : String) (pickedUp : Stamp) (fee : PyFloat) : Db :=
  {db with
    orders := db.orders.update (fun row => row.orderId = orderId)
      (fun row => row.rerecord pickedUp fee) (fun _ => rfl)}

section Bounds

variable [Host] {db : Db} {orderId changed : String} {auth : AuthContext} {clock : SnapshotClock}
  {creditRules : CreditRules} {registry : Registry} {order : Order} {row : OrderRow}
  {rule : ServiceCreditRule} {pickedUp laterPickup : Stamp} {fee : PyFloat}
  {decision : DecisionResult ServiceCreditOutcome} {amount : PyFloat}

-- The rule of the source whose clause governs the order.
def governingRule (db : Db) (clock : SnapshotClock) (creditRules : CreditRules)
    (registry : Registry) (order : Order) : Option ServiceCreditRule :=
  (governingSource db registry .serviceCreditThresholdAndAmount order.accountId
    clock.now.date).bind creditRules

theorem resolve_sources {other : Db} {topic : ClauseTopic} {accountId : String} {at_ : Date}
    (same : other.sources = db.sources) :
    (resolveApplicability topic accountId at_ registry).on other =
      (resolveApplicability topic accountId at_ registry).on db := by
  simp only [resolveApplicability,Registry.default,on_bind]
  cases registry.defaults topic with
  | none => rfl
  | some fallback =>
      simp only [on_pure,Except.bind]
      cases registry.override topic accountId with
      | none => cases fallback <;> rfl
      | some override =>
          simp only [on_bind,getSource_on,same]
          cases db.sources.row override.sourceId with
          | none => rfl
          | some agreement =>
              simp only [Except.bind]
              split
              · rfl
              · cases fallback <;> rfl

theorem ruleOf_ok {rules : String → Option ρ} {sourceId : String} {rule : ρ} :
    ruleOf rules sourceId = .ok rule ↔ rules sourceId = some rule := by
  unfold ruleOf
  cases rules sourceId <;> simp

-- What `credit_cases` lists is returned: nothing else can go wrong on the way.
theorem credit_ran (read : (getOrder orderId auth clock.tz).on db = .ok order)
    (assessed : CreditAssessed db clock.now creditRules registry order decision) :
    (evaluateServiceCredit orderId auth clock creditRules registry).on db = .ok decision := by
  unfold evaluateServiceCredit
  cases assessed with
  | denied known fault =>
      have guarded : (!order.carrierFault || order.customerFault) = true := by simpa using fault
      simp only [on_bind,read,assertDefault_ok.mpr known,Except.bind,guarded,if_true,
        citeDocument_ref,on_pure]
  | decided known carrier customer resolved ruled applied =>
      unfold creditDelay at applied ⊢
      simp only [on_bind,read,assertDefault_ok.mpr known,Except.bind,carrier,customer,
        Bool.not_true,Bool.or_self,Bool.false_eq_true,if_false,resolved,on_orRaise,ruled,applied,
        citeDocument_ref,on_pure]

-- What a rule answers, once.
inductive CreditApplied (rule : ServiceCreditRule) (delayHours : Rat) (fee : PyFloat) :
    Bool × Option PyFloat × String → Prop where
  | early (within : delayHours ≤ rule.thresholdHours) (note : String) :
      CreditApplied rule delayHours fee (false,none,note)
  | fixed (late : rule.thresholdHours < delayHours) (kind : rule.kind = .fixedAmount)
      (amount : Rat) (stated : rule.fixedAmountInr = some amount) (note : String) :
      CreditApplied rule delayHours fee (true,some (.finite amount),note)
  | percentage (late : rule.thresholdHours < delayHours) (kind : rule.kind = .percentageWithCap)
      (cap percentage : Rat) (capped : rule.capInr = some cap)
      (stated : rule.percentage = some percentage) (note : String) :
      CreditApplied rule delayHours fee (true,some (min (.finite cap) (percentage * fee)),note)

theorem applied_cases {answer : Bool × Option PyFloat × String} {delayHours : Rat}
    (applied : applyCreditRule rule delayHours fee = .ok answer) :
    CreditApplied rule delayHours fee answer := by
  unfold applyCreditRule at applied
  split at applied
  · rename_i within
    cases applied
    exact .early within _
  · rename_i beyond
    have late : rule.thresholdHours < delayHours := not_le.mp beyond
    split at applied
    · rename_i kind
      cases stated : rule.fixedAmountInr with
      | none => simp [stated] at applied
      | some amount =>
          simp only [stated,Except.ok.injEq] at applied
          subst applied
          exact .fixed late kind amount stated _
    · rename_i kind
      cases capped : rule.capInr with
      | none => simp [capped] at applied
      | some cap =>
          cases stated : rule.percentage with
          | none => simp [capped,stated] at applied
          | some percentage =>
              simp only [capped,stated,Except.ok.injEq] at applied
              subst applied
              exact .percentage late kind cap percentage capped stated _

theorem applied_known {delayHours : Rat} {eligible : Bool} {note : String}
    (applied : applyCreditRule rule delayHours fee = .ok (eligible,some amount,note)) : amount ≠ .nan := by
  cases applied_cases applied with
  | fixed late kind amount stated => exact nofun
  | percentage late kind cap percentage capped stated => exact PyFloat.capped_known cap _

theorem applied_monotone {delayHours longer : Rat} {larger : PyFloat} {note : String}
    (fair : rule.NonNegative) (applied : applyCreditRule rule delayHours fee = .ok (true,some amount,note))
    (later : delayHours ≤ longer) (nonneg : 0 ≤ fee) (dearer : fee ≤ larger) :
    ∃ more again, applyCreditRule rule longer larger = .ok (true,some more,again) ∧ amount ≤ more := by
  cases applied_cases applied with
  | fixed late kind _ stated =>
      have beyond : ¬ longer ≤ rule.thresholdHours := not_le.mpr (lt_of_lt_of_le late later)
      simp only [applyCreditRule,beyond,if_false,kind,stated]
      exact ⟨_,_,rfl,PyFloat.known_le nofun⟩
  | percentage late kind cap percentage capped stated =>
      have beyond : ¬ longer ≤ rule.thresholdHours := not_le.mpr (lt_of_lt_of_le late later)
      simp only [applyCreditRule,beyond,if_false,kind,capped,stated]
      exact ⟨_,_,rfl,PyFloat.capped_monotone (fair.percentage percentage stated) nonneg dearer⟩

omit [Host] in
theorem hoursSince_le {earlier later from_ : DateTime} (ordered : earlier ≤ later) :
    earlier.hoursSince from_ ≤ later.hoursSince from_ := by
  have instants : earlier.instant - from_.instant ≤ later.instant - from_.instant :=
    Int.sub_le_sub_right ordered _
  unfold DateTime.hoursSince DateTime.minutesSince
  have minute : (0 : Rat) ≤ (microsPerMinute : Rat)⁻¹ := by decide +kernel
  have hour : (0 : Rat) ≤ (60 : Rat)⁻¹ := by decide +kernel
  simp only [Rat.div_def]
  exact Rat.mul_le_mul_of_nonneg_right
    (Rat.mul_le_mul_of_nonneg_right (Rat.intCast_le_intCast.mpr instants) minute) hour

theorem getOrder_rerecord (stored : db.orders.row changed = some row)
    (read : (getOrder orderId auth clock.tz).on db = .ok order) :
    (getOrder orderId auth clock.tz).on (db.rerecord changed pickedUp fee) = .ok (
      if orderId = changed then (row.rerecord pickedUp fee).toOrder clock.tz else order) := by
  obtain ⟨found,present,allowed,rfl⟩ := getOrder_ok.mp read
  have key := Table.row_key present
  have after : (db.rerecord changed pickedUp fee).orders.row orderId =
      some (if found.orderId = changed then found.rerecord pickedUp fee else found) := by
    have updated := Table.update_row db.orders (fun row => row.orderId = changed)
      (fun row => row.rerecord pickedUp fee) (fun _ => rfl) orderId
    rw [present,Option.map_some] at updated
    exact updated.trans (by simp)
  refine getOrder_ok.mpr ⟨_,after,?_,?_⟩
  · split <;> exact allowed
  · rw [key]
    by_cases same : orderId = changed
    · subst same
      cases Option.some.inj (stored.symm.trans present)
      simp
    · simp [same]

theorem credit_monotone (fair : creditRules.NonNegative) (stored : db.orders.row changed = some row)
    (recorded : row.pickupActualAt = some pickedUp)
    (later : pickedUp.read clock.tz ≤ laterPickup.read clock.tz) (nonneg : 0 ≤ row.shipmentFeeInr)
    (dearer : row.shipmentFeeInr ≤ fee)
    (ran : (evaluateServiceCredit orderId auth clock creditRules registry).on db = .ok decision)
    (granted : decision.grants amount) :
    ∃ next more, (evaluateServiceCredit orderId auth clock creditRules registry).on
        (db.rerecord changed laterPickup fee) = .ok next ∧ next.grants more ∧ amount ≤ more := by
  obtain ⟨order,read,_⟩ := on_bind_ok.mp ran
  obtain ⟨outcome,stated,eligible,paid⟩ := granted
  cases credit_cases read ran with
  | denied known fault =>
      cases stated
      cases paid
  | @decided source applicability rule wasEligible credit note known carrier customer resolved ruled applied =>
      cases stated
      cases (eligible : wasEligible = true)
      cases (paid : credit = some amount)
      have again := @getOrder_rerecord _ db orderId changed auth clock order row laterPickup fee
        stored read
      have unmoved := @resolve_sources _ db registry (db.rerecord changed laterPickup fee)
        .serviceCreditThresholdAndAmount order.accountId clock.now.date rfl
      rw [← unmoved] at resolved
      have ruleFair := fair _ _ (ruleOf_ok.mp ruled)
      by_cases same : orderId = changed
      · subst same
        obtain ⟨found,present,allowed,rfl⟩ := getOrder_ok.mp read
        cases Option.some.inj (present.symm.trans stored)
        rw [if_pos rfl] at again
        have longer : creditDelay (row.toOrder clock.tz) clock.now ≤
            creditDelay ((row.rerecord laterPickup fee).toOrder clock.tz) clock.now := by
          simp only [creditDelay,OrderRow.toOrder,OrderRow.rerecord,recorded,Option.map_some,
            Option.getD_some]
          exact hoursSince_le later
        obtain ⟨more,note,also,larger⟩ := applied_monotone ruleFair applied longer nonneg dearer
        exact ⟨_,more,credit_ran again (.decided known carrier customer resolved ruled also),
          ⟨_,rfl,rfl,rfl⟩,larger⟩
      · rw [if_neg same] at again
        exact ⟨_,amount,credit_ran again (.decided known carrier customer resolved ruled applied),
          ⟨_,rfl,rfl,rfl⟩,PyFloat.known_le (applied_known applied)⟩

-- What holds of each decision by itself.
structure CreditBounded (db : Db) (clock : SnapshotClock) (creditRules : CreditRules)
    (registry : Registry) (order : Order) (decision : DecisionResult ServiceCreditOutcome) : Prop where
  withinCap : ∀ amount rule, decision.grants amount →
    governingRule db clock creditRules registry order = some rule → rule.kind = .percentageWithCap →
    0 ≤ order.shipmentFeeInr → ∃ cap, rule.capInr = some cap ∧ 0 ≤ amount ∧ amount ≤ cap
  withheld : (order.carrierFault = false ∨ order.customerFault = true ∨ ∃ rule,
      governingRule db clock creditRules registry order = some rule ∧
      creditDelay order clock.now ≤ rule.thresholdHours) →
    ∃ outcome, decision.result = some outcome ∧ outcome.eligible = false ∧ outcome.creditInr = none
  approved : ∀ amount, decision.grants amount → managerApprovalThresholdInr < amount →
    decision.trustState = .escalate ∧ decision.needsHumanReview = true

theorem credit_bounded (fair : creditRules.NonNegative)
    (read : (getOrder orderId auth clock.tz).on db = .ok order)
    (ran : (evaluateServiceCredit orderId auth clock creditRules registry).on db = .ok decision) :
    CreditBounded db clock creditRules registry order decision := by
  cases credit_cases read ran with
  | denied known fault =>
      refine ⟨?_,fun _ => ⟨_,rfl,rfl,rfl⟩,?_⟩ <;> intro amount
      · intro rule granted
        obtain ⟨outcome,stated,_,paid⟩ := granted
        cases stated
        cases paid
      · intro granted
        obtain ⟨outcome,stated,_,paid⟩ := granted
        cases stated
        cases paid
  | @decided source applicability rule eligible credit note known carrier customer resolved ruled applied =>
      have governed : governingRule db clock creditRules registry order = some rule := by
        rw [governingRule,resolve_governing,resolved]
        exact ruleOf_ok.mp ruled
      have paid : ∀ amount, (creditDecision order (creditDelay order clock.now) eligible credit note
          applicability (documentRef db applicability.winningSourceId
            (some applicability.winningSection))).grants amount → credit = some amount := by
        intro amount granted
        obtain ⟨outcome,stated,_,stands⟩ := granted
        cases stated
        exact stands
      have ruleFair := fair _ _ (ruleOf_ok.mp ruled)
      refine ⟨?_,?_,?_⟩
      · intro amount other granted also percentageRule feeKnown
        cases Option.some.inj (governed.symm.trans also)
        cases paid amount granted
        cases applied_cases applied with
        | fixed late kind _ stated => simp [kind] at percentageRule
        | percentage late kind cap percentage capped stated =>
            obtain ⟨amount,paid,least,most⟩ := PyFloat.capped_bounds (ruleFair.cap cap capped)
              (ruleFair.percentage _ stated) feeKnown
            rw [paid]
            exact ⟨cap,capped,PyFloat.finite_le.mpr least,PyFloat.finite_le.mpr most⟩
      · intro barred
        have clear : ¬ rule.thresholdHours < creditDelay order clock.now := by
          rcases barred with one | one | ⟨other,also,within⟩
          · simp [carrier] at one
          · simp [customer] at one
          · cases Option.some.inj (governed.symm.trans also)
            exact not_lt.mpr within
        cases applied_cases applied with
        | early within => exact ⟨_,rfl,rfl,rfl⟩
        | fixed late => exact absurd late clear
        | percentage late => exact absurd late clear
      · intro amount granted above
        cases paid amount granted
        simp [creditDecision,trustFrom,above]

def RecordedBefore (db : Db) (clock : SnapshotClock) (orderId : String) (laterPickup : Stamp)
    (fee : PyFloat) : Prop :=
  ∃ row pickedUp, db.orders.row orderId = some row ∧ row.pickupActualAt = some pickedUp ∧
    pickedUp.read clock.tz ≤ laterPickup.read clock.tz ∧ 0 ≤ row.shipmentFeeInr ∧
    row.shipmentFeeInr ≤ fee

theorem credits_monotone_bounded (auth : AuthContext) (clock : SnapshotClock) (registry : Registry)
    (fair : creditRules.NonNegative) :
    (∀ db orderId changed laterPickup fee decision amount,
      RecordedBefore db clock changed laterPickup fee →
      (evaluateServiceCredit orderId auth clock creditRules registry).on db = .ok decision →
      decision.grants amount →
      ∃ next more, (evaluateServiceCredit orderId auth clock creditRules registry).on
          (db.rerecord changed laterPickup fee) = .ok next ∧ next.grants more ∧ amount ≤ more) ∧
    (∀ db orderId order decision, (getOrder orderId auth clock.tz).on db = .ok order →
      (evaluateServiceCredit orderId auth clock creditRules registry).on db = .ok decision →
      CreditBounded db clock creditRules registry order decision) := by
  refine ⟨?_,?_⟩
  · intro db orderId changed laterPickup fee decision amount before ran granted
    obtain ⟨row,pickedUp,stored,recorded,later,nonneg,dearer⟩ := before
    exact credit_monotone fair stored recorded later nonneg dearer ran granted
  · intro db orderId order decision read ran
    exact credit_bounded fair read ran

-- 1970-01-01, some hours after the window
def epochPlus (hours : Int) (inside : 0 ≤ hours ∧ hours < 24) : Stamp :=
  ⟨719162 * microsPerDay + hours * 60 * microsPerMinute,none,by
    unfold microsPerDay microsPerMinute maxOrdinal; omega⟩

def lateOrder : OrderRow :=
  {withdrawnOrder with carrierFault := true, pickupActualAt := some (epochPlus 3 (by omega))}

def lateOrders : Db := {Db.empty with orders := ⟨[lateOrder],List.nodup_singleton _⟩}

omit [Host] in
theorem defaultCreditRules_nonNegative : CreditRules.NonNegative defaultCreditRules := by
  intro sourceId rule stated
  unfold defaultCreditRules at stated
  split at stated
  · cases stated
    refine ⟨?_,?_,?_⟩
    · intro cap same
      cases same
      decide
    · intro percentage same
      cases same
      decide +kernel
    · intro amount same
      cases same
  · cases stated
    refine ⟨?_,?_,?_⟩
    · intro cap same
      cases same
    · intro percentage same
      cases same
    · intro amount same
      cases same
      decide
  · cases stated

-- A tenth of 1800, and of 20000 capped, under the default clause.
omit [Host] in
theorem late_order_credit : let _ := asciiHost [] []
    ∃ next more, (evaluateServiceCredit "ORD-900" anyAccount dayAfter defaultCreditRules unamended).on
        (lateOrders.rerecord "ORD-900" (epochPlus 5 (by omega)) 20000) = .ok next ∧
      next.grants more ∧ 180 ≤ more := by
  intro _
  have read : (getOrder "ORD-900" anyAccount dayAfter.tz).on lateOrders =
      .ok (lateOrder.toOrder dayAfter.tz) := getOrder_ok.mpr ⟨_,rfl,rfl,rfl⟩
  have waited : creditDelay (lateOrder.toOrder dayAfter.tz) dayAfter.now = 3 := by decide +kernel
  have tenth : min (.finite 500) ((1 / 10 : Rat) * lateOrder.shipmentFeeInr) = 180 := by decide +kernel
  have beyond : ¬ (3 : Rat) ≤ 2 := by decide
  obtain ⟨rule,governs,note,applied⟩ : ∃ rule, defaultCreditRules "SRC-03" = some rule ∧ ∃ note,
      applyCreditRule rule (creditDelay (lateOrder.toOrder dayAfter.tz) dayAfter.now)
        lateOrder.shipmentFeeInr = .ok (true,some 180,note) := by
    refine ⟨_,rfl,?_⟩
    rw [waited]
    simp only [applyCreditRule,beyond,if_false,tenth]
    exact ⟨_,rfl⟩
  have paid : ∃ decision, (evaluateServiceCredit "ORD-900" anyAccount dayAfter defaultCreditRules
      unamended).on lateOrders = .ok decision ∧ decision.grants 180 :=
    ⟨_,credit_ran read (.decided rfl rfl rfl (resolve_uncontested _ rfl rfl) (ruleOf_ok.mpr governs)
      applied),_,rfl,rfl,rfl⟩
  obtain ⟨decision,ran,granted⟩ := paid
  exact (credits_monotone_bounded anyAccount dayAfter unamended defaultCreditRules_nonNegative).1
    lateOrders "ORD-900" "ORD-900" (epochPlus 5 (by omega)) 20000 decision 180
    ⟨_,_,rfl,rfl,by decide,by decide,by decide⟩ ran granted

end Bounds

end ParcelPilot
