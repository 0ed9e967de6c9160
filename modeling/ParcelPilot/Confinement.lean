import Mathlib.Data.List.Dedup
import ParcelPilot.Visibility
import ParcelPilot.Tools

namespace ParcelPilot

open Fallible

section Confinement

variable [Host] {one two : Db} {scope : List String} {auth : AuthContext} {clock : SnapshotClock}
  {registry : Registry}

theorem alike_assertDefault (topic : ClauseTopic) :
    Alike one.answer two.answer (registry.assertDefault topic) := by
  refine alike_bind (alike_default topic) fun fallback _ => ?_
  cases fallback with
  | none => exact alike_throw _
  | some source => exact alike_pure _

theorem alike_evaluateCancellation (view : SameView scope one two) {feeRules : FeeRules}
    {orderId : String} (seen : VisibleOrder one scope orderId) :
    Alike one.answer two.answer (evaluateCancellation orderId auth clock feeRules registry) := by
  refine alike_bind (alike_getOrder view seen _) fun order _ => ?_
  refine alike_bind (alike_assertDefault _) fun source _ => ?_
  cases order.status with
  | delivered => exact alike_bind (alike_citeDocument view _ _ _) fun _ _ => alike_pure _
  | pickedUp => exact alike_bind (alike_citeDocument view _ _ _) fun _ _ => alike_pure _
  | draft => exact alike_bind (alike_citeDocument view _ _ _) fun _ _ => alike_pure _
  | booked =>
      cases order.cancellationRequestedAt with
      | none => exact alike_pure _
      | some requestedAt =>
          refine alike_bind (alike_resolveApplicability view _ _ _) fun applicability _ => ?_
          refine alike_bind (alike_orRaise _) fun rule _ => ?_
          refine alike_bind (alike_orRaise _) fun priced _ => ?_
          exact alike_bind (alike_citeDocument view _ _ _) fun _ _ => alike_pure _

theorem alike_evaluateServiceCredit (view : SameView scope one two) {creditRules : CreditRules}
    {orderId : String} (seen : VisibleOrder one scope orderId) :
    Alike one.answer two.answer (evaluateServiceCredit orderId auth clock creditRules registry) := by
  refine alike_bind (alike_getOrder view seen _) fun order _ => ?_
  refine alike_bind (alike_assertDefault _) fun source _ => ?_
  split
  · exact alike_bind (alike_citeDocument view _ _ _) fun _ _ => alike_pure _
  · refine alike_bind (alike_resolveApplicability view _ _ _) fun applicability _ => ?_
    refine alike_bind (alike_orRaise _) fun rule _ => ?_
    refine alike_bind (alike_orRaise _) fun granted _ => ?_
    exact alike_bind (alike_citeDocument view _ _ _) fun _ _ => alike_pure _

theorem alike_searchDocuments (view : SameView scope one two) (query : String)
    (filters : DocumentSearchFilter) (topK : Nat) :
    Alike one.answer two.answer (searchDocuments query filters topK) := by
  have searched (ftsQuery : String) :
      Alike one.answer two.answer (select (.search ftsQuery filters topK)) := by
    refine alike_ask ?_
    simp only [Db.answer,view.documentChunks]
    rfl
  unfold searchDocuments
  split
  · exact alike_throw _
  · exact alike_bind (alike_orRaise _) fun ftsQuery _ => searched ftsQuery

theorem unmoved_measured {work : Agent α} (same : Unmoved one two work) :
    Unmoved one two (measured work) := by
  refine unmoved_bind unmoved_perfCounter fun start => ?_
  refine unmoved_bind same fun value => ?_
  exact unmoved_bind unmoved_perfCounter fun finish => unmoved_pure _

theorem unmoved_searchDocumentsTool (view : SameView scope one two)
    (request : SearchDocumentsRequest) :
    Unmoved one two (searchDocumentsTool request auth) :=
  unmoved_bind (unmoved_measured (unmoved_querying (alike_searchDocuments view _ _ _)))
    fun _ => unmoved_pure _

omit [Host] in
theorem scopedAuth_confined (confined : auth.accountScope = some scope)
    (requested : Option (List String)) :
    ∃ narrower, (scopedAuth requested auth).accountScope = some narrower ∧
      ∀ account ∈ narrower, account ∈ scope := by
  cases requested with
  | none => exact ⟨scope,confined,fun _ inside => inside⟩
  | some accounts =>
      refine ⟨_,rfl,fun account kept => ?_⟩
      have listed := List.mem_dedup.mp (List.mem_insertionSort _ |>.mp kept)
      exact (allows_iff confined account).mp (List.mem_filter.mp listed).2

theorem unmoved_detectIssuesTool (view : SameView scope one two)
    (confined : auth.accountScope = some scope) (request : DetectIssuesRequest) :
    Unmoved one two (detectIssuesTool request auth clock) := by
  obtain ⟨narrower,narrowed,within⟩ := scopedAuth_confined confined request.accountScope
  have same : Alike one.answer two.answer (runOperationsRadar (scopedAuth request.accountScope auth)
      clock request.alertTypes request.windowDays {}) :=
    alike_runOperationsRadar (view.narrow within) narrowed _ _
  exact unmoved_bind (unmoved_measured (unmoved_querying same)) fun _ => unmoved_pure _

-- Rows of other accounts change no alert, no error and no reading taken.
theorem radar_confined (view : SameView scope one two) (confined : auth.accountScope = some scope)
    (alertTypes : Option (List AlertType)) (windowDays : Int) (registry : Registry)
    (clock : SnapshotClock) :
    (runOperationsRadar auth clock alertTypes windowDays registry).on one =
        (runOperationsRadar auth clock alertTypes windowDays registry).on two ∧
      ∀ (request : DetectIssuesRequest) (surroundings : Surroundings) (progress : Progress),
        (detectIssuesTool request auth clock).under one surroundings progress =
          (detectIssuesTool request auth clock).under two surroundings progress :=
  ⟨alike_runOperationsRadar view confined alertTypes windowDays,
    fun request => unmoved_detectIssuesTool view confined request⟩

-- Two orders of one carrier that the caller below does not see.
def foreignOrder (orderId : String) : OrderRow where
  orderId := orderId
  accountId := "ACCT-002"
  carrier := "SwiftShip"
  status := .booked
  bookedAt := .epoch
  pickupWindowStart := .epoch
  pickupWindowEnd := .epoch
  pickupActualAt := none
  shipmentFeeInr := 1800
  carrierFault := true
  customerFault := false
  cancellationRequestedAt := none
  notes := ""

def foreignDb : Db := {Db.empty with
  accounts := ⟨[⟨"ACCT-002","LumenWorks","Growth","active","Priya",none,false,""⟩],by decide⟩
  orders := ⟨[foreignOrder "ORD-201",foreignOrder "ORD-202"],by decide⟩}

omit [Host] in
theorem foreign_orders_unseen : let _ := asciiHost [] []
    (runOperationsRadar ⟨.supportAgent,some ["ACCT-001"]⟩ ⟨.epoch⟩ none 30 {}).on foreignDb =
      (runOperationsRadar ⟨.supportAgent,some ["ACCT-001"]⟩ ⟨.epoch⟩ none 30 {}).on Db.empty := by
  intro _
  have view : SameView ["ACCT-001"] foreignDb Db.empty := by
    refine ⟨fun _ => Iff.rfl,rfl,rfl,?_,?_,fun _ _ => Iff.rfl⟩
    · intro row inside
      simp only [foreignDb,Db.empty,Table.empty,List.mem_cons,List.not_mem_nil,or_false,iff_false]
      rintro rfl
      simp at inside
    · intro row inside
      simp only [foreignDb,Db.empty,Table.empty,List.mem_cons,List.not_mem_nil,or_false,iff_false]
      rintro (rfl | rfl) <;> simp [foreignOrder] at inside
  exact (radar_confined view rfl none 30 {} ⟨.epoch⟩).1

end Confinement

end ParcelPilot
