import ParcelPilot.ActionFrames
import ParcelPilot.Planning
import ParcelPilot.RadarRoutes

namespace ParcelPilot

theorem Script.answered_uses {Op : Type} {Ans : Op → Type} {allowed : Op → Prop}
    {one two : ∀ op, Ans op} (same : ∀ op, allowed op → one op = two op)
    {script : Script Op Ans α} (uses : script.Uses allowed) :
    script.answered one = script.answered two := by
  induction script with
  | ret value => rfl
  | exec op next ih =>
      rw [answered_exec,answered_exec,same op uses.1]
      exact ih _ (uses.2 _)

namespace Fallible

variable {Op : Type} {Ans : Op → Type} {α β ε : Type} {allowed : Op → Prop}

theorem uses_throw (error : ε) : Uses allowed (throw error : Fallible ε Op Ans α) := trivial

theorem uses_collect {select : α → Fallible ε Op Ans (Option β)} {items : List α}
    (each : ∀ item ∈ items, Uses allowed (select item)) : Uses allowed (collect select items) := by
  induction items with
  | nil => exact uses_pure _
  | cons item rest ih =>
      refine uses_bind (each item List.mem_cons_self) fun found => ?_
      exact uses_bind (ih fun other member => each other (.tail _ member)) fun _ => uses_pure _

theorem outcome_uses {one two : ∀ op, Ans op} (same : ∀ op, allowed op → one op = two op)
    {script : Fallible ε Op Ans α} (uses : Uses allowed script) :
    outcome one script = outcome two script := Script.answered_uses same uses

end Fallible

open Fallible

-- A SELECT that does not look at the actions table.
def Select.Elsewhere : Select → Prop
  | .action _ => False
  | _ => True

abbrev ReadsElsewhere (query : Query α) : Prop := Uses Select.Elsewhere query

section Queries

variable {auth : AuthContext} {clock : SnapshotClock} {registry : Registry} {tz : Int}

theorem elsewhere_orRaise (result : Except PyError α) : ReadsElsewhere (orRaise result) := by
  cases result with
  | ok value => exact uses_pure value
  | error error => exact uses_throw error

theorem elsewhere_checkScope (accountId entityType entityId : String) :
    ReadsElsewhere (checkScope auth accountId entityType entityId) := by
  unfold checkScope
  split
  · exact uses_pure _
  · exact uses_throw _

theorem elsewhere_getAccount (accountId : String) : ReadsElsewhere (getAccount accountId auth) := by
  refine uses_bind (elsewhere_checkScope _ _ _) fun _ => ?_
  refine uses_bind (uses_ask trivial) fun found => ?_
  split
  · exact uses_throw _
  · exact uses_pure _

theorem elsewhere_getOrder (orderId : String) : ReadsElsewhere (getOrder orderId auth tz) := by
  refine uses_bind (uses_ask trivial) fun found => ?_
  split
  · exact uses_throw _
  · exact uses_bind (elsewhere_checkScope _ _ _) fun _ => uses_pure _

theorem elsewhere_getTicket (ticketId : String) : ReadsElsewhere (getTicket ticketId auth tz) := by
  refine uses_bind (uses_ask trivial) fun found => ?_
  split
  · exact uses_throw _
  · exact uses_bind (elsewhere_checkScope _ _ _) fun _ => uses_pure _

theorem elsewhere_checkAccount (accountId : Option String) :
    ReadsElsewhere (checkAccount auth accountId) := by
  cases accountId with
  | none => exact uses_pure _
  | some accountId => exact elsewhere_checkScope _ _ _

theorem elsewhere_searchOrders (accountId : Option String) (status : Option OrderStatus)
    (carrier : Option String) : ReadsElsewhere (searchOrders auth tz accountId status carrier) := by
  refine uses_bind (elsewhere_checkAccount accountId) fun _ => ?_
  exact uses_bind (uses_ask trivial) fun _ => uses_pure _

theorem elsewhere_searchTickets (accountId : Option String) (status : Option TicketStatus) :
    ReadsElsewhere (searchTickets auth tz accountId status) := by
  refine uses_bind (elsewhere_checkAccount accountId) fun _ => ?_
  exact uses_bind (uses_ask trivial) fun _ => uses_pure _

theorem elsewhere_getSource (sourceId : String) : ReadsElsewhere (getSource sourceId) := by
  refine uses_bind (uses_ask trivial) fun found => ?_
  split
  · exact uses_throw _
  · exact uses_pure _

theorem elsewhere_citeDocument (sourceId : String) (section_ note : Option String) :
    ReadsElsewhere (citeDocument sourceId section_ note) :=
  uses_bind (uses_ask trivial) fun _ => uses_pure _

theorem elsewhere_default (topic : ClauseTopic) : ReadsElsewhere (registry.default topic) := by
  unfold Registry.default
  split
  · exact uses_throw _
  · exact uses_pure _

theorem elsewhere_assertDefault (topic : ClauseTopic) :
    ReadsElsewhere (registry.assertDefault topic) := by
  refine uses_bind (elsewhere_default topic) fun found => ?_
  cases found with
  | none => exact uses_throw _
  | some source => exact uses_pure _

theorem elsewhere_resolveApplicability (topic : ClauseTopic) (accountId : String) (at_ : Date) :
    ReadsElsewhere (resolveApplicability topic accountId at_ registry) := by
  refine uses_bind (elsewhere_default topic) fun fallback => ?_
  cases registry.override topic accountId with
  | none =>
      cases fallback with
      | none => exact uses_throw _
      | some source => exact uses_pure _
  | some override =>
      refine uses_bind (elsewhere_getSource _) fun agreement => ?_
      split
      · exact uses_pure _
      · cases fallback with
        | none => exact uses_throw _
        | some source => exact uses_pure _

variable [Host]

theorem elsewhere_classifySeverity (ticket : Ticket) : ReadsElsewhere (classifySeverity ticket) :=
  uses_bind (elsewhere_citeDocument _ _ _) fun _ => uses_pure _

theorem elsewhere_calculateSla (ticketId : String) :
    ReadsElsewhere (calculateSla ticketId auth clock registry) := by
  refine uses_bind (elsewhere_getTicket ticketId) fun ticket => ?_
  refine uses_bind (elsewhere_getAccount _) fun account => ?_
  refine uses_bind (elsewhere_classifySeverity ticket) fun severityResult => ?_
  split
  · exact uses_pure _
  · refine uses_bind (elsewhere_resolveApplicability _ _ _) fun applicability => ?_
    refine uses_bind (uses_ask trivial) fun target => ?_
    split
    · exact uses_pure _
    · refine uses_bind (elsewhere_citeDocument _ _ _) fun clause => ?_
      split
      · exact uses_pure _
      · exact uses_bind (elsewhere_orRaise _) fun _ => uses_pure _

theorem elsewhere_evaluateCancellation (orderId : String) (feeRules : FeeRules) :
    ReadsElsewhere (evaluateCancellation orderId auth clock feeRules registry) := by
  refine uses_bind (elsewhere_getOrder orderId) fun order => ?_
  refine uses_bind (elsewhere_assertDefault _) fun default_ => ?_
  cases order.status with
  | delivered => exact uses_bind (elsewhere_citeDocument _ _ _) fun _ => uses_pure _
  | pickedUp => exact uses_bind (elsewhere_citeDocument _ _ _) fun _ => uses_pure _
  | draft => exact uses_bind (elsewhere_citeDocument _ _ _) fun _ => uses_pure _
  | booked =>
      cases order.cancellationRequestedAt with
      | none => exact uses_pure _
      | some requestedAt =>
          refine uses_bind (elsewhere_resolveApplicability _ _ _) fun applicability => ?_
          refine uses_bind (elsewhere_orRaise _) fun rule => ?_
          refine uses_bind (elsewhere_orRaise _) fun applied => ?_
          exact uses_bind (elsewhere_citeDocument _ _ _) fun _ => uses_pure _

theorem elsewhere_evaluateServiceCredit (orderId : String) (creditRules : CreditRules) :
    ReadsElsewhere (evaluateServiceCredit orderId auth clock creditRules registry) := by
  refine uses_bind (elsewhere_getOrder orderId) fun order => ?_
  refine uses_bind (elsewhere_assertDefault _) fun default_ => ?_
  split
  · exact uses_bind (elsewhere_citeDocument _ _ _) fun _ => uses_pure _
  · refine uses_bind (elsewhere_resolveApplicability _ _ _) fun applicability => ?_
    refine uses_bind (elsewhere_orRaise _) fun rule => ?_
    refine uses_bind (elsewhere_orRaise _) fun applied => ?_
    exact uses_bind (elsewhere_citeDocument _ _ _) fun _ => uses_pure _

theorem elsewhere_detectSla (alert : Ticket → DecisionResult SlaOutcome → Option AlertCandidate) :
    ReadsElsewhere (detectSla alert auth clock registry) := by
  refine uses_bind (elsewhere_searchTickets _ _) fun tickets => ?_
  apply uses_collect
  intro ticket _
  exact uses_bind (elsewhere_calculateSla _) fun _ => uses_pure _

theorem elsewhere_detectRecurringSeverity (threshold windowDays : Int) :
    ReadsElsewhere (detectRecurringSeverity auth clock threshold windowDays registry) := by
  refine uses_bind (elsewhere_orRaise _) fun cutoff => ?_
  refine uses_bind (elsewhere_searchTickets _ _) fun tickets => ?_
  refine uses_bind (uses_collect fun ticket _ => ?_) fun counted => uses_pure _
  split
  · exact uses_pure _
  · exact uses_bind (elsewhere_calculateSla _) fun _ => uses_pure _

theorem elsewhere_detectKnownIssuePatterns (minOccurrences windowDays : Int) :
    ReadsElsewhere (detectKnownIssuePatterns auth clock minOccurrences windowDays) := by
  refine uses_bind (elsewhere_orRaise _) fun cutoff => ?_
  refine uses_bind (uses_bind (uses_ask trivial) fun _ => uses_pure _) fun parsed => ?_
  dsimp only
  split
  · exact uses_pure _
  · refine uses_bind (elsewhere_searchTickets _ _) fun tickets => ?_
    apply uses_collect
    intro issue _
    split
    · exact uses_pure _
    · exact uses_bind (elsewhere_citeDocument _ _ _) fun _ => uses_pure _

theorem elsewhere_detectCarrierPatterns (threshold windowDays : Int) :
    ReadsElsewhere (detectCarrierPatterns auth clock threshold windowDays) := by
  refine uses_bind (elsewhere_orRaise _) fun cutoff => ?_
  exact uses_bind (elsewhere_searchOrders _ _ _) fun _ => uses_pure _

theorem elsewhere_runRule (windowDays : Int) (alertType : AlertType) :
    ReadsElsewhere (runRule auth clock windowDays registry alertType) := by
  cases alertType with
  | slaBreach => exact elsewhere_detectSla _
  | slaApproaching => exact elsewhere_detectSla _
  | recurringIssue => exact elsewhere_detectRecurringSeverity _ _
  | knownIssuePattern => exact elsewhere_detectKnownIssuePatterns _ _
  | carrierPattern => exact elsewhere_detectCarrierPatterns _ _
  | overduePickup => exact uses_bind (elsewhere_searchOrders _ _ _) fun _ => uses_pure _

theorem elsewhere_runOperationsRadar (alertTypes : Option (List AlertType)) (windowDays : Int) :
    ReadsElsewhere (runOperationsRadar auth clock alertTypes windowDays registry) := by
  unfold runOperationsRadar
  split
  · exact uses_throw _
  · refine uses_bind (uses_collect fun alertType _ => ?_) fun found => uses_pure _
    exact uses_bind (elsewhere_runRule _ _) fun _ => uses_pure _

omit [Host] in
theorem elsewhere_orForbidden {detection : Query (List AlertCandidate)}
    (elsewhere : ReadsElsewhere detection) : ReadsElsewhere (orForbidden detection) := by
  refine uses_bind (uses_attempt elsewhere) fun outcome => ?_
  split
  · exact uses_pure _
  · exact uses_throw _
  · exact uses_throw _

theorem elsewhere_runRadar (body : RadarRequest) (user : DemoUser) (latencyMs : Rat) :
    ReadsElsewhere (runRadar body user clock registry latencyMs) :=
  uses_bind (elsewhere_orForbidden (elsewhere_runOperationsRadar _ _)) fun _ => uses_pure _

theorem elsewhere_getAlert (alertId : String) (user : DemoUser) :
    ReadsElsewhere (getAlert alertId user clock registry) := by
  refine uses_bind (elsewhere_orForbidden (elsewhere_runOperationsRadar _ _)) fun alerts => ?_
  split
  · exact uses_pure _
  · exact uses_throw _

theorem elsewhere_searchDocuments (query : String) (filters : DocumentSearchFilter) (topK : Nat) :
    ReadsElsewhere (searchDocuments query filters topK) := by
  have found : ReadsElsewhere (do
      let ftsQuery ← orRaise (normalizeQuery query)
      select (.search ftsQuery filters topK)) :=
    uses_bind (elsewhere_orRaise _) fun _ => uses_ask trivial
  unfold searchDocuments
  dsimp only
  split
  · exact uses_bind (uses_throw _) fun _ => found
  · exact found

omit [Host] in
theorem elsewhere_tryCheckers {checkers : List (EntityKind × Query Unit)}
    (each : ∀ entry ∈ checkers, ReadsElsewhere entry.2) : ReadsElsewhere (tryCheckers checkers) := by
  induction checkers with
  | nil => exact uses_pure _
  | cons entry rest ih =>
      refine uses_bind (uses_attempt (each entry List.mem_cons_self)) fun outcome => ?_
      split
      · exact uses_pure _
      · exact ih fun other member => each other (.tail _ member)
      · exact uses_pure _
      · exact uses_throw _

theorem elsewhere_resolveEntities (question : String) :
    ReadsElsewhere (resolveEntities question auth clock) := by
  refine uses_bind (uses_collect fun mention _ => ?_) fun resolved => ?_
  · refine uses_bind (elsewhere_tryCheckers fun entry member => ?_) fun _ => uses_pure _
    simp only [checkers,List.mem_cons,List.not_mem_nil,or_false] at member
    rcases member with rfl | rfl | rfl
    · exact uses_bind (elsewhere_getOrder _) fun _ => uses_pure _
    · exact uses_bind (elsewhere_getTicket _) fun _ => uses_pure _
    · exact uses_bind (elsewhere_getAccount _) fun _ => uses_pure _
  · dsimp only
    split
    · refine uses_bind (uses_bind (uses_ask trivial) fun _ => uses_pure _) fun found => ?_
      split <;> exact uses_pure _
    · exact uses_pure _

omit [Host] in
theorem elsewhere_entityIdFor (kind : String) (entityId : Option String) :
    ReadsElsewhere (entityIdFor kind entityId) := by
  cases entityId with
  | none => exact uses_throw _
  | some entityId => exact uses_pure _

theorem elsewhere_statusFor (name : String) (members : List σ) (value : σ → String)
    (raw : Option String) : ReadsElsewhere (statusFor name members value raw) := by
  cases raw with
  | none => exact uses_pure _
  | some raw =>
      simp only [statusFor]
      split
      · exact uses_pure _
      · split
        · exact uses_throw _
        · exact uses_pure _

theorem elsewhere_lookUp (request : LookupStructuredDataRequest) :
    ReadsElsewhere (lookUp request auth clock) := by
  unfold lookUp
  split
  · refine uses_bind (elsewhere_entityIdFor _ _) fun accountId => ?_
    exact uses_bind (elsewhere_getAccount _) fun _ => uses_pure _
  · refine uses_bind (elsewhere_entityIdFor _ _) fun orderId => ?_
    exact uses_bind (elsewhere_getOrder _) fun _ => uses_pure _
  · refine uses_bind (elsewhere_entityIdFor _ _) fun ticketId => ?_
    exact uses_bind (elsewhere_getTicket _) fun _ => uses_pure _
  · refine uses_bind (elsewhere_statusFor _ _ _ _) fun status => ?_
    exact uses_bind (elsewhere_searchOrders _ _ _) fun _ => uses_pure _
  · refine uses_bind (elsewhere_statusFor _ _ _ _) fun status => ?_
    exact uses_bind (elsewhere_searchTickets _ _) fun _ => uses_pure _

theorem elsewhere_calculate (request : CalculateSupportOutcomeRequest) :
    ReadsElsewhere (calculate request auth clock) := by
  unfold calculate
  split
  · exact uses_bind (elsewhere_evaluateCancellation _ _) fun _ => uses_pure _
  · exact uses_bind (elsewhere_evaluateServiceCredit _ _) fun _ => uses_pure _
  · exact uses_bind (elsewhere_calculateSla _) fun _ => uses_pure _
  · refine uses_bind (elsewhere_getTicket _) fun ticket => ?_
    exact uses_bind (elsewhere_classifySeverity _) fun _ => uses_pure _

end Queries

section Answers

variable [Host] {db later : Db}

theorem answer_elsewhere (same : OnlyActionsChange db later) {select : Select}
    (elsewhere : select.Elsewhere) : later.answer select = db.answer select := by
  unfold OnlyActionsChange at same
  rw [← same]
  cases select with
  | action actionId => exact elsewhere.elim
  | _ => rfl

theorem on_elsewhere (same : OnlyActionsChange db later) {query : Query α}
    (elsewhere : ReadsElsewhere query) : query.on later = query.on db :=
  outcome_uses (fun _ allowed => answer_elsewhere same allowed) elsewhere

end Answers

end ParcelPilot
