import ParcelPilot.Detection

namespace ParcelPilot

-- What a caller confined to `scope` may see of a database, twice the same:
-- every source, chunk and target, and the rows of the accounts in scope.
structure SameView (scope : List String) (one two : Db) : Prop where
  sources : ∀ row, row ∈ one.sources.rows ↔ row ∈ two.sources.rows
  documentChunks : one.documentChunks = two.documentChunks
  slaTargets : one.slaTargets = two.slaTargets
  accounts : ∀ row, row.accountId ∈ scope → (row ∈ one.accounts.rows ↔ row ∈ two.accounts.rows)
  orders : ∀ row, row.accountId ∈ scope → (row ∈ one.orders.rows ↔ row ∈ two.orders.rows)
  tickets : ∀ row, row.accountId ∈ scope → (row ∈ one.tickets.rows ↔ row ∈ two.tickets.rows)

theorem SameView.narrow {one two : Db} (view : SameView scope one two)
    (within : ∀ account ∈ narrower, account ∈ scope) : SameView narrower one two where
  sources := view.sources
  documentChunks := view.documentChunks
  slaTargets := view.slaTargets
  accounts row inside := view.accounts row (within _ inside)
  orders row inside := view.orders row (within _ inside)
  tickets row inside := view.tickets row (within _ inside)

theorem allows_iff {auth : AuthContext} (confined : auth.accountScope = some scope)
    (accountId : String) : auth.allowsAccount accountId = true ↔ accountId ∈ scope := by
  simp [AuthContext.allowsAccount,confined]

section Views

open Fallible

variable [Host] {one two : Db} {scope : List String} {auth : AuthContext} {clock : SnapshotClock}
  {registry : Registry}

def VisibleOrder (db : Db) (scope : List String) (orderId : String) : Prop :=
  ∃ row ∈ db.orders.rows, row.orderId = orderId ∧ row.accountId ∈ scope

def VisibleTicket (db : Db) (scope : List String) (ticketId : String) : Prop :=
  ∃ row ∈ db.tickets.rows, row.ticketId = ticketId ∧ row.accountId ∈ scope

theorem alike_getAccount (view : SameView scope one two) (confined : auth.accountScope = some scope)
    (accountId : String) : Alike one.answer two.answer (getAccount accountId auth) := by
  change (getAccount accountId auth).on one = (getAccount accountId auth).on two
  rw [getAccount_on,getAccount_on]
  by_cases allowed : auth.allowsAccount accountId = true
  · have inside := (allows_iff confined accountId).mp allowed
    have same : one.accounts.row accountId = two.accounts.row accountId :=
      Table.row_congr fun row named => view.accounts row (by rwa [named])
    rw [if_pos allowed,if_pos allowed,same]
  · rw [if_neg allowed,if_neg allowed]

theorem alike_getSource (view : SameView scope one two) (sourceId : String) :
    Alike one.answer two.answer (getSource sourceId) := by
  change (getSource sourceId).on one = (getSource sourceId).on two
  rw [getSource_on,getSource_on,Table.row_congr fun row _ => view.sources row]

theorem alike_getOrder (view : SameView scope one two) {orderId : String} (seen : VisibleOrder one scope orderId) (tz : Int) :
    Alike one.answer two.answer (getOrder orderId auth tz) := by
  obtain ⟨row,here,rfl,inside⟩ := seen
  have there := (view.orders row inside).mp here
  change (getOrder row.orderId auth tz).on one = (getOrder row.orderId auth tz).on two
  rw [getOrder_on,getOrder_on,Table.row_eq_some.mpr ⟨here,rfl⟩,Table.row_eq_some.mpr ⟨there,rfl⟩]

theorem alike_getTicket (view : SameView scope one two) {ticketId : String} (seen : VisibleTicket one scope ticketId) (tz : Int) :
    Alike one.answer two.answer (getTicket ticketId auth tz) := by
  obtain ⟨row,here,rfl,inside⟩ := seen
  have there := (view.tickets row inside).mp here
  change (getTicket row.ticketId auth tz).on one = (getTicket row.ticketId auth tz).on two
  rw [getTicket_on,getTicket_on,Table.row_eq_some.mpr ⟨here,rfl⟩,Table.row_eq_some.mpr ⟨there,rfl⟩]

theorem alike_citeDocument (view : SameView scope one two) (sourceId : String)
    (section_ note : Option String) :
    Alike one.answer two.answer (citeDocument sourceId section_ note) := by
  refine alike_bind (alike_ask ?_) fun _ _ => alike_pure _
  simp only [Db.answer,view.documentChunks]
  rfl

theorem alike_lookupSlaTarget (view : SameView scope one two) (sourceId : String) (account : Account)
    (severity : Severity) :
    Alike one.answer two.answer (lookupSlaTarget sourceId account severity) := by
  refine alike_ask ?_
  simp only [Db.answer,view.slaTargets]
  rfl

-- Listings are filtered by scope before they are counted.
theorem alike_checkAccount (accountId : Option String) :
    Alike one.answer two.answer (checkAccount auth accountId) := by
  cases accountId with
  | none => exact alike_pure _
  | some accountId =>
      unfold checkAccount checkScope
      dsimp only
      split
      · exact alike_pure _
      · exact alike_throw _

theorem alike_searchOrders (view : SameView scope one two) (confined : auth.accountScope = some scope)
    (tz : Int) (accountId : Option String) (status : Option OrderStatus) (carrier : Option String) :
    Alike one.answer two.answer (searchOrders auth tz accountId status carrier) := by
  refine alike_bind (alike_checkAccount accountId) fun _ _ => ?_
  refine alike_bind (alike_ask ?_) fun _ _ => alike_pure _
  refine Table.listing_congr fun row chosen => view.orders row ?_
  simp only [Db.orderChosen,confined,Db.admitsAny,Bool.and_eq_true,decide_eq_true_eq] at chosen
  exact chosen.1.1.1

theorem alike_searchTickets (view : SameView scope one two)
    (confined : auth.accountScope = some scope) (tz : Int) (accountId : Option String)
    (status : Option TicketStatus) :
    Alike one.answer two.answer (searchTickets auth tz accountId status) := by
  refine alike_bind (alike_checkAccount accountId) fun _ _ => ?_
  refine alike_bind (alike_ask ?_) fun _ _ => alike_pure _
  refine Table.listing_congr fun row chosen => view.tickets row ?_
  simp only [Db.ticketChosen,confined,Db.admitsAny,Bool.and_eq_true,decide_eq_true_eq] at chosen
  exact chosen.1.1

theorem searchTickets_visible {tz : Int} {tickets : List Ticket}
    (confined : auth.accountScope = some scope)
    (listed : (searchTickets auth tz accountId status).on one = .ok tickets) :
    ∀ ticket ∈ tickets, VisibleTicket one scope ticket.ticketId := by
  intro ticket member
  obtain ⟨_,_,listed⟩ := on_bind_ok.mp listed
  obtain ⟨rows,answered,listed⟩ := on_bind_ok.mp listed
  cases Except.ok.inj listed
  cases Except.ok.inj answered
  obtain ⟨row,found,rfl⟩ := List.mem_map.mp member
  obtain ⟨stored,chosen⟩ := Table.mem_listing.mp found
  simp only [Db.ticketChosen,confined,Db.admitsAny,Bool.and_eq_true,decide_eq_true_eq] at chosen
  exact ⟨row,stored,rfl,chosen.1.1⟩

theorem alike_orRaise (result : Except PyError α) : Alike one.answer two.answer (orRaise result) := by
  cases result with
  | ok value => exact alike_pure _
  | error error => exact alike_throw _

theorem alike_classifySeverity (view : SameView scope one two) (ticket : Ticket) :
    Alike one.answer two.answer (classifySeverity ticket) :=
  alike_bind (alike_citeDocument view _ _ _) fun _ _ => alike_pure _

theorem alike_default (topic : ClauseTopic) : Alike one.answer two.answer (registry.default topic) := by
  unfold Registry.default
  split
  · exact alike_throw _
  · exact alike_pure _

theorem alike_resolveApplicability (view : SameView scope one two) (topic : ClauseTopic)
    (accountId : String) (at_ : Date) :
    Alike one.answer two.answer (resolveApplicability topic accountId at_ registry) := by
  refine alike_bind (alike_default topic) fun fallback _ => ?_
  cases registry.override topic accountId with
  | none =>
      cases fallback with
      | none => exact alike_throw _
      | some source => exact alike_pure _
  | some override =>
      refine alike_bind (alike_getSource view _) fun agreement _ => ?_
      split
      · exact alike_pure _
      · cases fallback with
        | none => exact alike_throw _
        | some source => exact alike_pure _

theorem alike_calculateSla (view : SameView scope one two) (confined : auth.accountScope = some scope)
    {ticketId : String} (seen : VisibleTicket one scope ticketId) :
    Alike one.answer two.answer (calculateSla ticketId auth clock registry) := by
  refine alike_bind (alike_getTicket view seen _) fun ticket _ => ?_
  refine alike_bind (alike_getAccount view confined _) fun account _ => ?_
  refine alike_bind (alike_classifySeverity view ticket) fun severityResult _ => ?_
  split
  · exact alike_pure _
  · refine alike_bind (alike_resolveApplicability view _ _ _) fun applicability _ => ?_
    refine alike_bind (alike_lookupSlaTarget view _ _ _) fun target _ => ?_
    cases target with
    | none => exact alike_pure _
    | some target =>
        refine alike_bind (alike_citeDocument view _ _ _) fun clause _ => ?_
        split
        · exact alike_pure _
        · exact alike_bind (alike_orRaise _) fun _ _ => alike_pure _

theorem alike_detectSla (view : SameView scope one two) (confined : auth.accountScope = some scope)
    (alert : Ticket → DecisionResult SlaOutcome → Option AlertCandidate) :
    Alike one.answer two.answer (detectSla alert auth clock registry) := by
  refine alike_bind (alike_searchTickets view confined _ _ _) fun tickets listed => ?_
  refine alike_collect fun ticket member => ?_
  have seen := searchTickets_visible confined listed ticket member
  exact alike_bind (alike_calculateSla view confined seen) fun _ _ => alike_pure _

theorem alike_detectRecurringSeverity (view : SameView scope one two)
    (confined : auth.accountScope = some scope) (threshold windowDays : Int) :
    Alike one.answer two.answer (detectRecurringSeverity auth clock threshold windowDays registry) := by
  refine alike_bind (alike_orRaise _) fun cutoff _ => ?_
  refine alike_bind (alike_searchTickets view confined _ _ _) fun tickets listed => ?_
  refine alike_bind (alike_collect fun ticket member => ?_) fun _ _ => alike_pure _
  have seen := searchTickets_visible confined listed ticket member
  split
  · exact alike_pure _
  · exact alike_bind (alike_calculateSla view confined seen) fun _ _ => alike_pure _

theorem alike_parseKnownIssues (view : SameView scope one two) :
    Alike one.answer two.answer parseKnownIssues := by
  refine alike_bind (alike_ask ?_) fun _ _ => alike_pure _
  simp only [Db.answer,view.documentChunks]
  rfl

theorem alike_detectKnownIssuePatterns (view : SameView scope one two)
    (confined : auth.accountScope = some scope) (minOccurrences windowDays : Int) :
    Alike one.answer two.answer (detectKnownIssuePatterns auth clock minOccurrences windowDays) := by
  refine alike_bind (alike_orRaise _) fun cutoff _ => ?_
  refine alike_bind (alike_parseKnownIssues view) fun parsed _ => ?_
  dsimp only
  split
  · exact alike_pure _
  · refine alike_bind (alike_searchTickets view confined _ _ _) fun tickets _ => ?_
    refine alike_collect fun issue _ => ?_
    split
    · exact alike_pure _
    · exact alike_bind (alike_citeDocument view _ _ _) fun _ _ => alike_pure _

theorem alike_detectCarrierPatterns (view : SameView scope one two)
    (confined : auth.accountScope = some scope) (threshold windowDays : Int) :
    Alike one.answer two.answer (detectCarrierPatterns auth clock threshold windowDays) := by
  refine alike_bind (alike_orRaise _) fun cutoff _ => ?_
  exact alike_bind (alike_searchOrders view confined _ _ _ _) fun _ _ => alike_pure _

theorem alike_detectOverduePickups (view : SameView scope one two)
    (confined : auth.accountScope = some scope) :
    Alike one.answer two.answer (detectOverduePickups auth clock) :=
  alike_bind (alike_searchOrders view confined _ _ _ _) fun _ _ => alike_pure _

theorem alike_runRule (view : SameView scope one two) (confined : auth.accountScope = some scope)
    (windowDays : Int) (alertType : AlertType) :
    Alike one.answer two.answer (runRule auth clock windowDays registry alertType) := by
  cases alertType with
  | slaBreach => exact alike_detectSla view confined _
  | slaApproaching => exact alike_detectSla view confined _
  | recurringIssue => exact alike_detectRecurringSeverity view confined _ windowDays
  | knownIssuePattern => exact alike_detectKnownIssuePatterns view confined _ windowDays
  | carrierPattern => exact alike_detectCarrierPatterns view confined _ windowDays
  | overduePickup => exact alike_detectOverduePickups view confined

theorem alike_runOperationsRadar (view : SameView scope one two)
    (confined : auth.accountScope = some scope) (alertTypes : Option (List AlertType))
    (windowDays : Int) :
    Alike one.answer two.answer (runOperationsRadar auth clock alertTypes windowDays registry) := by
  unfold runOperationsRadar
  split
  · exact alike_throw _
  · refine alike_bind (alike_collect fun alertType _ => ?_) fun _ _ => alike_pure _
    exact alike_bind (alike_runRule view confined windowDays alertType) fun _ _ => alike_pure _

end Views

end ParcelPilot
