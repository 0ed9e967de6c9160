import ParcelPilot.Resolution

namespace ParcelPilot

def ToolRequest.Granted (db : Db) (auth : AuthContext) : ToolRequest → Prop
  | .searchDocuments _ => True
  | .lookupStructuredData request => ∃ entityId, request.entityId = some entityId ∧
      match request.kind with
      | .getOrder => Accessible db auth .order entityId
      | .getTicket => Accessible db auth .ticket entityId
      | .getAccount => Accessible db auth .account entityId
      | _ => False
  | .calculateSupportOutcome request =>
      match request.calculationType with
      | .cancellation => Accessible db auth .order request.entityId
      | .serviceCredit => Accessible db auth .order request.entityId
      | .sla => Accessible db auth .ticket request.entityId
      | .severity => Accessible db auth .ticket request.entityId
  | .detectIssues _ => False

structure Grounded (db : Db) (auth : AuthContext) (entities : EntityResolution) : Prop where
  orders : ∀ orderId ∈ entities.orderIds, Accessible db auth .order orderId
  tickets : ∀ ticketId ∈ entities.ticketIds, Accessible db auth .ticket ticketId
  accounts : ∀ accountId ∈ entities.accountIds, Accessible db auth .account accountId

theorem resolveEntities_grounded [Host] {db : Db} {auth : AuthContext} {question : String}
    {clock : SnapshotClock} {entities : EntityResolution}
    (resolved : (resolveEntities question auth clock).on db = .ok entities) :
    Grounded db auth entities :=
  ⟨resolved_orders resolved,resolved_tickets resolved,resolved_accounts resolved⟩

section Plans

variable {db : Db} {auth : AuthContext} {entities : EntityResolution}

theorem searchStep_granted (query purpose : String) (sourceTypes : Option (List SourceType)) :
    (searchStep query purpose sourceTypes).args.Granted db auth := trivial

theorem lookupOrders_granted (resolved : Grounded db auth entities) :
    ∀ step ∈ entities.orderIds.map lookupOrder, step.args.Granted db auth := by
  intro step member
  obtain ⟨orderId,found,rfl⟩ := List.mem_map.mp member
  exact ⟨orderId,rfl,resolved.orders orderId found⟩

theorem lookupTickets_granted (resolved : Grounded db auth entities) :
    ∀ step ∈ entities.ticketIds.map lookupTicket, step.args.Granted db auth := by
  intro step member
  obtain ⟨ticketId,found,rfl⟩ := List.mem_map.mp member
  exact ⟨ticketId,rfl,resolved.tickets ticketId found⟩

theorem lookupAccounts_granted (resolved : Grounded db auth entities) :
    ∀ step ∈ entities.accountIds.map lookupAccount, step.args.Granted db auth := by
  intro step member
  obtain ⟨accountId,found,rfl⟩ := List.mem_map.mp member
  exact ⟨accountId,rfl,resolved.accounts accountId found⟩

theorem orderSteps_granted (resolved : Grounded db auth entities) {steps : String → List PlanStep}
    (each : ∀ orderId, Accessible db auth .order orderId →
      ∀ step ∈ steps orderId, step.args.Granted db auth) :
    ∀ step ∈ entities.orderIds.flatMap steps, step.args.Granted db auth := by
  intro step member
  obtain ⟨orderId,found,member⟩ := List.mem_flatMap.mp member
  exact each orderId (resolved.orders orderId found) step member

theorem ticketSteps_granted (resolved : Grounded db auth entities) {steps : String → List PlanStep}
    (each : ∀ ticketId, Accessible db auth .ticket ticketId →
      ∀ step ∈ steps ticketId, step.args.Granted db auth) :
    ∀ step ∈ entities.ticketIds.flatMap steps, step.args.Granted db auth := by
  intro step member
  obtain ⟨ticketId,found,member⟩ := List.mem_flatMap.mp member
  exact each ticketId (resolved.tickets ticketId found) step member

theorem buildPlan_granted (resolved : Grounded db auth entities) (question : String)
    (intent : Intent) :
    ∀ step ∈ (buildPlan question intent entities).steps, step.args.Granted db auth := by
  have both {one two : List PlanStep} (left : ∀ step ∈ one, step.args.Granted db auth)
      (right : ∀ step ∈ two, step.args.Granted db auth) :
      ∀ step ∈ one ++ two, step.args.Granted db auth := by
    intro step member
    rcases List.mem_append.mp member with here | there
    · exact left step here
    · exact right step there
  have search (query purpose : String) (sourceTypes : Option (List SourceType)) :
      ∀ step ∈ [searchStep query purpose sourceTypes], step.args.Granted db auth := by
    intro step member
    cases List.mem_singleton.mp member
    exact searchStep_granted query purpose sourceTypes
  have pairs {one two : PlanStep} (left : one.args.Granted db auth) (right : two.args.Granted db auth) :
      ∀ step ∈ [one,two], step.args.Granted db auth := by
    intro step member
    simp only [List.mem_cons,List.not_mem_nil,or_false] at member
    rcases member with rfl | rfl
    · exact left
    · exact right
  cases intent with
  | cancellation =>
      exact both (orderSteps_granted resolved fun _ found => pairs ⟨_,rfl,found⟩ found) (search _ _ _)
  | serviceCredit =>
      exact both (orderSteps_granted resolved fun _ found => pairs ⟨_,rfl,found⟩ found) (search _ _ _)
  | sla =>
      exact both (ticketSteps_granted resolved fun _ found => pairs ⟨_,rfl,found⟩ found) (search _ _ _)
  | severity =>
      exact both (ticketSteps_granted resolved fun _ found => pairs ⟨_,rfl,found⟩ found) (search _ _ _)
  | knownIssue => exact search _ _ _
  | orderInvestigation => exact both (lookupOrders_granted resolved) (search _ _ _)
  | ticketInvestigation => exact both (lookupTickets_granted resolved) (search _ _ _)
  | accountInvestigation => exact both (lookupAccounts_granted resolved) (search _ _ _)
  | multiSource =>
      refine both (both (both (both (lookupOrders_granted resolved) (lookupTickets_granted resolved))
        (search _ _ _)) (orderSteps_granted resolved fun _ found => pairs found found)) ?_
      intro step member
      obtain ⟨ticketId,found,rfl⟩ := List.mem_map.mp member
      exact resolved.tickets ticketId found
  | informational => exact search _ _ _
  | clarification => simp [buildPlan]
  | unsupported => simp [buildPlan]

end Plans

end ParcelPilot
