import ParcelPilot.AgentRuns
import ParcelPilot.Confinement
import ParcelPilot.Escalation
import ParcelPilot.Grants

namespace ParcelPilot

open Fallible

section Tools

variable [Host] {one two : Db} {scope : List String} {auth : AuthContext} {clock : SnapshotClock}

omit [Host] in
theorem accessible_order (confined : auth.accountScope = some scope) {orderId : String}
    (granted : Accessible one auth .order orderId) : VisibleOrder one scope orderId := by
  obtain ⟨row,found,allowed⟩ := granted
  obtain ⟨stored,named⟩ := Table.row_eq_some.mp found
  exact ⟨row,stored,named,(allows_iff confined _).mp allowed⟩

omit [Host] in
theorem accessible_ticket (confined : auth.accountScope = some scope) {ticketId : String}
    (granted : Accessible one auth .ticket ticketId) : VisibleTicket one scope ticketId := by
  obtain ⟨row,found,allowed⟩ := granted
  obtain ⟨stored,named⟩ := Table.row_eq_some.mp found
  exact ⟨row,stored,named,(allows_iff confined _).mp allowed⟩

theorem alike_lookUp (view : SameView scope one two) (confined : auth.accountScope = some scope)
    (clock : SnapshotClock) {request : LookupStructuredDataRequest}
    (granted : (ToolRequest.lookupStructuredData request).Granted one auth) :
    Alike one.answer two.answer (lookUp request auth clock) := by
  obtain ⟨kind,entity,accountId,status,carrier⟩ := request
  obtain ⟨entityId,rfl,accessible⟩ := granted
  cases kind with
  | getAccount =>
      refine alike_bind (alike_pure _) fun accountId same => ?_
      exact alike_bind (alike_getAccount view confined _) fun _ _ => alike_pure _
  | getOrder =>
      refine alike_bind (alike_pure _) fun orderId same => ?_
      cases Except.ok.inj same
      have seen := accessible_order confined accessible
      exact alike_bind (alike_getOrder view seen _) fun _ _ => alike_pure _
  | getTicket =>
      refine alike_bind (alike_pure _) fun ticketId same => ?_
      cases Except.ok.inj same
      have seen := accessible_ticket confined accessible
      exact alike_bind (alike_getTicket view seen _) fun _ _ => alike_pure _
  | searchOrders => cases accessible
  | searchTickets => cases accessible

theorem alike_calculate (view : SameView scope one two) (confined : auth.accountScope = some scope)
    (clock : SnapshotClock) {request : CalculateSupportOutcomeRequest}
    (granted : (ToolRequest.calculateSupportOutcome request).Granted one auth) :
    Alike one.answer two.answer (calculate request auth clock) := by
  obtain ⟨calculationType,entityId⟩ := request
  cases calculationType with
  | cancellation =>
      have seen := accessible_order confined granted
      exact alike_bind (alike_evaluateCancellation view seen) fun _ _ => alike_pure _
  | serviceCredit =>
      have seen := accessible_order confined granted
      exact alike_bind (alike_evaluateServiceCredit view seen) fun _ _ => alike_pure _
  | sla =>
      have seen := accessible_ticket confined granted
      exact alike_bind (alike_calculateSla view confined seen) fun _ _ => alike_pure _
  | severity =>
      have seen := accessible_ticket confined granted
      refine alike_bind (alike_getTicket view seen _) fun ticket _ => ?_
      exact alike_bind (alike_classifySeverity view ticket) fun _ _ => alike_pure _

theorem unmoved_dispatch (view : SameView scope one two) (confined : auth.accountScope = some scope)
    {request : ToolRequest} (granted : request.Granted one auth) :
    Unmoved one two (dispatch auth clock request) := by
  cases request with
  | searchDocuments request =>
      exact unmoved_bind (unmoved_searchDocumentsTool view request) fun _ => unmoved_pure _
  | lookupStructuredData request =>
      have same := unmoved_querying (alike_lookUp view confined clock granted)
      refine unmoved_bind ?_ fun _ => unmoved_pure _
      exact unmoved_bind (unmoved_measured same) fun _ => unmoved_pure _
  | calculateSupportOutcome request =>
      have same := unmoved_querying (alike_calculate view confined clock granted)
      refine unmoved_bind ?_ fun _ => unmoved_pure _
      exact unmoved_bind (unmoved_measured same) fun _ => unmoved_pure _
  | detectIssues request => cases granted

theorem unmoved_attemptLoop {work : Agent ToolOutput} (same : Unmoved one two work) (name : ToolName)
    (spec : ToolSpec) (left attempt : Nat) :
    Unmoved one two (attemptLoop name spec work left attempt) := by
  have once (attempt : Nat) : Unmoved one two (attemptOnce name spec work attempt) := by
    refine unmoved_bind unmoved_perfCounter fun start => ?_
    refine unmoved_bind (unmoved_attempt same) fun outcome => ?_
    exact unmoved_bind unmoved_perfCounter fun finish => unmoved_pure _
  induction left generalizing attempt with
  | zero => exact once attempt
  | succ left ih =>
      refine unmoved_bind (once attempt) fun result => ?_
      split
      · exact unmoved_bind (unmoved_sleepFor _) fun _ => ih (attempt + 1)
      · exact unmoved_pure _

theorem unmoved_executeTool (view : SameView scope one two) (confined : auth.accountScope = some scope)
    (clock : SnapshotClock) {request : ToolRequest} (granted : request.Granted one auth) (tools : ToolRegistry) :
    Unmoved one two (executeTool tools request auth clock) := by
  unfold executeTool
  dsimp only
  split
  · exact fun _ _ => rfl
  · exact unmoved_attemptLoop (unmoved_dispatch view confined granted) _ _ _ _

theorem unmoved_executeSteps (view : SameView scope one two)
    (confined : auth.accountScope = some scope) {steps : List PlanStep}
    (granted : ∀ step ∈ steps, step.args.Granted one auth) (tools : ToolRegistry)
    (budget : AgentBudget) (start : Rat) (iterations : Nat) (calls : List ToolCall) :
    Unmoved one two (executeSteps tools budget auth clock start steps iterations calls) := by
  induction steps generalizing iterations calls with
  | nil => exact unmoved_pure _
  | cons step rest ih =>
      refine unmoved_bind unmoved_perfCounter fun now => ?_
      split
      · exact unmoved_pure _
      · split
        · exact unmoved_pure _
        · have called := unmoved_executeTool view confined clock (granted step (by simp)) tools
          refine unmoved_bind called fun result => ?_
          split
          · exact unmoved_pure _
          · exact ih (fun other member => granted other (by simp [member])) _ _

end Tools

section Chat

variable [Host] {one two : Db} {scope : List String} {context : AgentRequestContext}
  {question model : String} {budget : AgentBudget} {tools : ToolRegistry}

theorem unmoved_terminal (start : Rat) (result : AgentRunResult) :
    Unmoved one two (terminal start result) :=
  unmoved_bind unmoved_perfCounter fun _ => unmoved_pure _

theorem unmoved_answer (start : Rat) (found : Investigation) :
    Unmoved one two (answer context model budget start found) := by
  refine unmoved_bind (unmoved_complete _) fun reply => ?_
  cases reply with
  | error exc => exact unmoved_terminal _ _
  | ok response =>
      dsimp only
      split
      · exact unmoved_terminal _ _
      · split
        · exact unmoved_terminal _ _
        · refine unmoved_bind (unmoved_complete _) fun again => ?_
          cases again with
          | error exc => exact unmoved_terminal _ _
          | ok repair =>
              dsimp only
              split
              · exact unmoved_terminal _ _
              · exact unmoved_terminal _ _

theorem unmoved_investigate (view : SameView scope one two)
    (confined : context.auth.accountScope = some scope) {entities : EntityResolution}
    (grounded : Grounded one context.auth entities) (start : Rat) :
    Unmoved one two (investigate tools question context model budget start entities) := by
  unfold investigate
  have prepared := prepare_facts question context budget entities
  split
  · exact unmoved_pure _
  · rename_i plan planned
    rw [planned] at prepared
    have granted : ∀ step ∈ plan.steps, step.args.Granted one context.auth := by
      rw [prepared]
      exact buildPlan_granted grounded question _
    refine unmoved_bind (unmoved_executeSteps view confined granted _ _ _ _ _) fun loop => ?_
    split
    · exact unmoved_pure _
    · dsimp only
      split
      · exact unmoved_pure _
      · exact unmoved_pure _

-- Ids mean the same under two databases exactly when the same ones stand behind
-- a hidden row; then nothing the caller sees differs.
theorem chat_confined (view : SameView scope one two)
    (confined : context.auth.accountScope = some scope) :
    ((resolveEntities question context.auth context.clock).on one =
        (resolveEntities question context.auth context.clock).on two ↔
      SameMentions one two scope question context.auth) ∧
    (SameMentions one two scope question context.auth →
      ∀ (tools : ToolRegistry) (model : String) (budget : AgentBudget)
        (surroundings : Surroundings) (progress : Progress),
        (runAgent tools question context model budget).under one surroundings progress =
          (runAgent tools question context model budget).under two surroundings progress) := by
  refine ⟨resolveEntities_iff view confined,fun same tools model budget surroundings => ?_⟩
  have resolve : Alike one.answer two.answer (resolveEntities question context.auth context.clock) :=
    (resolveEntities_iff view confined).mpr same
  refine coincide_bind (unmoved_perfCounter surroundings) fun start _ => ?_
  refine coincide_bind (unmoved_querying resolve surroundings) fun entities reached => ?_
  obtain ⟨before,after,reached⟩ := reached
  have resolved := (Prod.mk.inj ((perform_embed (fun _ _ => rfl) _).symm.trans reached)).1
  have investigated : Unmoved one two
      (investigate tools question context model budget start entities) :=
    unmoved_investigate view confined (resolveEntities_grounded resolved) start
  refine coincide_bind (investigated surroundings) fun outcome _ => ?_
  cases outcome with
  | error early => exact unmoved_terminal start early surroundings
  | ok found => exact unmoved_answer start found surroundings

-- The caller's ticket, and a stranger's order of the same id.
def twinDb : Db := {untargetedDb with
  accounts := ⟨[basicAccount,⟨"ACCT-002","LumenWorks","Growth","active","Priya",none,false,""⟩],
    by decide⟩
  orders := ⟨[foreignOrder "TKT-104"],by decide⟩}

def supportRequest : AgentRequestContext :=
  ⟨"REQ-2","TRACE-2","support_agent",⟨.supportAgent,some ["ACCT-003"]⟩,.epoch⟩

omit [Host] in
theorem twin_view : SameView ["ACCT-003"] untargetedDb twinDb := by
  refine ⟨fun _ => Iff.rfl,rfl,rfl,?_,?_,fun _ _ => Iff.rfl⟩
  · intro row inside
    simp only [untargetedDb,twinDb,List.mem_cons,List.not_mem_nil,or_false]
    refine ⟨.inl,?_⟩
    rintro (same | rfl)
    · exact same
    · simp at inside
  · intro row inside
    simp only [untargetedDb,twinDb,Db.empty,Table.empty,List.mem_cons,List.not_mem_nil,or_false,
      false_iff]
    rintro rfl
    simp [foreignOrder] at inside

omit [Host] in
theorem chat_confined_account : let _ := asciiHost [] []
    ∀ (tools : ToolRegistry) (model : String) (budget : AgentBudget) (surroundings : Surroundings)
      (progress : Progress),
      (runAgent tools "ACCT-003" supportRequest model budget).under untargetedDb surroundings progress =
        (runAgent tools "ACCT-003" supportRequest model budget).under twinDb surroundings progress := by
  let _ := asciiHost [] []
  have mentioned : mentions "ACCT-003" = ["ACCT-003"] := by decide +kernel
  have same : SameMentions untargetedDb twinDb ["ACCT-003"] "ACCT-003" supportRequest.auth := by
    unfold SameMentions
    simp only [mentioned,List.mem_singleton,forall_eq,exists_eq_left]
    exact ⟨by decide,.inl (by decide)⟩
  exact (chat_confined twin_view rfl).2 same

def askForTicket (db : Db) : Except PyError AgentRunResult × Progress :=
  let _ := asciiHost [] []
  (runAgent toolRegistry "TKT-104" supportRequest "mock-model" {}).under db
    ⟨fun _ => 0,fun _ => .ok ⟨"",⟨0,0⟩⟩⟩ {}

-- The caller's own ticket is not found once the stranger's order exists.
omit [Host] in
theorem hidden_order_told : SameView ["ACCT-003"] untargetedDb twinDb ∧
    ∃ one two oneAfter twoAfter, askForTicket untargetedDb = (.ok one,oneAfter) ∧
      askForTicket twinDb = (.ok two,twoAfter) ∧
      one.intent = some .ticketInvestigation ∧ two.intent = some .informational := by
  have intents : (askForTicket untargetedDb).1.toOption.bind (·.intent) = some .ticketInvestigation ∧
      (askForTicket twinDb).1.toOption.bind (·.intent) = some .informational := by decide +kernel
  obtain ⟨here,there⟩ := intents
  rcases first : askForTicket untargetedDb with ⟨_ | one,oneAfter⟩ <;> rw [first] at here
  · simp [Except.toOption] at here
  rcases second : askForTicket twinDb with ⟨_ | two,twoAfter⟩ <;> rw [second] at there
  · simp [Except.toOption] at there
  exact ⟨twin_view,one,two,oneAfter,twoAfter,rfl,rfl,here,there⟩

end Chat

end ParcelPilot
