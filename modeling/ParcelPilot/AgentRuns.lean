import ParcelPilot.Orchestrator

namespace ParcelPilot

def AgentRunResult.Answered (result : AgentRunResult) : Prop :=
  result.status = .completed ∨ result.status = .escalated

section Runs

variable [Host] {db : Db} {tools : ToolRegistry} {question model : String}
  {context : AgentRequestContext} {budget : AgentBudget} {surroundings : Surroundings}
  {progress after : Progress}
  {result : AgentRunResult}

theorem terminal_ok {start : Rat} {ending : AgentRunResult}
    (ran : (terminal start ending).under db surroundings progress = (.ok result,after)) :
    (∃ latencyMs, result = {ending with totalLatencyMs := latencyMs}) ∧
      after = {progress with taken := progress.taken + 1} := by
  obtain ⟨_,_,read,ran⟩ := under_bind_ok.mp ran
  rw [under_perfCounter] at read
  cases read
  cases ran
  exact ⟨⟨_,rfl⟩,rfl⟩

theorem terminal_unanswered {start : Rat} {ending : AgentRunResult}
    (ran : (terminal start ending).under db surroundings progress = (.ok result,after))
    (refused : ¬ ending.Answered) : ¬ result.Answered := by
  obtain ⟨⟨_,rfl⟩,_⟩ := terminal_ok ran
  exact refused

-- No early end gives an answer; it reports the calls made so far.
theorem prepare_facts (question : String) (context : AgentRequestContext) (budget : AgentBudget)
    (entities : EntityResolution) :
    match prepare question context budget entities with
    | .error early => ¬ early.Answered ∧ early.toolTrace = [] ∧ early.toolCalls = 0
    | .ok plan => plan = buildPlan question (resolveIntent question entities) entities := by
  unfold prepare
  dsimp only
  split
  · rename_i early refused
    repeat' split at refused
    all_goals cases refused
    all_goals simp [AgentRunResult.Answered,ended]
  · rename_i plan planned
    repeat' split at planned
    all_goals cases planned
    rfl

theorem assess_facts (context : AgentRequestContext) (model : String) (budget : AgentBudget)
    (plan : Plan) (pack : EvidencePack) (calls : List ToolCall) :
    match assess context model budget plan pack calls with
    | .error early => ¬ early.Answered ∧ early.toolTrace = calls.map traceEntry ∧
        early.toolCalls = calls.length
    | .ok trustState => trustState =
        enforceTrustGate pack.domainTrustStates (!pack.documentEvidence.isEmpty) := by
  unfold assess assessPriced
  dsimp only
  split
  · rename_i early refused
    repeat' split at refused
    all_goals cases refused
    all_goals simp [AgentRunResult.Answered,AgentRunResult.withCalls,ended]
  · rename_i trustState assessed
    repeat' split at assessed
    all_goals cases assessed
    rfl

def Made (db : Db) (surroundings : Surroundings) (tools : ToolRegistry)
    (context : AgentRequestContext) (call : ToolCall) : Prop :=
  ∃ before after, (executeTool tools call.1.args context.auth context.clock).under db surroundings before =
    (.ok call.2,after)

theorem executeSteps_made {start : Rat} {steps : List PlanStep} {iterations : Nat}
    {calls : List ToolCall} {outcome : Except (String × List ToolCall) (List ToolCall)}
    (ran : (executeSteps tools budget context.auth context.clock start steps iterations calls).under
      db surroundings progress = (.ok outcome,after)) :
    ∃ made, (∀ call ∈ made, Made db surroundings tools context call) ∧
      match outcome with
      | .ok all => all = calls ++ made ∧ made.map (·.1) = steps
      | .error (reason,all) => all = calls ++ made ∧ made.map (·.1) <+: steps ∧
          (reason = "not authorized" → ∃ call ∈ made, call.2.errorType = some .notAuthorized) := by
  induction steps generalizing progress iterations calls with
  | nil =>
      cases ran
      exact ⟨[],by simp,by simp,rfl⟩
  | cons step rest ih =>
      obtain ⟨now,_,_,ran⟩ := under_bind_ok.mp ran
      split at ran
      · cases ran
        exact ⟨[],by simp,by simp,by simp,by simp⟩
      · split at ran
        · cases ran
          refine ⟨[],by simp,by simp,by simp,fun named => ?_⟩
          have letters := congrArg String.toList named
          simp at letters
        · obtain ⟨result,_,called,ran⟩ := under_bind_ok.mp ran
          have first : Made db surroundings tools context (step,result) := ⟨_,_,called⟩
          split at ran
          · rename_i denied
            cases ran
            refine ⟨[(step,result)],by simpa using first,by simp,by simp,fun _ => ⟨(step,result),by simp,?_⟩⟩
            simp only [Bool.and_eq_true,decide_eq_true_eq] at denied
            exact denied.2
          · obtain ⟨made,each,ended⟩ := ih ran
            have all : ∀ call ∈ (step,result) :: made, Made db surroundings tools context call := by
              intro call member
              rcases List.mem_cons.mp member with same | later
              · rw [same]
                exact first
              · exact each call later
            refine ⟨(step,result) :: made,all,?_⟩
            cases outcome with
            | ok everything => exact ⟨by simp [ended.1],by simp [ended.2]⟩
            | error stopped =>
                obtain ⟨calls,order,denied⟩ := ended
                refine ⟨by simp [calls],by simpa using order,fun named => ?_⟩
                obtain ⟨call,member,refused⟩ := denied named
                exact ⟨call,List.mem_cons_of_mem _ member,refused⟩

-- What the answering stage starts from, whenever it is reached.
structure Sound (db : Db) (surroundings : Surroundings) (tools : ToolRegistry) (question : String)
    (context : AgentRequestContext) (entities : EntityResolution) (found : Investigation) : Prop where
  planned : found.plan = buildPlan question (resolveIntent question entities) entities
  executed : found.calls.map (·.1) = found.plan.steps
  made : ∀ call ∈ found.calls, Made db surroundings tools context call
  packed : found.pack = buildEvidencePack question found.plan.intent entities
    (found.calls.map (·.2)) context.datasetSnapshotTime context.auth.accountScope
  trusted : found.trustState =
    enforceTrustGate found.pack.domainTrustStates (!found.pack.documentEvidence.isEmpty)

-- Calls made for the first steps of the plan, as a result reports them.
structure Traced (db : Db) (surroundings : Surroundings) (tools : ToolRegistry) (question : String)
    (context : AgentRequestContext) (entities : EntityResolution) (result : AgentRunResult)
    (calls : List ToolCall) : Prop where
  trace : result.toolTrace = calls.map traceEntry
  counted : result.toolCalls = calls.length
  planned : calls.map (·.1) <+: (buildPlan question (resolveIntent question entities) entities).steps
  made : ∀ call ∈ calls, Made db surroundings tools context call

theorem investigate_ok {start : Rat} {entities : EntityResolution}
    {outcome : Except AgentRunResult Investigation}
    (ran : (investigate tools question context model budget start entities).under db surroundings progress =
      (.ok outcome,after)) :
    (∃ early calls, outcome = .error early ∧ ¬ early.Answered ∧
        Traced db surroundings tools question context entities early calls) ∨
      ∃ found, outcome = .ok found ∧ Sound db surroundings tools question context entities found := by
  unfold investigate at ran
  have prepared := prepare_facts question context budget entities
  split at ran
  · rename_i early refused
    cases ran
    rw [refused] at prepared
    obtain ⟨unanswered,trace,counted⟩ := prepared
    exact .inl ⟨early,[],rfl,unanswered,trace,counted,by simp,by simp⟩
  · rename_i plan planned
    rw [planned] at prepared
    obtain ⟨loop,_,executed,ran⟩ := under_bind_ok.mp ran
    obtain ⟨made,each,looped⟩ := executeSteps_made executed
    split at ran
    · cases ran
      rename_i reason all
      obtain ⟨same,order,_⟩ := looped
      rw [List.nil_append] at same
      subst same
      rw [prepared] at order
      refine .inl ⟨_,all,rfl,?_,rfl,rfl,order,each⟩
      simp [AgentRunResult.Answered,AgentRunResult.withCalls,ended]
    · rename_i calls
      obtain ⟨same,steps⟩ := looped
      rw [List.nil_append] at same
      subst same
      dsimp only at ran
      let pack := buildEvidencePack question plan.intent entities (calls.map (·.2))
        context.datasetSnapshotTime context.auth.accountScope
      have assessed := assess_facts context model budget plan pack calls
      split at ran
      · rename_i early refused
        cases ran
        rw [refused] at assessed
        obtain ⟨unanswered,trace,counted⟩ := assessed
        refine .inl ⟨early,calls,rfl,unanswered,trace,counted,?_,each⟩
        exact ⟨[],by rw [List.append_nil,steps,prepared]⟩
      · rename_i trustState granted
        cases ran
        rw [granted] at assessed
        exact .inr ⟨_,rfl,prepared,steps,each,rfl,assessed⟩

-- A run up to the first call of the model, with the reading it started at.
def investigation (tools : ToolRegistry) (question : String) (context : AgentRequestContext)
    (model : String) (budget : AgentBudget) :
    Agent (Rat × Except AgentRunResult Investigation) := do
  let start ← perfCounter
  let entities ← querying (resolveEntities question context.auth context.clock)
  let outcome ← investigate tools question context model budget start entities
  pure (start,outcome)

theorem runAgent_eq : runAgent tools question context model budget =
    (investigation tools question context model budget >>= fun reached =>
      match reached.2 with
      | .error early => terminal reached.1 early
      | .ok found => answer context model budget reached.1 found) := by
  unfold runAgent investigation
  simp only [bind_assoc]
  rfl

theorem investigation_ok {start : Rat} {outcome : Except AgentRunResult Investigation}
    (ran : (investigation tools question context model budget).under db surroundings progress =
      (.ok (start,outcome),after)) :
    ∃ entities, (resolveEntities question context.auth context.clock).on db = .ok entities ∧
      (investigate tools question context model budget start entities).under db surroundings
        {progress with taken := progress.taken + 1} = (.ok outcome,after) := by
  obtain ⟨_,_,counted,ran⟩ := under_bind_ok.mp ran
  rw [under_perfCounter] at counted
  cases counted
  obtain ⟨entities,_,resolved,ran⟩ := under_bind_ok.mp ran
  rw [under_querying] at resolved
  obtain ⟨named,same⟩ := Prod.mk.inj resolved
  subst same
  obtain ⟨_,_,investigated,ran⟩ := under_bind_ok.mp ran
  cases ran
  exact ⟨entities,named,investigated⟩

-- The two requests the answering stage may send.
def composeRequest (model : String) (budget : AgentBudget) (found : Investigation) : LLMRequest :=
  llmRequest (renderUserPrompt found.pack found.trustState) model budget.maxOutputTokens

def repairRequest (model : String) (budget : AgentBudget) (found : Investigation)
    (reply : LLMResponse) : LLMRequest :=
  llmRequest (renderRepairPrompt found.pack found.trustState reply.content
    (validateCitations reply.content found.pack).invalidMarkers) model budget.maxOutputTokens

def Investigation.composeFailed (found : Investigation) (context : AgentRequestContext)
    (exc : ProviderError) : AgentRunResult :=
  {(ended context .failed ("response composition failed: " ++ exc.message)
    (evaluatedTrace ++ [.failed])).withCalls found.calls with
      intent := some found.plan.intent, trustState := some found.trustState}

-- Everything the answering stage can do: the requests sent and the end reached.
inductive Answering (context : AgentRequestContext) (model : String) (budget : AgentBudget)
    (found : Investigation) (surroundings : Surroundings) (before : List LLMRequest) :
    List LLMRequest → AgentRunResult → Prop where
  | unanswered (raised : surroundings.provider (before ++ [composeRequest model budget found]) =
        .error exc) :
      Answering context model budget found surroundings before
        (before ++ [composeRequest model budget found]) (found.composeFailed context exc)
  | accepted (replied : surroundings.provider (before ++ [composeRequest model budget found]) =
        .ok reply) (valid : (validateCitations reply.content found.pack).valid = true) :
      Answering context model budget found surroundings before
        (before ++ [composeRequest model budget found])
        (found.finished context reply.content 1 reply.cost.totalCostUsd)
  | refused (replied : surroundings.provider (before ++ [composeRequest model budget found]) =
        .ok reply) (invalid : (validateCitations reply.content found.pack).valid = false)
      (single : budget.maxLlmCalls < 2) (reason : String) :
      Answering context model budget found surroundings before
        (before ++ [composeRequest model budget found])
        (found.rejected context .evidenceValidationFailed reason .evidenceValidationFailed 1
          reply.cost.totalCostUsd)
  | repairRaised (replied : surroundings.provider (before ++ [composeRequest model budget found]) =
        .ok reply) (invalid : (validateCitations reply.content found.pack).valid = false)
      (second : ¬ budget.maxLlmCalls < 2)
      (raised : surroundings.provider (before ++ [composeRequest model budget found] ++
        [repairRequest model budget found reply]) = .error exc) (reason : String) :
      Answering context model budget found surroundings before
        (before ++ [composeRequest model budget found] ++ [repairRequest model budget found reply])
        (found.rejected context .failed reason .failed 1 reply.cost.totalCostUsd)
  | repaired (replied : surroundings.provider (before ++ [composeRequest model budget found]) =
        .ok reply) (invalid : (validateCitations reply.content found.pack).valid = false)
      (second : ¬ budget.maxLlmCalls < 2)
      (again : surroundings.provider (before ++ [composeRequest model budget found] ++
        [repairRequest model budget found reply]) = .ok repair)
      (valid : (validateCitations repair.content found.pack).valid = true) :
      Answering context model budget found surroundings before
        (before ++ [composeRequest model budget found] ++ [repairRequest model budget found reply])
        (found.finished context repair.content 2
          (reply.cost.totalCostUsd + repair.cost.totalCostUsd))
  | unrepaired (replied : surroundings.provider (before ++ [composeRequest model budget found]) =
        .ok reply) (invalid : (validateCitations reply.content found.pack).valid = false)
      (second : ¬ budget.maxLlmCalls < 2)
      (again : surroundings.provider (before ++ [composeRequest model budget found] ++
        [repairRequest model budget found reply]) = .ok repair)
      (still : (validateCitations repair.content found.pack).valid = false) (reason : String) :
      Answering context model budget found surroundings before
        (before ++ [composeRequest model budget found] ++ [repairRequest model budget found reply])
        (found.rejected context .evidenceValidationFailed reason .evidenceValidationFailed 2
          (reply.cost.totalCostUsd + repair.cost.totalCostUsd))

theorem answer_cases {start : Rat} {found : Investigation}
    (ran : (answer context model budget start found).under db surroundings progress =
      (.ok result,after)) :
    ∃ ending, Answering context model budget found surroundings progress.sent after.sent ending ∧
      (∃ latencyMs, result = {ending with totalLatencyMs := latencyMs}) ∧
      after.taken = progress.taken + 1 := by
  obtain ⟨reply,between,called,ran⟩ := under_bind_ok.mp ran
  rw [callLlm,under_complete] at called
  obtain ⟨replied,same⟩ := Prod.mk.inj called
  subst same
  replace replied := Except.ok.inj replied
  cases reply with
  | error exc =>
      obtain ⟨reported,counted⟩ := terminal_ok ran
      rw [counted]
      exact ⟨_,.unanswered replied,reported,rfl⟩
  | ok response =>
      dsimp only at ran
      split at ran
      · rename_i valid
        obtain ⟨reported,counted⟩ := terminal_ok ran
        rw [counted]
        exact ⟨_,.accepted replied valid,reported,rfl⟩
      · rename_i invalid
        replace invalid := Bool.eq_false_iff.mpr invalid
        split at ran
        · rename_i single
          obtain ⟨reported,counted⟩ := terminal_ok ran
          rw [counted]
          exact ⟨_,.refused replied invalid single _,reported,rfl⟩
        · rename_i second
          obtain ⟨again,_,recalled,ran⟩ := under_bind_ok.mp ran
          rw [callLlm,under_complete] at recalled
          obtain ⟨rereplied,same⟩ := Prod.mk.inj recalled
          subst same
          replace rereplied := Except.ok.inj rereplied
          cases again with
          | error exc =>
              obtain ⟨reported,counted⟩ := terminal_ok ran
              rw [counted]
              exact ⟨_,.repairRaised replied invalid second rereplied _,reported,rfl⟩
          | ok repair =>
              dsimp only at ran
              split at ran
              · rename_i valid
                obtain ⟨reported,counted⟩ := terminal_ok ran
                rw [counted]
                exact ⟨_,.repaired replied invalid second rereplied valid,reported,rfl⟩
              · rename_i still
                obtain ⟨reported,counted⟩ := terminal_ok ran
                rw [counted]
                exact ⟨_,.unrepaired replied invalid second rereplied (Bool.eq_false_iff.mpr still) _,
                  reported,rfl⟩

-- An answer given to the caller is the text of the provider's last response,
-- and it passed the citation check.
structure Accepted (found : Investigation) (context : AgentRequestContext)
    (surroundings : Surroundings) (after : Progress) (result : AgentRunResult)
    (response : LLMResponse) : Prop where
  replied : surroundings.provider after.sent = .ok response
  valid : (validateCitations response.content found.pack).valid = true
  reported : ∃ llmCalls totalCostUsd latencyMs, result =
    {found.finished context response.content llmCalls totalCostUsd with totalLatencyMs := latencyMs}

theorem rejected_unanswered {found : Investigation} {status : AgentStatus} {reason : String}
    {last : AgentState} {llmCalls : Nat} {cost : Rat}
    (refused : status ≠ .completed ∧ status ≠ .escalated) :
    ¬ (found.rejected context status reason last llmCalls cost).Answered := by
  rintro (completed | escalated)
  · exact refused.1 completed
  · exact refused.2 escalated

theorem finished_answered (found : Investigation) (text : String) (llmCalls : Nat) (cost : Rat) :
    (found.finished context text llmCalls cost).Answered := by
  by_cases escalates : found.trustState = .escalate
  · exact .inr (if_pos escalates)
  · exact .inl (if_neg escalates)

omit [Host] in
theorem AgentRunResult.Answered.status_ne {status : AgentStatus} (answered : result.Answered)
    (other : status ≠ .completed ∧ status ≠ .escalated) : result.status ≠ status := by
  rintro rfl
  exact answered.elim other.1 other.2

theorem answer_accepted {start : Rat} {found : Investigation}
    (ran : (answer context model budget start found).under db surroundings progress = (.ok result,after))
    (answered : result.Answered) : ∃ response, Accepted found context surroundings after result response := by
  obtain ⟨ending,answering,⟨latencyMs,reported⟩,_⟩ := answer_cases ran
  have answered : ending.Answered := by
    rw [reported] at answered
    exact answered
  generalize sent : after.sent = requests at answering
  cases answering with
  | unanswered raised =>
      simp [AgentRunResult.Answered,Investigation.composeFailed,AgentRunResult.withCalls,ended] at answered
  | accepted replied valid => exact ⟨_,by rw [sent]; exact replied,valid,_,_,latencyMs,reported⟩
  | refused => exact absurd answered (rejected_unanswered (by decide))
  | repairRaised => exact absurd answered (rejected_unanswered (by decide))
  | repaired replied invalid second again valid =>
      exact ⟨_,by rw [sent]; exact again,valid,_,_,latencyMs,reported⟩
  | unrepaired => exact absurd answered (rejected_unanswered (by decide))

theorem run_answered
    (ran : (runAgent tools question context model budget).under db surroundings progress = (.ok result,after))
    (answered : result.Answered) :
    ∃ entities found response, (resolveEntities question context.auth context.clock).on db =
        .ok entities ∧
      Sound db surroundings tools question context entities found ∧
      Accepted found context surroundings after result response := by
  obtain ⟨start,_,_,ran⟩ := under_bind_ok.mp ran
  obtain ⟨entities,_,resolved,ran⟩ := under_bind_ok.mp ran
  rw [under_querying] at resolved
  obtain ⟨outcome,_,investigated,ran⟩ := under_bind_ok.mp ran
  rcases investigate_ok investigated with ⟨early,_,rfl,refused,_⟩ | ⟨found,rfl,sound⟩
  · exact absurd answered (terminal_unanswered ran refused)
  · obtain ⟨response,accepted⟩ := answer_accepted ran answered
    exact ⟨entities,found,response,(Prod.mk.inj resolved).1,sound,accepted⟩

theorem run_traced
    (ran : (runAgent tools question context model budget).under db surroundings progress = (.ok result,after)) :
    ∃ entities calls, (resolveEntities question context.auth context.clock).on db = .ok entities ∧
      Traced db surroundings tools question context entities result calls := by
  obtain ⟨start,_,_,ran⟩ := under_bind_ok.mp ran
  obtain ⟨entities,_,resolved,ran⟩ := under_bind_ok.mp ran
  rw [under_querying] at resolved
  replace resolved := (Prod.mk.inj resolved).1
  obtain ⟨outcome,_,investigated,ran⟩ := under_bind_ok.mp ran
  rcases investigate_ok investigated with ⟨early,calls,rfl,_,traced⟩ | ⟨found,rfl,sound⟩
  · obtain ⟨⟨_,reported⟩,_⟩ := terminal_ok ran
    subst reported
    exact ⟨entities,calls,resolved,traced.trace,traced.counted,traced.planned,traced.made⟩
  · obtain ⟨ending,answering,⟨_,reported⟩,_⟩ := answer_cases ran
    subst reported
    have planned : found.calls.map (·.1) <+:
        (buildPlan question (resolveIntent question entities) entities).steps := by
      exact ⟨[],by rw [List.append_nil,sound.executed,sound.planned]⟩
    generalize after.sent = requests at answering
    refine ⟨entities,found.calls,resolved,?_,?_,planned,sound.made⟩
    · cases answering <;> rfl
    · cases answering <;> rfl

theorem investigate_reached {start : Rat} {entities : EntityResolution} {plan : Plan}
    {calls : List ToolCall} {trustState : TrustState}
    (prepared : prepare question context budget entities = .ok plan)
    (looped : (executeSteps tools budget context.auth context.clock start plan.steps 0 []).under db
      surroundings progress = (.ok (.ok calls),after))
    (assessed : assess context model budget plan (buildEvidencePack question plan.intent entities
      (calls.map (·.2)) context.datasetSnapshotTime context.auth.accountScope) calls =
        .ok trustState) :
    (investigate tools question context model budget start entities).under db surroundings progress =
      (.ok (.ok ⟨plan,calls,buildEvidencePack question plan.intent entities (calls.map (·.2))
        context.datasetSnapshotTime context.auth.accountScope,trustState⟩),after) := by
  unfold investigate
  rw [prepared]
  refine under_bind_ok.mpr ⟨.ok calls,after,looped,?_⟩
  dsimp only
  rw [assessed]
  rfl

theorem answer_valid {start : Rat} {found : Investigation} {reply : LLMResponse}
    (replies : ∀ sent, surroundings.provider sent = .ok reply)
    (valid : (validateCitations reply.content found.pack).valid = true) :
    (answer context model budget start found).under db surroundings progress =
      (.ok {found.finished context reply.content 1 reply.cost.totalCostUsd with
        totalLatencyMs := (surroundings.readings progress.taken - start) * 1000},
        ⟨progress.taken + 1,progress.sent ++
          [llmRequest (renderUserPrompt found.pack found.trustState) model budget.maxOutputTokens]⟩) := by
  let request :=
    llmRequest (renderUserPrompt found.pack found.trustState) model budget.maxOutputTokens
  refine under_bind_ok.mpr ⟨.ok reply,⟨progress.taken,progress.sent ++ [request]⟩,?_,?_⟩
  · rw [callLlm,under_complete,replies]
  · dsimp only
    rw [if_pos valid]
    exact under_bind_ok.mpr ⟨_,_,under_perfCounter,rfl⟩

theorem investigation_reached {entities : EntityResolution}
    {outcome : Except AgentRunResult Investigation}
    (resolved : (resolveEntities question context.auth context.clock).on db = .ok entities)
    (investigated : (investigate tools question context model budget
      (surroundings.readings progress.taken) entities).under db surroundings
        {progress with taken := progress.taken + 1} = (.ok outcome,after)) :
    (investigation tools question context model budget).under db surroundings progress =
      (.ok (surroundings.readings progress.taken,outcome),after) := by
  refine under_bind_ok.mpr ⟨_,_,under_perfCounter,?_⟩
  refine under_bind_ok.mpr ⟨entities,_,?_,under_bind_ok.mpr ⟨outcome,_,investigated,rfl⟩⟩
  rw [under_querying,resolved]

theorem runAgent_reached {entities : EntityResolution} {found : Investigation} {between : Progress}
    (resolved : (resolveEntities question context.auth context.clock).on db = .ok entities)
    (investigated : (investigate tools question context model budget
      (surroundings.readings progress.taken) entities).under db surroundings
        {progress with taken := progress.taken + 1} = (.ok (.ok found),between))
    (answers : (answer context model budget (surroundings.readings progress.taken) found).under db
      surroundings between = (.ok result,after)) :
    (runAgent tools question context model budget).under db surroundings progress =
      (.ok result,after) := by
  rw [runAgent_eq]
  exact under_bind_ok.mpr ⟨_,between,investigation_reached resolved investigated,answers⟩

theorem executeSteps_budget {one two : AgentBudget} {auth : AuthContext} {clock : SnapshotClock}
    {start : Rat} {steps : List PlanStep} {iterations : Nat} {calls : List ToolCall}
    (sameIterations : one.maxIterations = two.maxIterations)
    (sameWallClock : one.maxWallClockSeconds = two.maxWallClockSeconds) :
    executeSteps tools one auth clock start steps iterations calls =
      executeSteps tools two auth clock start steps iterations calls := by
  induction steps generalizing iterations calls with
  | nil => rfl
  | cons step rest ih => simp only [executeSteps,sameIterations,sameWallClock,ih]

end Runs

end ParcelPilot
