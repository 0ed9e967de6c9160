import ParcelPilot.ModelBudgets

namespace ParcelPilot

-- The states of a run in the order it goes through them.
def pipeline : List AgentState := [.requestReceived,.authValidated,.entitiesResolved,.intentResolved,
  .planCreated,.toolExecuting,.evidenceValidated,.domainEvaluated,.trustEvaluated,.responseComposed]

-- `TERMINAL_STATES`
def terminalStates : List AgentState := [.completed,.needsClarification,.insufficientEvidence,
  .escalated,.failed,.evidenceValidationFailed]

-- The state a run of each status ends in.
def AgentStatus.state : AgentStatus → AgentState
  | .completed => .completed
  | .needsClarification => .needsClarification
  | .insufficientEvidence => .insufficientEvidence
  | .escalated => .escalated
  | .failed => .failed
  | .evidenceValidationFailed => .evidenceValidationFailed

-- Some of the pipeline and then the end that the status names.
def AgentRunResult.Staged (result : AgentRunResult) : Prop :=
  ∃ stages, stages <+: pipeline ∧ result.stateTrace = stages ++ [result.status.state]

theorem AgentStatus.state_terminal (status : AgentStatus) : status.state ∈ terminalStates := by
  cases status <;> simp [AgentStatus.state,terminalStates]

theorem pipeline_open : ∀ state ∈ pipeline, state ∉ terminalStates := by decide

theorem staged_ends_once {result : AgentRunResult} (staged : result.Staged) :
    result.stateTrace.filter (· ∈ terminalStates) = [result.status.state] := by
  obtain ⟨stages,order,trace⟩ := staged
  have running : stages.filter (· ∈ terminalStates) = [] := by
    rw [List.filter_eq_nil_iff]
    intro state member
    simpa using pipeline_open state (order.subset member)
  rw [trace,List.filter_append,running,List.nil_append]
  simp [result.status.state_terminal]

-- An end without an answer and without a call of the model.
structure AgentRunResult.EndsEarly (budget : AgentBudget) (early : AgentRunResult) : Prop where
  staged : early.Staged
  unanswered : ¬ early.Answered
  silent : early.answer = none
  counted : (early.toolCalls : Int) ≤ max 0 budget.maxToolCalls
  uncalled : early.llmCalls = 0

-- What every result keeps to, on its own.
structure AgentRunResult.Regular (budget : AgentBudget) (result : AgentRunResult) : Prop where
  staged : result.Staged
  answered : result.answer.isSome = true ↔ result.Answered
  escalated : result.Answered → (result.status = .escalated ↔ result.trustState = some .escalate)
  toolCalls : (result.toolCalls : Int) ≤ max 0 budget.maxToolCalls
  llmCalls : (result.llmCalls : Int) ≤ max 0 (min 2 budget.maxLlmCalls)

theorem AgentRunResult.EndsEarly.regular {budget : AgentBudget} {early : AgentRunResult}
    (ends : early.EndsEarly budget) : early.Regular budget := by
  refine ⟨ends.staged,?_,fun answered => absurd answered ends.unanswered,ends.counted,?_⟩
  · simp [ends.silent,ends.unanswered]
  · rw [ends.uncalled]
    exact le_max_left _ _

theorem AgentRunResult.Regular.timed {budget : AgentBudget} {result : AgentRunResult}
    (regular : result.Regular budget) (latencyMs : Rat) :
    AgentRunResult.Regular budget {result with totalLatencyMs := latencyMs} :=
  ⟨regular.staged,regular.answered,regular.escalated,regular.toolCalls,regular.llmCalls⟩

section Stages

variable [Host] {db : Db} {tools : ToolRegistry} {question model : String}
  {context : AgentRequestContext} {budget : AgentBudget} {surroundings : Surroundings}
  {progress after : Progress} {result : AgentRunResult}

theorem prepare_ends (question : String) (context : AgentRequestContext) (budget : AgentBudget)
    (entities : EntityResolution) :
    match prepare question context budget entities with
    | .error early => early.EndsEarly budget
    | .ok plan => (plan.steps.length : Int) ≤ budget.maxToolCalls := by
  unfold prepare
  dsimp only
  split
  · rename_i early refused
    repeat' split at refused
    all_goals cases refused
    all_goals
      refine ⟨⟨_,?_,rfl⟩,by simp [AgentRunResult.Answered,ended],rfl,le_max_left _ _,rfl⟩
      decide
  · rename_i plan planned
    repeat' split at planned
    all_goals cases planned
    rename_i within
    exact Int.not_lt.mp within

theorem assess_ends {plan : Plan} {pack : EvidencePack} {calls : List ToolCall}
    (within : (calls.length : Int) ≤ budget.maxToolCalls)
    (refused : assess context model budget plan pack calls = .error early) :
    early.EndsEarly budget := by
  unfold assess assessPriced at refused
  dsimp only at refused
  repeat' split at refused
  all_goals cases refused
  all_goals
    refine ⟨⟨_,?_,rfl⟩,by simp [AgentRunResult.Answered,AgentRunResult.withCalls,ended],rfl,
      le_max_of_le_right within,rfl⟩
    decide

theorem investigate_ends {start : Rat} {entities : EntityResolution}
    {outcome : Except AgentRunResult Investigation}
    (ran : (investigate tools question context model budget start entities).under db surroundings
      progress = (.ok outcome,after)) :
    match outcome with
    | .error early => early.EndsEarly budget
    | .ok found => (found.calls.length : Int) ≤ budget.maxToolCalls := by
  unfold investigate at ran
  have prepared := prepare_ends question context budget entities
  split at ran
  · rename_i early refused
    cases ran
    rw [refused] at prepared
    exact prepared
  · rename_i plan planned
    rw [planned] at prepared
    dsimp only at prepared
    obtain ⟨loop,_,executed,ran⟩ := under_bind_ok.mp ran
    obtain ⟨made,_,looped⟩ := executeSteps_made executed
    split at ran
    · rename_i reason all
      cases ran
      obtain ⟨same,order,_⟩ := looped
      have fewer := order.length_le
      rw [List.nil_append] at same
      rw [List.length_map,← same] at fewer
      refine ⟨⟨executedTrace,by decide,rfl⟩,?_,rfl,?_,rfl⟩
      · simp [AgentRunResult.Answered,AgentRunResult.withCalls,ended]
      · change (all.length : Int) ≤ _
        omega
    · rename_i calls
      obtain ⟨same,steps⟩ := looped
      rw [List.nil_append] at same
      have counted : (calls.length : Int) ≤ budget.maxToolCalls := by
        rw [← steps,List.length_map,← same] at prepared
        exact prepared
      dsimp only at ran
      split at ran
      · rename_i early refused
        cases ran
        exact assess_ends counted refused
      · cases ran
        exact counted

variable {found : Investigation}

theorem finished_regular {text : String} {llmCalls : Nat} {cost : Rat}
    (counted : (found.calls.length : Int) ≤ budget.maxToolCalls)
    (called : (llmCalls : Int) ≤ min 2 budget.maxLlmCalls) :
    (found.finished context text llmCalls cost).Regular budget := by
  by_cases escalates : found.trustState = .escalate
  · have status : (found.finished context text llmCalls cost).status = .escalated := if_pos escalates
    refine ⟨⟨composedTrace,by decide,?_⟩,?_,?_,le_max_of_le_right counted,le_max_of_le_right called⟩
    · rw [status]
      exact congrArg (composedTrace ++ [·]) (if_pos escalates)
    · exact iff_of_true rfl (.inr status)
    · intro _
      exact iff_of_true status (congrArg some escalates)
  · have status : (found.finished context text llmCalls cost).status = .completed := if_neg escalates
    refine ⟨⟨composedTrace,by decide,?_⟩,?_,?_,le_max_of_le_right counted,le_max_of_le_right called⟩
    · rw [status]
      exact congrArg (composedTrace ++ [·]) (if_neg escalates)
    · exact iff_of_true rfl (.inl status)
    · intro _
      refine iff_of_false (by simp [status]) fun trusted => escalates (Option.some.inj trusted)

theorem rejected_regular {status : AgentStatus} {reason : String} {llmCalls : Nat} {cost : Rat}
    (refused : status ≠ .completed ∧ status ≠ .escalated)
    (counted : (found.calls.length : Int) ≤ budget.maxToolCalls)
    (called : (llmCalls : Int) ≤ min 2 budget.maxLlmCalls) :
    (found.rejected context status reason status.state llmCalls cost).Regular budget := by
  have unanswered : ¬ (found.rejected context status reason status.state llmCalls cost).Answered :=
    rejected_unanswered refused
  refine ⟨⟨composedTrace,by decide,rfl⟩,?_,fun answered => absurd answered unanswered,
    le_max_of_le_right counted,le_max_of_le_right called⟩
  exact iff_of_false (by simp [Investigation.rejected,AgentRunResult.withPack,
    AgentRunResult.withCalls,ended]) unanswered

theorem answering_regular {before sent : List LLMRequest} {ending : AgentRunResult}
    (counted : (found.calls.length : Int) ≤ budget.maxToolCalls) (allowed : 1 ≤ budget.maxLlmCalls)
    (answering : Answering context model budget found surroundings before sent ending) :
    ending.Regular budget := by
  have once : ((1 : Nat) : Int) ≤ min 2 budget.maxLlmCalls := by omega
  have twice (second : ¬ budget.maxLlmCalls < 2) : ((2 : Nat) : Int) ≤ min 2 budget.maxLlmCalls := by
    omega
  have refused : AgentStatus.evidenceValidationFailed ≠ .completed ∧
      AgentStatus.evidenceValidationFailed ≠ .escalated := by decide
  cases answering with
  | unanswered raised =>
      apply AgentRunResult.EndsEarly.regular
      refine ⟨⟨evaluatedTrace,by decide,rfl⟩,?_,rfl,le_max_of_le_right counted,rfl⟩
      simp [AgentRunResult.Answered,Investigation.composeFailed,AgentRunResult.withCalls,ended]
  | accepted replied valid => exact finished_regular counted once
  | refused replied invalid single reason => exact rejected_regular refused counted once
  | repairRaised replied invalid second raised reason =>
      exact rejected_regular (by decide) counted once
  | repaired replied invalid second again valid => exact finished_regular counted (twice second)
  | unrepaired replied invalid second again still reason =>
      exact rejected_regular refused counted (twice second)

theorem run_regular
    (ran : (runAgent tools question context model budget).under db surroundings progress =
      (.ok result,after)) : result.Regular budget := by
  rw [runAgent_eq] at ran
  obtain ⟨⟨start,outcome⟩,between,reached,ran⟩ := under_bind_ok.mp ran
  obtain ⟨entities,_,investigated⟩ := investigation_ok reached
  have ends := investigate_ends investigated
  cases outcome with
  | error early =>
      obtain ⟨⟨latencyMs,reported⟩,_⟩ := terminal_ok ran
      rw [reported]
      exact ends.regular.timed latencyMs
  | ok found =>
      obtain ⟨ending,answering,⟨latencyMs,reported⟩,_⟩ := answer_cases ran
      rw [reported]
      exact (answering_regular ends (investigation_gated reached).calls answering).timed latencyMs

-- Every result: how far the run went, when there is an answer and whose it is,
-- when it is escalated and how many calls it took.
theorem run_contract
    (ran : (runAgent tools question context model budget).under db surroundings progress =
      (.ok result,after)) :
    (∃ stages, stages <+: pipeline ∧ result.stateTrace = stages ++ [result.status.state] ∧
      result.stateTrace.filter (· ∈ terminalStates) = [result.status.state]) ∧
    (result.answer.isSome = true ↔ result.status = .completed ∨ result.status = .escalated) ∧
    (∀ text, result.answer = some text → ∃ entities found response,
      (resolveEntities question context.auth context.clock).on db = .ok entities ∧
      Sound db surroundings tools question context entities found ∧
      result.citations = found.pack.citations ∧ result.trustState = some found.trustState ∧
      surroundings.provider after.sent = .ok response ∧ text = response.content ∧
      (validateCitations text found.pack).valid = true) ∧
    ((result.status = .completed ∨ result.status = .escalated) →
      (result.status = .escalated ↔ result.trustState = some .escalate)) ∧
    (result.toolCalls : Int) ≤ max 0 budget.maxToolCalls ∧
    (result.llmCalls : Int) ≤ max 0 (min 2 budget.maxLlmCalls) := by
  have regular := run_regular ran
  obtain ⟨stages,order,trace⟩ := regular.staged
  refine ⟨⟨stages,order,trace,staged_ends_once regular.staged⟩,regular.answered,?_,
    regular.escalated,regular.toolCalls,regular.llmCalls⟩
  intro text given
  have answered : result.Answered := regular.answered.mp (by rw [given]; rfl)
  obtain ⟨entities,found,response,resolved,sound,accepted⟩ := run_answered ran answered
  obtain ⟨llmCalls,cost,latencyMs,reported⟩ := accepted.reported
  have said : text = response.content := by
    rw [reported] at given
    exact (Option.some.inj given).symm
  refine ⟨entities,found,response,resolved,sound,?_,?_,accepted.replied,said,?_⟩
  · rw [reported]
    rfl
  · rw [reported]
    rfl
  · rw [said]
    exact accepted.valid

end Stages

-- Nothing is asked, nothing is called, and the limit is below nothing.
def impossibleBudget : AgentBudget := {maxToolCalls := -1, maxLlmCalls := -1}

def blankSurroundings : Surroundings := ⟨fun _ => 0,fun _ => .error ⟨"Exception",""⟩⟩

theorem blank_question_counted : let _ := asciiHost [] []
    ∃ result after, (runAgent toolRegistry "" adminRequest "mock-model" impossibleBudget).under
        Db.empty blankSurroundings {} = (.ok result,after) ∧
      ¬ (result.toolCalls : Int) ≤ impossibleBudget.maxToolCalls ∧
      ¬ (result.llmCalls : Int) ≤ min 2 impossibleBudget.maxLlmCalls := by
  intro _
  exact ⟨_,_,rfl,by decide,by decide⟩

theorem run_contract_cancelled : let _ := asciiHost [] []
    ∃ result after, (runAgent toolRegistry "cancel AB-1 AB-2" adminRequest "mock-model"
        (promptBudget (estimatePromptTokens cancelPack .confident))).under deliveredDb
          slowSurroundings {} = (.ok result,after) ∧
      (∃ stages, stages <+: pipeline ∧ result.stateTrace = stages ++ [result.status.state] ∧
        result.stateTrace.filter (· ∈ terminalStates) = [result.status.state]) ∧
      (result.toolCalls : Int) ≤ max 0 6 ∧ (result.llmCalls : Int) ≤ max 0 (min 2 2) := by
  intro _
  obtain ⟨latencyMs,after,ran⟩ := cancel_answers rfl
  obtain ⟨staged,_,_,_,toolCalls,llmCalls⟩ := run_contract ran
  exact ⟨_,after,ran,staged,toolCalls,llmCalls⟩

end ParcelPilot
