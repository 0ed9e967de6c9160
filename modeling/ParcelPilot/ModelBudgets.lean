import Mathlib.Tactic.Linarith
import ParcelPilot.ModelIndependence

namespace ParcelPilot

section Budgets

variable [Host]

-- System plus user message.
def LLMRequest.tokens (request : LLMRequest) : Nat :=
  (request.messages.map fun message => approxTokens message.content).sum

-- Its tokens as input and every output token it may ask for.
def LLMRequest.worstCaseCostUsd (request : LLMRequest) : Rat :=
  (estimateWorstCaseCostUsd request.model request.tokens request.maxOutputTokens).getD 0

structure LlmBudgetsHold (budget : AgentBudget) (sent : List LLMRequest) : Prop where
  calls : sent.length ≤ budget.maxLlmCalls
  context : ∀ request ∈ sent, request.tokens ≤ budget.maxContextTokens
  cost : (sent.map (·.worstCaseCostUsd)).sum ≤ budget.maxEstimatedCostUsd

variable {db : Db} {tools : ToolRegistry} {question model : String} {context : AgentRequestContext}
  {budget : AgentBudget} {surroundings : Surroundings} {progress after : Progress}
  {found : Investigation}

theorem composeRequest_tokens :
    (composeRequest model budget found).tokens = estimatePromptTokens found.pack found.trustState := by
  simp [composeRequest,llmRequest,LLMRequest.tokens,estimatePromptTokens]

-- What the gate in front of the first call lets through.
structure Gated (model : String) (budget : AgentBudget) (found : Investigation) : Prop where
  calls : 1 ≤ budget.maxLlmCalls
  context : (composeRequest model budget found).tokens ≤ budget.maxContextTokens
  cost : (rates model).isSome →
    (composeRequest model budget found).worstCaseCostUsd ≤ budget.maxEstimatedCostUsd

omit [Host] in
theorem priced_estimate (priced : (rates model).isSome) (inputTokens outputTokens : Int) :
    ∃ cost, estimateWorstCaseCostUsd model inputTokens outputTokens = some cost := by
  obtain ⟨rate,named⟩ := Option.isSome_iff_exists.mp priced
  unfold estimateWorstCaseCostUsd estimateCost
  rw [named]
  exact ⟨_,rfl⟩

theorem assess_gated (assessed : assess context model budget found.plan found.pack found.calls =
    .ok found.trustState) : Gated model budget found := by
  have facts := assess_facts context model budget found.plan found.pack found.calls
  rw [assessed] at facts
  unfold assess assessPriced at assessed
  dsimp only at assessed
  have estimated : estimatePromptTokens found.pack found.trustState =
      (composeRequest model budget found).tokens := composeRequest_tokens.symm
  rw [← facts,estimated] at assessed
  repeat' split at assessed
  all_goals cases assessed
  rename_i calls _ withinContext _ withinCost
  refine ⟨by omega,?_,fun priced => ?_⟩
  · by_contra exceeded
    rw [checkContextBudget,if_pos (by omega)] at withinContext
    cases withinContext
  · obtain ⟨cost,known⟩ := priced_estimate priced (composeRequest model budget found).tokens
      budget.maxOutputTokens
    have same : (composeRequest model budget found).worstCaseCostUsd = cost :=
      congrArg (·.getD 0) known
    rw [same]
    by_contra exceeded
    rw [known,checkCostBudget,if_pos (Rat.not_le.mp exceeded)] at withinCost
    cases withinCost

theorem investigate_assessed {start : Rat} {entities : EntityResolution}
    (ran : (investigate tools question context model budget start entities).under db surroundings
      progress = (.ok (.ok found),after)) :
    assess context model budget found.plan found.pack found.calls = .ok found.trustState := by
  unfold investigate at ran
  split at ran
  · cases ran
  · obtain ⟨loop,_,_,ran⟩ := under_bind_ok.mp ran
    split at ran
    · cases ran
    · dsimp only at ran
      split at ran
      · cases ran
      · rename_i granted
        cases ran
        exact granted

-- The second request, where one is sent, is within what the first left.
def RepairFits (model : String) (budget : AgentBudget) (found : Investigation)
    (surroundings : Surroundings) : Prop :=
  ∀ reply, surroundings.provider [composeRequest model budget found] = .ok reply →
    (validateCitations reply.content found.pack).valid = false → ¬ budget.maxLlmCalls < 2 →
    (repairRequest model budget found reply).tokens ≤ budget.maxContextTokens ∧
      (composeRequest model budget found).worstCaseCostUsd +
        (repairRequest model budget found reply).worstCaseCostUsd ≤ budget.maxEstimatedCostUsd

theorem single_holds (priced : (rates model).isSome) (gated : Gated model budget found) :
    LlmBudgetsHold budget [composeRequest model budget found] := by
  refine ⟨gated.calls,?_,?_⟩
  · intro request member
    rw [List.mem_singleton.mp member]
    exact gated.context
  · rw [List.map_singleton,List.sum_singleton]
    exact gated.cost priced

theorem double_iff (gated : Gated model budget found) (second : ¬ budget.maxLlmCalls < 2)
    {repair : LLMRequest} :
    LlmBudgetsHold budget [composeRequest model budget found,repair] ↔
      repair.tokens ≤ budget.maxContextTokens ∧
        (composeRequest model budget found).worstCaseCostUsd + repair.worstCaseCostUsd ≤
          budget.maxEstimatedCostUsd := by
  constructor
  · intro holds
    refine ⟨holds.context repair (by simp),?_⟩
    simpa using holds.cost
  · rintro ⟨context,cost⟩
    refine ⟨?_,?_,by simpa using cost⟩
    · simp only [List.length_cons,List.length_nil]
      omega
    · intro request member
      rcases List.mem_cons.mp member with first | later
      · rw [first]
        exact gated.context
      · rw [List.mem_singleton.mp later]
        exact context

theorem answering_budgets {sent : List LLMRequest} {ending : AgentRunResult}
    (priced : (rates model).isSome) (gated : Gated model budget found)
    (answering : Answering context model budget found surroundings [] sent ending) :
    LlmBudgetsHold budget sent ↔ RepairFits model budget found surroundings := by
  have alone : LlmBudgetsHold budget ([] ++ [composeRequest model budget found]) :=
    single_holds priced gated
  have both {reply : LLMResponse} (replied : surroundings.provider
      ([] ++ [composeRequest model budget found]) = .ok reply)
      (invalid : (validateCitations reply.content found.pack).valid = false)
      (second : ¬ budget.maxLlmCalls < 2) :
      LlmBudgetsHold budget ([] ++ [composeRequest model budget found] ++
        [repairRequest model budget found reply]) ↔
          RepairFits model budget found surroundings := by
    refine (double_iff gated second).trans ⟨fun fits other said _ _ => ?_,fun fits => ?_⟩
    · cases replied.symm.trans said
      exact fits
    · exact fits reply replied invalid second
  cases answering with
  | unanswered raised =>
      refine iff_of_true alone fun reply replied => ?_
      cases raised.symm.trans replied
  | accepted replied valid =>
      refine iff_of_true alone fun other said invalid => ?_
      cases replied.symm.trans said
      rw [valid] at invalid
      cases invalid
  | refused replied invalid single reason =>
      exact iff_of_true alone fun _ _ _ second => absurd single second
  | repairRaised replied invalid second raised reason => exact both replied invalid second
  | repaired replied invalid second again valid => exact both replied invalid second
  | unrepaired replied invalid second again still reason => exact both replied invalid second

theorem investigation_gated {start : Rat}
    (ran : (investigation tools question context model budget).under db surroundings progress =
      (.ok (start,.ok found),after)) : Gated model budget found := by
  obtain ⟨_,_,investigated⟩ := investigation_ok ran
  exact assess_gated (investigate_assessed investigated)

-- What a run without an overspent limit comes down to: it stops before the model
-- is called, or the repair fits.
def RepairWithin (tools : ToolRegistry) (question : String) (context : AgentRequestContext)
    (model : String) (budget : AgentBudget) (db : Db) (surroundings : Surroundings) : Prop :=
  match ((investigation tools question context model budget).under db surroundings {}).1 with
  | .ok (_,.ok found) => RepairFits model budget found surroundings
  | _ => 0 ≤ budget.maxLlmCalls ∧ 0 ≤ budget.maxEstimatedCostUsd

variable {outcome : Except PyError AgentRunResult}

-- Every call is counted and the first one is gated; only the repair is not.
theorem reached_budgets {start : Rat} (priced : (rates model).isSome)
    (reached : (investigation tools question context model budget).under db surroundings {} =
      (.ok (start,.ok found),progress))
    (ran : (runAgent tools question context model budget).under db surroundings {} =
      (outcome,after)) :
    LlmBudgetsHold budget after.sent ↔ RepairFits model budget found surroundings := by
  have silent : progress.sent = [] := investigation_silent reached
  obtain ⟨_,_,_,answering⟩ := reached_answering reached ran
  rw [silent] at answering
  exact answering_budgets priced (investigation_gated reached) answering

theorem early_sends_nothing {early : Except PyError (Rat × Except AgentRunResult Investigation)}
    (reached : (investigation tools question context model budget).under db surroundings {} =
      (early,progress)) (unfound : ∀ start found, early ≠ .ok (start,.ok found))
    (ran : (runAgent tools question context model budget).under db surroundings {} =
      (outcome,after)) : after.sent = [] := by
  have silent : progress.sent = [] := investigation_silent reached
  rw [runAgent_eq] at ran
  unfold Agent.under at reached ran
  rw [Fallible.perform_bind,reached] at ran
  rcases early with error | ⟨start,early | found⟩
  · cases ran
    exact silent
  · obtain ⟨result,last,ended⟩ : ∃ result last,
        (terminal start early).under db surroundings progress = (.ok result,last) :=
      terminal_total _ _
    obtain ⟨_,same⟩ := terminal_ok ended
    cases ended.symm.trans ran
    rw [same]
    exact silent
  · exact absurd rfl (unfound start found)

theorem llm_budgets_iff (priced : (rates model).isSome)
    (ran : (runAgent tools question context model budget).under db surroundings {} =
      (outcome,after)) :
    LlmBudgetsHold budget after.sent ↔
      RepairWithin tools question context model budget db surroundings := by
  have nothing : LlmBudgetsHold budget [] ↔
      0 ≤ budget.maxLlmCalls ∧ 0 ≤ budget.maxEstimatedCostUsd :=
    ⟨fun holds => ⟨holds.calls,holds.cost⟩,fun limits => ⟨limits.1,by simp,limits.2⟩⟩
  unfold RepairWithin
  rcases reached : (investigation tools question context model budget).under db surroundings {} with
    ⟨error | ⟨start,early | found⟩,between⟩
  · rw [early_sends_nothing reached (by simp) ran]
    exact nothing
  · rw [early_sends_nothing reached (by simp) ran]
    exact nothing
  · exact reached_budgets priced reached ran

-- The first reply cites what nobody looked up, and the first request was
-- allowed to cost everything.
def unsupportedReply : LLMResponse := ⟨"Both are delivered [SRC-99].",⟨0,0⟩⟩

def unsupportedSurroundings : Surroundings := ⟨slowSurroundings.readings,fun _ => .ok unsupportedReply⟩

def exactBudget (tokens : Int) : AgentBudget :=
  {maxContextTokens := tokens
   maxEstimatedCostUsd := (estimateWorstCaseCostUsd "claude-sonnet-5" tokens 1024).getD 0}

omit [Host] in
theorem exact_priced (tokens : Int) : estimateWorstCaseCostUsd "claude-sonnet-5" tokens 1024 =
    some (exactBudget tokens).maxEstimatedCostUsd := by
  simp [exactBudget,estimateWorstCaseCostUsd,estimateCost,rates]

omit [Host] in
theorem cancel_looped_by {budget : AgentBudget} {surroundings : Surroundings}
    (iterations : budget.maxIterations = 6) (wallClock : budget.maxWallClockSeconds = 30)
    (clock : surroundings.readings = slowSurroundings.readings) : let _ := asciiHost [] []
    (executeSteps toolRegistry budget adminRequest.auth adminRequest.clock 0 cancelPlan.steps 0 []).under
      deliveredDb surroundings {taken := 1} = (.ok (.ok cancelCalls),cancelLoop.2) := by
  intro _
  have looped := @cancel_looped budget iterations wallClock
  apply Eq.trans ?_ looped
  apply Eq.symm
  apply offline_under (offline_executeSteps _ _ _ _ _ _ _ _)
  · intro reading _
    rw [clock]
  · exact Nat.le_refl _

omit [Host] in
theorem exact_investigation {tokens : Int} : let _ := asciiHost [] []
    tokens = estimatePromptTokens cancelPack .confident →
    ∃ start after, (investigation toolRegistry "cancel AB-1 AB-2" adminRequest "claude-sonnet-5"
      (exactBudget tokens)).under deliveredDb unsupportedSurroundings {} =
        (.ok (start,.ok cancelFound),after) := by
  intro _ enough
  have looped : (executeSteps toolRegistry (exactBudget tokens) adminRequest.auth
      adminRequest.clock 0 cancelPlan.steps 0 []).under deliveredDb unsupportedSurroundings
        {taken := 1} = (.ok (.ok cancelCalls),cancelLoop.2) := cancel_looped_by rfl rfl rfl
  have afforded : checkCostBudget (some (exactBudget tokens).maxEstimatedCostUsd)
      (exactBudget tokens) = none := if_neg (Rat.not_lt.mpr Rat.le_refl)
  have assessed : assess adminRequest "claude-sonnet-5" (exactBudget tokens) cancelPlan cancelPack
      cancelCalls = .ok .confident := by
    apply cancel_assessed
    · simp [exactBudget]
    · exact Int.le_of_eq enough.symm
    · rw [← enough,show (exactBudget tokens).maxOutputTokens = 1024 from rfl,exact_priced]
      exact afforded
  have investigated := investigate_reached (cancel_prepared rfl) looped assessed
  exact ⟨_,_,investigation_reached cancel_resolved investigated⟩

omit [Host] in
theorem unsupported_refused : let _ := asciiHost [] []
    (validateCitations unsupportedReply.content cancelPack).valid = false := by
  intro _
  have markers : extractCitationMarkers unsupportedReply.content = ["SRC-99"] := by decide +kernel
  have unknown : acceptsMarker cancelPack.citations "SRC-99" = false := by decide +kernel
  simp [validateCitations,markers,unknown]

omit [Host] in
theorem sonnet_priced : (rates "claude-sonnet-5").isSome := by simp [rates]

theorem sonnet_cost (request : LLMRequest) (named : request.model = "claude-sonnet-5") :
    request.worstCaseCostUsd =
      (request.tokens : Rat) / 1000000 * 3 + (request.maxOutputTokens : Rat) / 1000000 * 15 := by
  simp [LLMRequest.worstCaseCostUsd,estimateWorstCaseCostUsd,estimateCost,rates,named,
    CostEstimate.totalCostUsd]

theorem repair_costs {reply : LLMResponse} (output : 0 ≤ budget.maxOutputTokens) :
    0 < (repairRequest "claude-sonnet-5" budget found reply).worstCaseCostUsd := by
  rw [sonnet_cost _ rfl]
  generalize request : repairRequest "claude-sonnet-5" budget found reply = repair
  have some_ : 1 ≤ repair.tokens := by
    rw [← request]
    simp only [repairRequest,llmRequest,LLMRequest.tokens,approxTokens,List.map_cons,List.map_nil,
      List.sum_cons,List.sum_nil]
    omega
  have input : (1 : Rat) ≤ repair.tokens := by exact_mod_cast some_
  have rest : (0 : Rat) ≤ repair.maxOutputTokens := by
    rw [← request]
    exact_mod_cast output
  linarith

omit [Host] in
theorem repair_overspends {tokens : Int} {outcome : Except PyError AgentRunResult} {after : Progress} :
    let _ := asciiHost [] []
    tokens = estimatePromptTokens cancelPack .confident →
    (runAgent toolRegistry "cancel AB-1 AB-2" adminRequest "claude-sonnet-5"
      (exactBudget tokens)).under deliveredDb unsupportedSurroundings {} = (outcome,after) →
    ¬ LlmBudgetsHold (exactBudget tokens) after.sent := by
  intro _ enough ran
  obtain ⟨start,_,reached⟩ := exact_investigation enough
  rw [reached_budgets sonnet_priced reached ran]
  intro fits
  have second : ¬ (exactBudget tokens).maxLlmCalls < 2 := by simp [exactBudget]
  have costs := (fits unsupportedReply rfl unsupported_refused second).2
  have first : (composeRequest "claude-sonnet-5" (exactBudget tokens) cancelFound).worstCaseCostUsd =
      (exactBudget tokens).maxEstimatedCostUsd := by
    unfold LLMRequest.worstCaseCostUsd
    rw [composeRequest_tokens,show cancelFound.trustState = .confident from rfl,
      show cancelFound.pack = cancelPack from rfl,← enough]
    exact congrArg (Option.getD · 0) (exact_priced tokens)
  rw [first] at costs
  have repair : 0 < (repairRequest "claude-sonnet-5" (exactBudget tokens) cancelFound
      unsupportedReply).worstCaseCostUsd := repair_costs (by simp [exactBudget])
  linarith

omit [Host] in
theorem repair_ungated : let _ := asciiHost [] []
    (rates "claude-sonnet-5").isSome ∧ ∃ outcome after,
      (runAgent toolRegistry "cancel AB-1 AB-2" adminRequest "claude-sonnet-5"
        (exactBudget (estimatePromptTokens cancelPack .confident))).under deliveredDb
          unsupportedSurroundings {} = (outcome,after) ∧
      ¬ LlmBudgetsHold (exactBudget (estimatePromptTokens cancelPack .confident)) after.sent := by
  intro _
  rcases ran : (runAgent toolRegistry "cancel AB-1 AB-2" adminRequest "claude-sonnet-5"
    (exactBudget (estimatePromptTokens cancelPack .confident))).under deliveredDb
      unsupportedSurroundings {} with ⟨outcome,after⟩
  exact ⟨sonnet_priced,outcome,after,rfl,repair_overspends rfl ran⟩

omit [Host] in
theorem repair_ungated_iff : let _ := asciiHost [] []
    ∃ outcome after, (runAgent toolRegistry "cancel AB-1 AB-2" adminRequest "claude-sonnet-5"
        (exactBudget (estimatePromptTokens cancelPack .confident))).under deliveredDb
          unsupportedSurroundings {} = (outcome,after) ∧
      (LlmBudgetsHold (exactBudget (estimatePromptTokens cancelPack .confident)) after.sent ↔
        RepairWithin toolRegistry "cancel AB-1 AB-2" adminRequest "claude-sonnet-5"
          (exactBudget (estimatePromptTokens cancelPack .confident)) deliveredDb
            unsupportedSurroundings) := by
  intro _
  rcases ran : (runAgent toolRegistry "cancel AB-1 AB-2" adminRequest "claude-sonnet-5"
    (exactBudget (estimatePromptTokens cancelPack .confident))).under deliveredDb
      unsupportedSurroundings {} with ⟨outcome,after⟩
  exact ⟨outcome,after,rfl,llm_budgets_iff sonnet_priced ran⟩

end Budgets

end ParcelPilot
