import ParcelPilot.ModelBudgets

namespace ParcelPilot

-- What was found out before the model was asked to put it into words.
structure SameInvestigation (one two : AgentRunResult) : Prop where
  citations : one.citations = two.citations
  assumptions : one.assumptions = two.assumptions
  conflicts : one.conflicts = two.conflicts
  needsHumanReview : one.needsHumanReview = two.needsHumanReview
  plannedTools : one.plannedTools = two.plannedTools
  trustState : one.trustState = two.trustState
  toolTrace : one.toolTrace = two.toolTrace
  toolCalls : one.toolCalls = two.toolCalls

section Failures

variable [Host] {db : Db} {tools : ToolRegistry} {question model : String}
  {context : AgentRequestContext} {budget : AgentBudget} {surroundings : Surroundings}
  {progress between after : Progress} {found : Investigation} {result : AgentRunResult}

-- As any reply to the same pack would have carried it.
def KeepsInvestigation (found : Investigation) (context : AgentRequestContext)
    (result : AgentRunResult) : Prop :=
  ∀ text llmCalls cost, SameInvestigation result (found.finished context text llmCalls cost)

theorem prepare_steps {entities : EntityResolution} {plan : Plan}
    (prepared : prepare question context budget entities = .ok plan) : plan.steps ≠ [] := by
  unfold prepare at prepared
  dsimp only at prepared
  split at prepared
  · cases prepared
  · split at prepared
    · cases prepared
    · split at prepared
      · cases prepared
      · split at prepared
        · cases prepared
        · rename_i planned
          split at prepared
          · cases prepared
          · cases prepared
            simpa using planned

theorem investigate_planned {start : Rat} {entities : EntityResolution}
    (ran : (investigate tools question context model budget start entities).under db surroundings
      progress = (.ok (.ok found),after)) : found.plan.tools ≠ [] := by
  unfold investigate at ran
  split at ran
  · cases ran
  · rename_i plan prepared
    obtain ⟨loop,_,_,ran⟩ := under_bind_ok.mp ran
    split at ran
    · cases ran
    · dsimp only at ran
      split at ran
      · cases ran
      · cases ran
        intro none
        exact prepare_steps prepared (List.map_eq_nil_iff.mp none)

theorem rejected_keeps (status : AgentStatus) (reason : String) (last : AgentState)
    (llmCalls : Nat) (cost latencyMs : Rat) :
    KeepsInvestigation found context
      {found.rejected context status reason last llmCalls cost with totalLatencyMs := latencyMs} :=
  fun _ _ _ => ⟨rfl,rfl,rfl,rfl,rfl,rfl,rfl,rfl⟩

-- The exit of a composition leaves the plan out, and there was one.
theorem composeFailed_loses (planned : found.plan.tools ≠ []) (exc : ProviderError)
    (latencyMs : Rat) :
    ¬ KeepsInvestigation found context
      {found.composeFailed context exc with totalLatencyMs := latencyMs} := by
  intro keeps
  have tools : [] = found.plan.tools := (keeps "" 0 0).plannedTools
  exact planned tools.symm

theorem answering_kept_iff {before sent : List LLMRequest} {ending : AgentRunResult}
    {exc : ProviderError} (latencyMs : Rat) (planned : found.plan.tools ≠ [])
    (answering : Answering context model budget found surroundings before sent ending)
    (raised : surroundings.provider sent = .error exc) :
    ending.status = .failed ∧
      (KeepsInvestigation found context {ending with totalLatencyMs := latencyMs} ↔
        ∃ reply, surroundings.provider (before ++ [composeRequest model budget found]) =
          .ok reply) := by
  cases answering with
  | unanswered failed =>
      refine ⟨rfl,iff_of_false (composeFailed_loses planned _ latencyMs) ?_⟩
      intro replies
      obtain ⟨reply,replied⟩ := replies
      cases failed.symm.trans replied
  | accepted replied valid => cases raised.symm.trans replied
  | refused replied invalid single reason => cases raised.symm.trans replied
  | repairRaised replied invalid second failed reason =>
      exact ⟨rfl,iff_of_true (rejected_keeps _ _ _ _ _ latencyMs) ⟨_,replied⟩⟩
  | repaired replied invalid second again valid => cases raised.symm.trans again
  | unrepaired replied invalid second again still reason => cases raised.symm.trans again

theorem unanswered_bare {before sent : List LLMRequest} {ending : AgentRunResult}
    {exc : ProviderError}
    (answering : Answering context model budget found surroundings before sent ending)
    (raised : surroundings.provider (before ++ [composeRequest model budget found]) = .error exc) :
    sent = before ++ [composeRequest model budget found] ∧
      ending = found.composeFailed context exc := by
  cases answering with
  | unanswered failed =>
      cases raised.symm.trans failed
      exact ⟨rfl,rfl⟩
  | accepted replied valid => cases raised.symm.trans replied
  | refused replied invalid single reason => cases raised.symm.trans replied
  | repairRaised replied invalid second failed reason => cases raised.symm.trans replied
  | repaired replied invalid second again valid => cases raised.symm.trans replied
  | unrepaired replied invalid second again still reason => cases raised.symm.trans replied

-- A call was made and the last one raised: the investigation survives exactly
-- when this was the repair.
theorem failed_call_kept_iff {outcome : Except PyError AgentRunResult} {exc : ProviderError}
    (ran : (runAgent tools question context model budget).under db surroundings {} =
      (outcome,after))
    (called : after.sent ≠ []) (raised : surroundings.provider after.sent = .error exc) :
    ∃ start found between result,
      (investigation tools question context model budget).under db surroundings {} =
        (.ok (start,.ok found),between) ∧
      outcome = .ok result ∧ result.status = .failed ∧
      (KeepsInvestigation found context result ↔
        ∃ reply, surroundings.provider [composeRequest model budget found] = .ok reply) := by
  rcases reached : (investigation tools question context model budget).under db surroundings {} with
    ⟨error | ⟨start,early | found⟩,between⟩
  · exact absurd (early_sends_nothing reached (by simp) ran) called
  · exact absurd (early_sends_nothing reached (by simp) ran) called
  · have silent : between.sent = [] := investigation_silent reached
    obtain ⟨_,_,investigated⟩ := investigation_ok reached
    obtain ⟨ending,latencyMs,returned,answering⟩ := reached_answering reached ran
    obtain ⟨failed,kept⟩ :=
      answering_kept_iff latencyMs (investigate_planned investigated) answering raised
    rw [silent] at kept
    exact ⟨start,found,between,_,rfl,returned,failed,kept⟩

-- The providers are out of reach after so many calls.
def unservedAfter (calls : Nat) : Surroundings :=
  ⟨slowSurroundings.readings,fun sent =>
    if sent.length ≤ calls then .ok unsupportedReply
    else .error ⟨"AllProvidersFailedError","every configured LLM provider failed: mock: down"⟩⟩

omit [Host] in
theorem unserved_replied {calls : Nat} {sent : List LLMRequest} {reply : LLMResponse}
    (replied : (unservedAfter calls).provider sent = .ok reply) : reply = unsupportedReply := by
  unfold unservedAfter at replied
  dsimp only at replied
  split at replied
  · cases replied
    rfl
  · cases replied

omit [Host] in
theorem unserved_raised {calls : Nat} {sent : List LLMRequest} {exc : ProviderError}
    (raised : (unservedAfter calls).provider sent = .error exc) : ¬ sent.length ≤ calls := by
  unfold unservedAfter at raised
  dsimp only at raised
  split at raised
  · cases raised
  · assumption

omit [Host] in
theorem unserved_refuses {calls : Nat} {sent : List LLMRequest} (late : calls < sent.length) :
    ∃ exc, (unservedAfter calls).provider sent = .error exc :=
  ⟨_,if_neg (Nat.not_le.mpr late)⟩

omit [Host] in
theorem unserved_reached (calls : Nat) : let _ := asciiHost [] []
    ∃ between, between.sent = [] ∧ (investigation toolRegistry "cancel AB-1 AB-2" adminRequest
      "mock-model" (promptBudget (estimatePromptTokens cancelPack .confident))).under deliveredDb
        (unservedAfter calls) {} = (.ok (0,.ok cancelFound),between) := by
  intro _
  have assessed : assess adminRequest "mock-model"
      (promptBudget (estimatePromptTokens cancelPack .confident)) cancelPlan cancelPack cancelCalls =
        .ok .confident := by
    apply cancel_assessed
    · rw [promptBudget_calls]
      decide
    · exact Int.le_refl _
    · exact free_afforded (by decide +kernel : (0 : Rat) ≤ 1 / 2)
  have looped := @cancel_looped_by (promptBudget (estimatePromptTokens cancelPack .confident))
    (unservedAfter calls) rfl rfl rfl
  have investigated := investigate_reached (cancel_prepared rfl) looped assessed
  have reached := @investigation_reached _ _ _ _ _ _ _ (unservedAfter calls) {} _ _ _
    cancel_resolved investigated
  exact ⟨_,investigation_silent reached,reached⟩

omit [Host] in
theorem failed_composition_bare : let _ := asciiHost [] []
    ∃ result after exc, (runAgent toolRegistry "cancel AB-1 AB-2" adminRequest "mock-model"
        (promptBudget (estimatePromptTokens cancelPack .confident))).under deliveredDb
          (unservedAfter 0) {} = (.ok result,after) ∧
      (unservedAfter 0).provider after.sent = .error exc ∧
      ¬ KeepsInvestigation cancelFound adminRequest result ∧
      result.citations = [] ∧ cancelFound.pack.citations ≠ [] := by
  intro _
  obtain ⟨between,silent,reached⟩ := unserved_reached 0
  rcases ran : (runAgent toolRegistry "cancel AB-1 AB-2" adminRequest "mock-model"
    (promptBudget (estimatePromptTokens cancelPack .confident))).under deliveredDb
      (unservedAfter 0) {} with ⟨outcome,after⟩
  obtain ⟨ending,latencyMs,returned,answering⟩ := reached_answering reached ran
  obtain ⟨exc,raised⟩ : ∃ exc, (unservedAfter 0).provider (between.sent ++ [composeRequest
      "mock-model" (promptBudget (estimatePromptTokens cancelPack .confident)) cancelFound]) =
        .error exc := unserved_refuses (by rw [List.length_append]; exact Nat.succ_pos _)
  obtain ⟨sent,bare⟩ := unanswered_bare answering raised
  rw [← sent] at raised
  rw [returned,bare]
  have planned : cancelFound.plan.tools ≠ [] := by decide +kernel
  have cited : cancelFound.pack.citations ≠ [] := by decide +kernel
  exact ⟨_,after,exc,rfl,raised,composeFailed_loses planned exc latencyMs,rfl,cited⟩

omit [Host] in
theorem unserved_repairs {between : Progress} {sent : List LLMRequest} {ending : AgentRunResult} :
    let _ := asciiHost [] []
    ∀ budget : AgentBudget, ¬ budget.maxLlmCalls < 2 → between.sent = [] →
    Answering adminRequest "mock-model" budget cancelFound (unservedAfter 1) between.sent sent ending →
    1 < sent.length := by
  intro _ budget second silent answering
  rw [silent] at answering
  cases answering with
  | unanswered raised => exact absurd (Nat.le_refl _) (unserved_raised raised)
  | accepted replied valid =>
      rw [unserved_replied replied] at valid
      cases unsupported_refused.symm.trans valid
  | refused replied invalid single reason => exact absurd single second
  | repairRaised replied invalid second raised reason => exact Nat.le_refl _
  | repaired replied invalid second again valid => exact Nat.le_refl _
  | unrepaired replied invalid second again still reason => exact Nat.le_refl _

-- Out of reach from the second call on: the repair is what fails.
omit [Host] in
theorem failed_repair_kept : let _ := asciiHost [] []
    ∃ outcome after exc start found between result,
      (runAgent toolRegistry "cancel AB-1 AB-2" adminRequest "mock-model"
        (promptBudget (estimatePromptTokens cancelPack .confident))).under deliveredDb
          (unservedAfter 1) {} = (outcome,after) ∧ after.sent ≠ [] ∧
      (unservedAfter 1).provider after.sent = .error exc ∧
      (investigation toolRegistry "cancel AB-1 AB-2" adminRequest "mock-model"
        (promptBudget (estimatePromptTokens cancelPack .confident))).under deliveredDb
          (unservedAfter 1) {} = (.ok (start,.ok found),between) ∧
      outcome = .ok result ∧ result.status = .failed ∧
      (KeepsInvestigation found adminRequest result ↔
        ∃ reply, (unservedAfter 1).provider [composeRequest "mock-model"
          (promptBudget (estimatePromptTokens cancelPack .confident)) found] = .ok reply) := by
  intro _
  obtain ⟨before,silent,opened⟩ := unserved_reached 1
  rcases ran : (runAgent toolRegistry "cancel AB-1 AB-2" adminRequest "mock-model"
    (promptBudget (estimatePromptTokens cancelPack .confident))).under deliveredDb
      (unservedAfter 1) {} with ⟨outcome,after⟩
  obtain ⟨_,_,_,answering⟩ := reached_answering opened ran
  have twice : 1 < after.sent.length :=
    unserved_repairs _ (by rw [promptBudget_calls]; decide) silent answering
  have called : after.sent ≠ [] := List.ne_nil_of_length_pos (by omega)
  obtain ⟨exc,raised⟩ : ∃ exc, (unservedAfter 1).provider after.sent = .error exc :=
    unserved_refuses twice
  obtain ⟨start,found,between,result,reached,returned,failed,kept⟩ :=
    failed_call_kept_iff ran called raised
  exact ⟨outcome,after,exc,start,found,between,result,rfl,called,raised,reached,returned,failed,
    kept⟩

end Failures

end ParcelPilot
