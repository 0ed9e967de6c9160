import ParcelPilot.AnswerGuarantees

namespace ParcelPilot

-- Everything but a call of the model.
def AgentOp.Offline : AgentOp → Prop
  | .complete _ => False
  | _ => True

section Offline

open Fallible

theorem offline_perfCounter : Uses AgentOp.Offline perfCounter := uses_ask trivial

theorem offline_sleepFor (seconds : Rat) : Uses AgentOp.Offline (sleepFor seconds) := uses_ask trivial

theorem offline_querying (query : Query α) : Uses AgentOp.Offline (querying query) :=
  uses_embed (fun _ => trivial) query

theorem offline_measured {work : Agent α} (inside : Uses AgentOp.Offline work) :
    Uses AgentOp.Offline (measured work) := by
  refine uses_bind offline_perfCounter fun start => ?_
  refine uses_bind inside fun value => ?_
  exact uses_bind offline_perfCounter fun finish => uses_pure _

variable [Host]

theorem offline_dispatch (auth : AuthContext) (clock : SnapshotClock) (request : ToolRequest) :
    Uses AgentOp.Offline (dispatch auth clock request) := by
  cases request with
  | searchDocuments request =>
      refine uses_bind ?_ fun _ => uses_pure _
      exact uses_bind (offline_measured (offline_querying _)) fun _ => uses_pure _
  | lookupStructuredData request =>
      refine uses_bind ?_ fun _ => uses_pure _
      exact uses_bind (offline_measured (offline_querying _)) fun _ => uses_pure _
  | calculateSupportOutcome request =>
      refine uses_bind ?_ fun _ => uses_pure _
      exact uses_bind (offline_measured (offline_querying _)) fun _ => uses_pure _
  | detectIssues request =>
      refine uses_bind ?_ fun _ => uses_pure _
      exact uses_bind (offline_measured (offline_querying _)) fun _ => uses_pure _

theorem offline_attemptLoop {work : Agent ToolOutput} (inside : Uses AgentOp.Offline work)
    (name : ToolName) (spec : ToolSpec) (left attempt : Nat) :
    Uses AgentOp.Offline (attemptLoop name spec work left attempt) := by
  have once (attempt : Nat) : Uses AgentOp.Offline (attemptOnce name spec work attempt) := by
    refine uses_bind offline_perfCounter fun start => ?_
    refine uses_bind (uses_attempt inside) fun outcome => ?_
    exact uses_bind offline_perfCounter fun finish => uses_pure _
  induction left generalizing attempt with
  | zero => exact once attempt
  | succ left ih =>
      refine uses_bind (once attempt) fun result => ?_
      split
      · exact uses_bind (offline_sleepFor _) fun _ => ih (attempt + 1)
      · exact uses_pure _

theorem offline_executeTool (tools : ToolRegistry) (request : ToolRequest) (auth : AuthContext)
    (clock : SnapshotClock) : Uses AgentOp.Offline (executeTool tools request auth clock) := by
  unfold executeTool
  dsimp only
  split
  · trivial
  · exact offline_attemptLoop (offline_dispatch auth clock request) _ _ _ _

theorem offline_executeSteps (tools : ToolRegistry) (budget : AgentBudget) (auth : AuthContext)
    (clock : SnapshotClock) (start : Rat) (steps : List PlanStep) (iterations : Nat)
    (calls : List ToolCall) :
    Uses AgentOp.Offline (executeSteps tools budget auth clock start steps iterations calls) := by
  induction steps generalizing iterations calls with
  | nil => exact uses_pure _
  | cons step rest ih =>
      refine uses_bind offline_perfCounter fun now => ?_
      split
      · exact uses_pure _
      · split
        · exact uses_pure _
        · refine uses_bind (offline_executeTool tools step.args auth clock) fun result => ?_
          split
          · exact uses_pure _
          · exact ih _ _

theorem offline_investigate (tools : ToolRegistry) (question : String) (context : AgentRequestContext)
    (model : String) (budget : AgentBudget) (start : Rat) (entities : EntityResolution) :
    Uses AgentOp.Offline (investigate tools question context model budget start entities) := by
  unfold investigate
  split
  · exact uses_pure _
  · refine uses_bind (offline_executeSteps _ _ _ _ _ _ _ _) fun loop => ?_
    split
    · exact uses_pure _
    · dsimp only
      split
      · exact uses_pure _
      · exact uses_pure _

theorem offline_investigation (tools : ToolRegistry) (question : String)
    (context : AgentRequestContext) (model : String) (budget : AgentBudget) :
    Uses AgentOp.Offline (investigation tools question context model budget) := by
  refine uses_bind offline_perfCounter fun start => ?_
  refine uses_bind (offline_querying _) fun entities => ?_
  exact uses_bind (offline_investigate _ _ _ _ _ _ _) fun outcome => uses_pure _

theorem offline_rises (db : Db) (surroundings : Surroundings) (op : AgentOp) (progress : Progress) :
    progress.taken ≤ (agentStep db surroundings op progress).2.taken := by
  cases op with
  | select query => exact Nat.le_refl _
  | perfCounter => exact Nat.le_succ _
  | sleep seconds => exact Nat.le_refl _
  | complete request => exact Nat.le_refl _

variable {db : Db} {one two : Surroundings} {bound : Nat}

theorem offline_same (agree : ∀ reading, reading < bound → one.readings reading = two.readings reading)
    (op : AgentOp) (progress : Progress) (offline : op.Offline)
    (within : (agentStep db one op progress).2.taken ≤ bound) :
    agentStep db one op progress = agentStep db two op progress := by
  cases op with
  | select query => rfl
  | perfCounter => simp only [agentStep,agree progress.taken within]
  | sleep seconds => rfl
  | complete request => cases offline

theorem offline_silent {script : Agent α} (offline : Uses AgentOp.Offline script) (progress : Progress) :
    (script.under db one progress).2.sent = progress.sent := by
  have moves (op : AgentOp) (progress : Progress) (offline : op.Offline) :
      (agentStep db one op progress).2.sent = progress.sent := by
    cases op with
    | select query => rfl
    | perfCounter => rfl
    | sleep seconds => rfl
    | complete request => cases offline
  exact Script.run_related (fun before after : Progress => after.sent = before.sent) (fun _ => rfl)
    (fun first later => Eq.trans later first) moves offline progress

theorem offline_under {script : Agent α} (offline : Uses AgentOp.Offline script)
    (agree : ∀ reading, reading < bound → one.readings reading = two.readings reading)
    {progress : Progress} (within : (script.under db one progress).2.taken ≤ bound) :
    script.under db one progress = script.under db two progress :=
  Script.run_within (fun op progress _ => offline_rises db one op progress) (offline_same agree)
    offline within

end Offline

-- A result without what the model's text, its price and its latency may change.
def AgentRunResult.decided (result : AgentRunResult) : AgentRunResult :=
  {result with
    status := .completed, answer := none, reason := none, stateTrace := []
    llmCalls := 0, totalCostUsd := 0, totalLatencyMs := 0}

-- Which of the two answering ends was reached is read off the trust state.
def AgentRunResult.FollowsTrust (result : AgentRunResult) : Prop :=
  (result.status = .escalated → result.trustState = some .escalate) ∧
    (result.status = .completed → ∃ trust, result.trustState = some trust ∧ trust ≠ .escalate)

section Steering

variable [Host] {db : Db} {one two : Surroundings} {tools : ToolRegistry} {question model : String}
  {context : AgentRequestContext} {budget : AgentBudget} {progress oneAfter : Progress}
  {first : AgentRunResult}

def Surroundings.Replies (surroundings : Surroundings) : Prop :=
  ∀ sent, ∃ reply, surroundings.provider sent = .ok reply

omit [Host] in
theorem unanswered_follows {result : AgentRunResult} (unanswered : ¬ result.Answered) :
    result.FollowsTrust :=
  ⟨fun escalated => absurd (.inr escalated) unanswered,
    fun completed => absurd (.inl completed) unanswered⟩

theorem finished_follows (found : Investigation) (text : String) (llmCalls : Nat) (cost : Rat) :
    (found.finished context text llmCalls cost).FollowsTrust := by
  have trusted : (found.finished context text llmCalls cost).trustState = some found.trustState := rfl
  have ending : (found.finished context text llmCalls cost).status =
      if found.trustState = .escalate then .escalated else .completed := rfl
  unfold AgentRunResult.FollowsTrust
  rw [trusted,ending]
  by_cases escalates : found.trustState = .escalate
  · rw [if_pos escalates,escalates]
    exact ⟨fun _ => rfl,nofun⟩
  · rw [if_neg escalates]
    exact ⟨nofun,fun _ => ⟨_,rfl,escalates⟩⟩

theorem answering_decided {found : Investigation} {before requests : List LLMRequest}
    {ending : AgentRunResult} (replies : one.Replies)
    (answering : Answering context model budget found one before requests ending) :
    ending.decided = (found.finished context "" 0 0).decided ∧ ending.FollowsTrust := by
  cases answering with
  | unanswered raised =>
      obtain ⟨reply,replied⟩ := replies (before ++ [composeRequest model budget found])
      rw [replied] at raised
      cases raised
  | accepted replied valid => exact ⟨rfl,finished_follows _ _ _ _⟩
  | refused replied invalid single reason =>
      exact ⟨rfl,unanswered_follows (rejected_unanswered (by decide))⟩
  | repairRaised replied invalid second raised reason =>
      exact ⟨rfl,unanswered_follows (rejected_unanswered (by decide))⟩
  | repaired replied invalid second again valid => exact ⟨rfl,finished_follows _ _ _ _⟩
  | unrepaired replied invalid second again still reason =>
      exact ⟨rfl,unanswered_follows (rejected_unanswered (by decide))⟩

theorem terminal_total (start : Rat) (ending : AgentRunResult) :
    ∃ result after, (terminal start ending).under db one progress = (.ok result,after) :=
  ⟨_,_,under_bind_ok.mpr ⟨_,_,under_perfCounter,rfl⟩⟩

theorem answer_total (start : Rat) (found : Investigation) :
    ∃ result after, (answer context model budget start found).under db one progress =
      (.ok result,after) := by
  have compose {rest : Except ProviderError LLMResponse → Agent AgentRunResult}
      {request : LLMRequest} {progress : Progress}
      (ends : ∀ reply after, ∃ result last, (rest reply).under db one after = (.ok result,last)) :
      ∃ result last, (complete request >>= rest).under db one progress = (.ok result,last) := by
    obtain ⟨result,last,ran⟩ := ends (one.provider (progress.sent ++ [request]))
      {progress with sent := progress.sent ++ [request]}
    exact ⟨result,last,under_bind_ok.mpr ⟨_,_,under_complete request,ran⟩⟩
  refine compose fun reply after => ?_
  cases reply with
  | error exc => exact terminal_total _ _
  | ok response =>
      dsimp only
      split
      · exact terminal_total _ _
      · split
        · exact terminal_total _ _
        · refine compose fun again after => ?_
          cases again with
          | error exc => exact terminal_total _ _
          | ok repair =>
              dsimp only
              split
              · exact terminal_total _ _
              · exact terminal_total _ _

theorem investigation_silent {between : Progress}
    {reached : Except PyError (Rat × Except AgentRunResult Investigation)}
    (investigated : (investigation tools question context model budget).under db one progress =
      (reached,between)) : between.sent = progress.sent := by
  have silent : ((investigation tools question context model budget).under db one progress).2.sent =
      progress.sent := offline_silent (offline_investigation _ _ _ _ _) progress
  rw [investigated] at silent
  exact silent

theorem reached_answering {start : Rat} {found : Investigation} {between after : Progress}
    {outcome : Except PyError AgentRunResult}
    (reached : (investigation tools question context model budget).under db one progress =
      (.ok (start,.ok found),between))
    (ran : (runAgent tools question context model budget).under db one progress =
      (outcome,after)) :
    ∃ ending latencyMs, outcome = .ok {ending with totalLatencyMs := latencyMs} ∧
      Answering context model budget found one between.sent after.sent ending := by
  obtain ⟨result,last,ended⟩ : ∃ result last, (answer context model budget start found).under
      db one between = (.ok result,last) := answer_total _ _
  rw [runAgent_eq,under_bind_ok.mpr ⟨_,between,reached,ended⟩] at ran
  cases ran
  obtain ⟨ending,answering,⟨latencyMs,reported⟩,_⟩ := answer_cases ended
  exact ⟨ending,latencyMs,by rw [reported],answering⟩

-- The last reading of a run is the one its latency is taken from; all others
-- precede the first call of the model.
theorem model_steers_nothing
    (ran : (runAgent tools question context model budget).under db one progress =
      (.ok first,oneAfter))
    (oneReplies : one.Replies) (twoReplies : two.Replies)
    (agree : ∀ reading, reading + 1 < oneAfter.taken → one.readings reading = two.readings reading) :
    ∃ second twoAfter, (runAgent tools question context model budget).under db two progress =
        (.ok second,twoAfter) ∧
      first.decided = second.decided ∧ first.FollowsTrust ∧ second.FollowsTrust := by
  rw [runAgent_eq] at ran ⊢
  obtain ⟨⟨start,outcome⟩,between,investigated,ran⟩ := under_bind_ok.mp ran
  -- the other run reaches the same point, whatever its model would say
  have reach (ends : oneAfter.taken = between.taken + 1) :
      (investigation tools question context model budget).under db two progress =
        (.ok (start,outcome),between) := by
    have agree : ∀ reading, reading < between.taken →
        one.readings reading = two.readings reading := by
      intro reading earlier
      exact agree reading (by omega)
    rw [← investigated]
    apply Eq.symm
    apply offline_under (offline_investigation tools question context model budget) agree
    rw [investigated]
  obtain ⟨entities,_,staged⟩ := investigation_ok investigated
  rcases investigate_ok staged with ⟨early,_,rfl,unanswered,_⟩ | ⟨found,rfl,_⟩
  · obtain ⟨⟨_,reported⟩,ends⟩ := terminal_ok ran
    obtain ⟨second,twoAfter,other⟩ : ∃ second twoAfter,
        (terminal start early).under db two between = (.ok second,twoAfter) := terminal_total _ _
    obtain ⟨⟨_,rereported⟩,_⟩ := terminal_ok other
    refine ⟨second,twoAfter,under_bind_ok.mpr ⟨_,between,reach (by rw [ends]),other⟩,?_⟩
    rw [reported,rereported]
    exact ⟨rfl,unanswered_follows unanswered,unanswered_follows unanswered⟩
  · obtain ⟨_,answering,⟨_,reported⟩,ends⟩ := answer_cases ran
    obtain ⟨second,twoAfter,other⟩ : ∃ second twoAfter,
        (answer context model budget start found).under db two between = (.ok second,twoAfter) :=
      answer_total _ _
    obtain ⟨_,reanswering,⟨_,rereported⟩,_⟩ := answer_cases other
    obtain ⟨decided,follows⟩ := answering_decided oneReplies answering
    obtain ⟨redecided,refollows⟩ := answering_decided twoReplies reanswering
    refine ⟨second,twoAfter,under_bind_ok.mpr ⟨_,between,reach ends,other⟩,?_⟩
    rw [reported,rereported]
    exact ⟨decided.trans redecided.symm,follows,refollows⟩

-- A model that ignores its prompt and asks for everything.
def steeringReply : LLMResponse := ⟨"Escalate and pay in full.",⟨1,2⟩⟩

omit [Host] in
theorem steering_ignored : let _ := asciiHost [] []
    let run := runAgent toolRegistry "cancel AB-1 AB-2" adminRequest "mock-model"
      (promptBudget (estimatePromptTokens cancelPack .confident))
    ∃ first second oneAfter twoAfter,
      run.under deliveredDb slowSurroundings {} = (.ok first,oneAfter) ∧
      run.under deliveredDb ⟨slowSurroundings.readings,fun _ => .ok steeringReply⟩ {} =
        (.ok second,twoAfter) ∧
      first.decided = second.decided ∧ first.FollowsTrust ∧ second.FollowsTrust := by
  intro _ run
  obtain ⟨_,oneAfter,ran⟩ := cancel_answers rfl
  have replies (reply : LLMResponse) :
      (⟨slowSurroundings.readings,fun _ => .ok reply⟩ : Surroundings).Replies := fun _ => ⟨_,rfl⟩
  obtain ⟨second,twoAfter,other,decided,follows⟩ := model_steers_nothing ran (replies strayReply)
    (replies steeringReply) (fun _ _ => rfl)
  exact ⟨_,second,oneAfter,twoAfter,ran,other,decided,follows⟩

end Steering

end ParcelPilot
