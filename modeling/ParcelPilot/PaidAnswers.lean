import ParcelPilot.Gathering
import ParcelPilot.Providers

namespace ParcelPilot

-- The paid provider behind its gateway, the world it starts in, and a clock.
structure Service (σ : Type) where
  provider : AnthropicProvider σ
  fallbacks : List (Candidate σ)
  state : σ
  readings : Nat → Rat

section PaidAnswers

variable [Host] {σ : Type}

def Service.gateway (service : Service σ) (model : String) : ParcelPilotLLMGateway σ :=
  paidGateway service.provider model service.fallbacks

def Service.surroundings (service : Service σ) (model : String) : Surroundings :=
  ⟨service.readings,serving (service.gateway model).complete service.state⟩

-- `run_agent` by a table of its own.
def runAgentPriced (pricing : PricingTable) (tools : ToolRegistry) (question : String)
    (context : AgentRequestContext) (model : String) (budget : AgentBudget) : Agent AgentRunResult :=
  gathering tools question context budget >>=
    conclude (pricing.estimateWorstCaseCostUsd model) question context model budget

variable {service : Service σ} {db : Db} {tools : ToolRegistry} {question model : String}
  {context : AgentRequestContext} {budget : AgentBudget} {surroundings : Surroundings}
  {progress after : Progress} {result : AgentRunResult} {found : Investigation}

theorem runAgentPriced_json : runAgentPriced pricingJson tools question context model budget =
    runAgent tools question context model budget := by
  unfold runAgentPriced
  rw [pricingJson_gate,runAgent_gathered]

theorem surroundings_concat (earlier : List LLMRequest) (last : LLMRequest) :
    (service.surroundings model).provider (earlier ++ [last]) =
      ((service.gateway model).complete last
        (stateAfter (service.gateway model).complete service.state earlier)).1 :=
  serving_concat _ _ earlier last

-- A call the gate lets through and the upstream answers comes back.
def Returned (service : Service σ) (model : String) (budget : AgentBudget) : Prop :=
  ∀ (request : LLMRequest) (state : σ), request.model = model →
    checkCostBudget (service.provider.pricing.estimateWorstCaseCostUsd model request.tokens
      request.maxOutputTokens) budget = none →
    Paid service.provider.upstream request state →
    ∃ response, (service.provider.complete request state).1 = .ok response ∧
      ((service.gateway model).complete request state).1 = .ok response

-- A run whose last call was answered upstream does not fail.
def Unfailed (service : Service σ) (tools : ToolRegistry) (question : String)
    (context : AgentRequestContext) (model : String) (budget : AgentBudget) (db : Db) : Prop :=
  ∀ result after,
    (runAgentPriced service.provider.pricing tools question context model budget).under db
      (service.surroundings model) {} = (.ok result,after) →
    ∀ earlier last, after.sent = earlier ++ [last] →
      Paid service.provider.upstream last
        (stateAfter (service.gateway model).complete service.state earlier) →
      result.status ≠ .failed

-- What is nothing to gate on is nothing to account for.
def TreatedAlike (pricing : PricingTable) (model : String) : Prop :=
  ∀ inputTokens outputTokens,
    pricing.estimateWorstCaseCostUsd model inputTokens outputTokens = none →
    ∃ cost, pricing.estimateCost model inputTokens outputTokens = .ok cost

structure PaidAnswersKept (service : Service σ) (tools : ToolRegistry) (question : String)
    (context : AgentRequestContext) (model : String) (budget : AgentBudget) (db : Db) : Prop where
  returned : Returned service model budget
  unfailed : Unfailed service tools question context model budget db
  alike : TreatedAlike service.provider.pricing model

structure LetThrough (service : Service σ) (tools : ToolRegistry) (question : String)
    (context : AgentRequestContext) (model : String) (budget : AgentBudget) (db : Db)
    (found : Investigation) : Prop where
  gathered : ∃ start entities between, (gathering tools question context budget).under db
    (service.surroundings model) {} =
      (.ok ⟨start,entities,.ok (found.plan,.ok found.calls)⟩,between) ∧
    found.pack = gatheredPack question context entities found.plan found.calls
  passed : assessPriced (service.provider.pricing.estimateWorstCaseCostUsd model) context budget
    found.plan found.pack found.calls = .ok found.trustState

theorem returned_priced (priced : service.provider.pricing.Priced model) :
    Returned service model budget := by
  intro request state named _ paid
  have entry : service.provider.pricing.Priced request.model := by rwa [named]
  obtain ⟨response,returned⟩ : ∃ response, (service.provider.complete request state).1 =
      .ok response := complete_priced entry paid
  exact ⟨response,returned,gateway_returns named returned⟩

theorem gateway_unpriced {request : LLMRequest} {state : σ} (named : request.model = model)
    (unpriced : ¬ service.provider.pricing.Priced model)
    (paid : Paid service.provider.upstream request state) :
    ∃ exc, ((service.gateway model).complete request state).1 = .error exc := by
  have missing : ¬ service.provider.pricing.Priced request.model := by rwa [named]
  obtain ⟨key,raised⟩ : ∃ key, (service.provider.complete request state).1 =
      .error (keyError key) := complete_unpriced missing paid
  exact ⟨_,gateway_stops named raised (keyError_permanent key)⟩

theorem alike_priced {pricing : PricingTable} (priced : pricing.Priced model) :
    TreatedAlike pricing model := fun _ _ _ => estimateCost_priced priced

theorem answering_failed {before sent : List LLMRequest} {ending : AgentRunResult}
    (answering : Answering context model budget found surroundings before sent ending)
    (failed : ending.status = .failed) :
    ∃ earlier last exc, sent = earlier ++ [last] ∧ last.model = model ∧
      surroundings.provider (earlier ++ [last]) = .error exc := by
  have answers (text : String) (llmCalls : Nat) (cost : Rat) :
      (found.finished context text llmCalls cost).status ≠ .failed :=
    (finished_answered found text llmCalls cost).status_ne (by simp)
  cases answering with
  | unanswered raised => exact ⟨before,_,_,rfl,rfl,raised⟩
  | accepted replied valid => exact absurd failed (answers _ _ _)
  | refused replied invalid single reason => cases failed
  | repairRaised replied invalid second raised reason => exact ⟨_,_,_,rfl,rfl,raised⟩
  | repaired replied invalid second again valid => exact absurd failed (answers _ _ _)
  | unrepaired replied invalid second again still reason => cases failed

theorem answering_raised {before sent : List LLMRequest} {ending : AgentRunResult}
    {exc : ProviderError}
    (answering : Answering context model budget found surroundings before sent ending)
    (raised : surroundings.provider (before ++ [composeRequest model budget found]) = .error exc) :
    sent = before ++ [composeRequest model budget found] ∧ ending.status = .failed := by
  cases answering with
  | unanswered same => exact ⟨rfl,rfl⟩
  | accepted replied => cases raised.symm.trans replied
  | refused replied => cases raised.symm.trans replied
  | repairRaised replied => cases raised.symm.trans replied
  | repaired replied => cases raised.symm.trans replied
  | unrepaired replied => cases raised.symm.trans replied

theorem unfailed_priced (priced : service.provider.pricing.Priced model) :
    Unfailed service tools question context model budget db := by
  intro result after ran earlier last sent paid failed
  obtain ⟨gathered,between,reached,ended⟩ := under_bind_ok.mp ran
  have silent : between.sent = [] := gathering_silent reached
  have unsent (same : after = {between with taken := between.taken + 1}) : False := by
    rw [same,silent] at sent
    simp at sent
  unfold conclude at ended
  split at ended
  · exact unsent (terminal_ok ended).2
  · exact unsent (terminal_ok ended).2
  · dsimp only at ended
    split at ended
    · exact unsent (terminal_ok ended).2
    · obtain ⟨ending,answering,⟨_,reported⟩,_⟩ := answer_cases ended
      rw [reported] at failed
      obtain ⟨first,final,exc,order,named,raised⟩ := answering_failed answering failed
      obtain ⟨rfl,same⟩ := List.append_inj' (sent.symm.trans order) rfl
      cases same
      rw [surroundings_concat] at raised
      have entry : service.provider.pricing.Priced last.model := by rwa [named]
      obtain ⟨response,returned⟩ : ∃ response, (service.provider.complete last
          (stateAfter (service.gateway model).complete service.state earlier)).1 = .ok response :=
        complete_priced entry paid
      cases raised.symm.trans (gateway_returns named returned)

theorem unpriced_fails (through : LetThrough service tools question context model budget db found)
    (paid : Paid service.provider.upstream (composeRequest model budget found) service.state)
    (unpriced : ¬ service.provider.pricing.Priced model) :
    ∃ result after,
      (runAgentPriced service.provider.pricing tools question context model budget).under db
        (service.surroundings model) {} = (.ok result,after) ∧
      after.sent = [composeRequest model budget found] ∧ result.status = .failed := by
  obtain ⟨start,entities,between,reached,packed⟩ := through.gathered
  have silent : between.sent = [] := gathering_silent reached
  have answers : conclude (service.provider.pricing.estimateWorstCaseCostUsd model) question context
      model budget ⟨start,entities,.ok (found.plan,.ok found.calls)⟩ =
        answer context model budget start found := by
    unfold conclude
    dsimp only
    rw [← packed,through.passed]
  obtain ⟨result,after,ended⟩ : ∃ result after, (answer context model budget start found).under db
      (service.surroundings model) between = (.ok result,after) := answer_total _ _
  obtain ⟨ending,answering,⟨_,reported⟩,_⟩ := answer_cases ended
  obtain ⟨exc,raised⟩ : ∃ exc, ((service.gateway model).complete (composeRequest model budget found)
      service.state).1 = .error exc := gateway_unpriced rfl unpriced paid
  rw [silent] at answering
  obtain ⟨sent,failed⟩ := answering_raised answering
    ((surroundings_concat [] _).trans raised)
  refine ⟨result,after,?_,sent,by rw [reported]; exact failed⟩
  exact under_bind_ok.mpr ⟨_,between,reached,by rw [answers]; exact ended⟩

theorem paid_answers_kept_iff
    (through : LetThrough service tools question context model budget db found)
    (paid : Paid service.provider.upstream (composeRequest model budget found) service.state) :
    PaidAnswersKept service tools question context model budget db ↔
      service.provider.pricing.Priced model := by
  constructor
  · intro kept
    by_contra unpriced
    obtain ⟨result,after,ran,sent,failed⟩ := unpriced_fails through paid unpriced
    exact kept.unfailed result after ran [] _ sent paid failed
  · intro priced
    exact ⟨returned_priced priced,unfailed_priced priced,alike_priced priced⟩

end PaidAnswers

-- The service as it is shipped; every call of it is answered at once.
def paidReply : Message := ⟨[.text "Both are delivered [SRC-07:orders:AB-9]."],100,20⟩

def readyUpstream : Upstream Unit := ⟨fun _ _ => (.ok paidReply,()),fun _ _ => ()⟩

def liveService [Host] : Service Unit :=
  ⟨⟨pricingJson,readyUpstream⟩,[⟨"mock",MockProvider.complete pricingJson,"mock-model"⟩],(),
    slowSurroundings.readings⟩

theorem ready_pays [Host] {request : LLMRequest} (retries : request.maxRetries = 2) :
    Paid readyUpstream request () := by
  refine ⟨paidReply,?_⟩
  unfold Upstream.call
  rw [retries]
  rfl

theorem cancel_gathered {budget : AgentBudget} {surroundings : Surroundings}
    (iterations : budget.maxIterations = 6) (wallClock : budget.maxWallClockSeconds = 30)
    (toolCalls : budget.maxToolCalls = 6)
    (clock : surroundings.readings = slowSurroundings.readings) : let _ := asciiHost [] []
    (gathering toolRegistry "cancel AB-1 AB-2" adminRequest budget).under deliveredDb surroundings {} =
      (.ok ⟨0,bothOrders,.ok (cancelPlan,.ok cancelCalls)⟩,cancelLoop.2) := by
  intro _
  have first : surroundings.readings 0 = 0 := by
    rw [clock]
    rfl
  refine under_bind_ok.mpr ⟨0,{taken := 1},by rw [under_perfCounter,first],?_⟩
  refine under_bind_ok.mpr ⟨bothOrders,{taken := 1},by rw [under_querying,cancel_resolved],?_⟩
  rw [cancel_prepared toolCalls]
  exact under_bind_ok.mpr ⟨_,_,cancel_looped_by iterations wallClock clock,rfl⟩

theorem cancel_through {tokens : Int} {model : String} : let _ := asciiHost [] []
    tokens = estimatePromptTokens cancelPack .confident →
    checkCostBudget (pricingJson.estimateWorstCaseCostUsd model tokens 1024) (exactBudget tokens) =
      none →
    LetThrough liveService toolRegistry "cancel AB-1 AB-2" adminRequest model (exactBudget tokens)
      deliveredDb cancelFound := by
  intro _ enough afforded
  refine ⟨⟨0,bothOrders,_,cancel_gathered rfl rfl rfl rfl,rfl⟩,?_⟩
  apply cancel_assessed
  · simp [exactBudget]
  · exact Int.le_of_eq enough.symm
  · rw [← enough]
    exact afforded

theorem sonnet_answer_kept : let _ := asciiHost [] []
    PaidAnswersKept liveService toolRegistry "cancel AB-1 AB-2" adminRequest "claude-sonnet-5"
      (exactBudget (estimatePromptTokens cancelPack .confident)) deliveredDb := by
  intro _
  have afforded : checkCostBudget (pricingJson.estimateWorstCaseCostUsd "claude-sonnet-5"
      (estimatePromptTokens cancelPack .confident) 1024)
        (exactBudget (estimatePromptTokens cancelPack .confident)) = none := by
    rw [pricingJson_gate,exact_priced]
    exact if_neg (Rat.not_lt.mpr Rat.le_refl)
  refine (paid_answers_kept_iff (cancel_through rfl afforded) (ready_pays rfl)).mpr ⟨3,15,?_⟩
  simp [liveService,pricingJson,rates]

theorem default_unpriced : ¬ pricingJson.Priced "claude-sonnet-4-5" := by
  rintro ⟨input,output,entry⟩
  simp [pricingJson,rates] at entry

-- The model a deployment starts with when none is configured.
theorem default_answer_lost : let _ := asciiHost [] []
    ∃ (budget : AgentBudget) (request : LLMRequest),
      request = composeRequest "claude-sonnet-4-5" budget cancelFound ∧
      LetThrough liveService toolRegistry "cancel AB-1 AB-2" adminRequest "claude-sonnet-4-5" budget
        deliveredDb cancelFound ∧
      Paid readyUpstream request () ∧
      (∃ exc, ((AnthropicProvider.mk pricingJson readyUpstream).complete request ()).1 =
        .error exc) ∧
      (∃ exc, ((buildDefaultProvider ⟨pricingJson,readyUpstream⟩ "claude-sonnet-4-5").complete
        request ()).1 = .error exc) ∧
      ∃ result after, (runAgent toolRegistry "cancel AB-1 AB-2" adminRequest "claude-sonnet-4-5"
        budget).under deliveredDb (liveService.surroundings "claude-sonnet-4-5") {} =
          (.ok result,after) ∧ after.sent = [request] ∧ result.status = .failed := by
  intro _
  generalize enough : ((estimatePromptTokens cancelPack .confident : Nat) : Int) = tokens
  have afforded : checkCostBudget (pricingJson.estimateWorstCaseCostUsd "claude-sonnet-4-5" tokens
      1024) (exactBudget tokens) = none := by
    rw [gate_unpriced default_unpriced]
    rfl
  have through := cancel_through enough.symm afforded
  have paid : Paid readyUpstream (composeRequest "claude-sonnet-4-5" (exactBudget tokens)
      cancelFound) () := ready_pays rfl
  obtain ⟨key,raised⟩ : ∃ key, ((AnthropicProvider.mk pricingJson readyUpstream).complete
      (composeRequest "claude-sonnet-4-5" (exactBudget tokens) cancelFound) ()).1 =
        .error (keyError key) := complete_unpriced default_unpriced paid
  refine ⟨exactBudget tokens,_,rfl,through,paid,⟨_,raised⟩,?_,?_⟩
  · exact ⟨_,gateway_stops rfl raised (keyError_permanent key)⟩
  · have lost := unpriced_fails through paid default_unpriced
    rw [← runAgentPriced_json]
    exact lost

end ParcelPilot
