import ParcelPilot.ModelBudgets

namespace ParcelPilot

-- app/llm/pricing.py: what an entry of the file is read for, and the entries
-- by their models
structure ModelRate where
  inputPerMillionUsd : Option Rat
  outputPerMillionUsd : Option Rat
deriving DecidableEq,Repr

def PricingTable : Type := String → Option ModelRate

-- The file as it is shipped.
def pricingJson : PricingTable := fun model =>
  (rates model).map fun rate => ⟨some rate.1,some rate.2⟩

-- Both rates are there.
def PricingTable.Priced (pricing : PricingTable) (model : String) : Prop :=
  ∃ input output, pricing model = some ⟨some input,some output⟩

-- app/llm/error_classification.py
def retryableExceptionNames : List String :=
  ["APIConnectionError","APITimeoutError","TimeoutError","ConnectionError","RateLimitError",
    "InternalServerError","OverloadedError","ServiceUnavailableError"]

def isRetryableProviderError (exc : ProviderError) : Bool :=
  retryableExceptionNames.contains exc.name

-- What the SDK's `messages.create` is given, and what it gives back.
structure CreateArgs where
  model : String
  maxTokens : Int
  messages : List LLMMessage
  timeout : Rat
  temperature : Rat
  system : Option String
deriving DecidableEq,Repr

inductive ContentBlock where
  | text (text : String)
  | other
deriving DecidableEq,Repr

structure Message where
  content : List ContentBlock
  inputTokens : Int
  outputTokens : Int
deriving DecidableEq,Repr

-- The service behind a provider, and the wait after an attempt; both move the
-- world outside on.
structure Upstream (σ : Type) where
  create : CreateArgs → σ → Except ProviderError Message × σ
  sleep : Int → σ → σ

abbrev Provider (σ : Type) := LLMRequest → σ → Except ProviderError LLMResponse × σ

-- app/llm/anthropic_provider.py
structure AnthropicProvider (σ : Type) where
  pricing : PricingTable
  upstream : Upstream σ

def createArgs (request : LLMRequest) : CreateArgs where
  model := request.model
  maxTokens := request.maxOutputTokens
  messages := request.messages.filter (·.role != "system")
  timeout := request.timeoutSeconds
  temperature := request.temperature
  system := (request.messages.find? (·.role == "system")).map (·.content)

-- The attempts that are left; none at all leaves the assertion.
def attempts (upstream : Upstream σ) (args : CreateArgs) (maxRetries : Int) :
    Nat → Int → σ → Except ProviderError Message × σ
  | 0,_,state => (.error ⟨"AssertionError",""⟩,state)
  | left + 1,attempt,state =>
      match upstream.create args state with
      | (.ok response,after) => (.ok response,after)
      | (.error exc,after) =>
          if attempt = maxRetries || !isRetryableProviderError exc then (.error exc,after)
          else attempts upstream args maxRetries left (attempt + 1) (upstream.sleep attempt after)

def Upstream.call (upstream : Upstream σ) (request : LLMRequest) (state : σ) :
    Except ProviderError Message × σ :=
  attempts upstream (createArgs request) request.maxRetries (request.maxRetries + 1).toNat 0 state

def Message.text (message : Message) : String :=
  Py.join "" (message.content.filterMap fun block =>
    match block with
    | .text text => some text
    | .other => none)

section Pricing

variable [Host]

def keyError (key : String) : ProviderError := ⟨"KeyError",Host.reprStr key⟩

def PricingTable.estimateCost (pricing : PricingTable) (model : String)
    (usageInputTokens usageOutputTokens : Int) : Except ProviderError CostEstimate :=
  match pricing model with
  | none => .error
      (keyError ("no pricing configured for model " ++ Host.reprStr model ++ " in pricing.json"))
  | some ⟨none,_⟩ => .error (keyError "input_per_million_usd")
  | some ⟨some _,none⟩ => .error (keyError "output_per_million_usd")
  | some ⟨some input,some output⟩ =>
      .ok ⟨usageInputTokens / 1000000 * input,usageOutputTokens / 1000000 * output⟩

-- app/agent/budget_enforcement.py: the table raises nothing but `KeyError`.
def PricingTable.estimateWorstCaseCostUsd (pricing : PricingTable) (model : String)
    (inputTokens maxOutputTokens : Int) : Option Rat :=
  match pricing.estimateCost model inputTokens maxOutputTokens with
  | .error _ => none
  | .ok cost => some cost.totalCostUsd

-- The reply is paid for before its price is looked up.
def AnthropicProvider.complete (provider : AnthropicProvider σ) : Provider σ := fun request state =>
  match provider.upstream.call request state with
  | (.error exc,after) => (.error exc,after)
  | (.ok response,after) =>
      match provider.pricing.estimateCost request.model response.inputTokens
          response.outputTokens with
      | .error exc => (.error exc,after)
      | .ok cost => (.ok ⟨response.text,cost⟩,after)

-- app/llm/mock_provider.py
def MockProvider.complete (pricing : PricingTable) : Provider σ := fun request state =>
  let lastUser := ((request.messages.reverse.find? (·.role == "user")).map (·.content)).getD ""
  let content := "[mock response to: " ++ Py.truncate 80 lastUser ++ "]"
  let inputTokens := (request.messages.map fun message => approxTokens message.content).sum
  match pricing.estimateCost "mock-model" inputTokens (approxTokens content) with
  | .error exc => (.error exc,state)
  | .ok cost => (.ok ⟨content,cost⟩,state)

end Pricing

-- app/llm/gateway.py
structure Candidate (σ : Type) where
  name : String
  provider : Provider σ
  model : String

structure ParcelPilotLLMGateway (σ : Type) where
  candidates : List (Candidate σ)
  candidate : candidates ≠ []

-- A failed attempt: the provider's name and the error's text.
abbrev ProviderAttempt := String × String

def allProvidersFailedError (attempts : List ProviderAttempt) : ProviderError :=
  ⟨"AllProvidersFailedError","every configured LLM provider failed: " ++
    Py.join "; " (attempts.map fun attempt => attempt.1 ++ ": " ++ attempt.2)⟩

def nonRetryableProviderError (attempt : ProviderAttempt) : ProviderError :=
  ⟨"NonRetryableProviderError",
    attempt.1 ++ " failed with a non-retryable error: " ++ attempt.2⟩

def tryCandidates (request : LLMRequest) :
    List (Candidate σ) → List ProviderAttempt → σ → Except ProviderError LLMResponse × σ
  | [],failed,state => (.error (allProvidersFailedError failed),state)
  | candidate :: rest,failed,state =>
      match candidate.provider {request with model := candidate.model} state with
      | (.ok response,after) => (.ok response,after)
      | (.error exc,after) =>
          let attempt := (candidate.name,exc.message)
          if isRetryableProviderError exc then tryCandidates request rest (failed ++ [attempt]) after
          else (.error (nonRetryableProviderError attempt),after)

def ParcelPilotLLMGateway.complete (gateway : ParcelPilotLLMGateway σ) : Provider σ :=
  fun request state => tryCandidates request gateway.candidates [] state

-- A gateway that asks the paid provider first.
def paidGateway [Host] (provider : AnthropicProvider σ) (model : String)
    (fallbacks : List (Candidate σ)) : ParcelPilotLLMGateway σ :=
  ⟨⟨"anthropic",provider.complete,model⟩ :: fallbacks,by simp⟩

-- app/llm/factory.py: `live`, with a key
def buildDefaultProvider [Host] (provider : AnthropicProvider σ) (model : String) :
    ParcelPilotLLMGateway σ :=
  paidGateway provider model [⟨"mock",MockProvider.complete provider.pricing,"mock-model"⟩]

-- The world after requests in their order, and the answer to the last of them.
def stateAfter (provider : Provider σ) (state : σ) (requests : List LLMRequest) : σ :=
  requests.foldl (fun state request => (provider request state).2) state

-- Nobody asks for an answer to nothing.
def serving (provider : Provider σ) (state : σ) (requests : List LLMRequest) :
    Except ProviderError LLMResponse :=
  match requests.getLast? with
  | none => .error ⟨"",""⟩
  | some request => (provider request (stateAfter provider state requests.dropLast)).1

@[simp] theorem serving_concat (provider : Provider σ) (state : σ) (before : List LLMRequest)
    (request : LLMRequest) : serving provider state (before ++ [request]) =
      (provider request (stateAfter provider state before)).1 := by
  simp [serving]

-- The upstream answers at once, or after retries.
def Paid (upstream : Upstream σ) (request : LLMRequest) (state : σ) : Prop :=
  ∃ message, (upstream.call request state).1 = .ok message

section Accounting

variable [Host] {pricing : PricingTable} {model : String} {inputTokens outputTokens : Int}

theorem estimateCost_priced (priced : pricing.Priced model) :
    ∃ cost, pricing.estimateCost model inputTokens outputTokens = .ok cost := by
  obtain ⟨input,output,entry⟩ := priced
  unfold PricingTable.estimateCost
  rw [entry]
  exact ⟨_,rfl⟩

theorem estimateCost_unpriced (unpriced : ¬ pricing.Priced model) :
    ∃ key, pricing.estimateCost model inputTokens outputTokens = .error (keyError key) := by
  unfold PricingTable.estimateCost
  split
  · exact ⟨_,rfl⟩
  · exact ⟨_,rfl⟩
  · exact ⟨_,rfl⟩
  · rename_i input output entry
    exact absurd ⟨input,output,entry⟩ unpriced

theorem gate_unpriced (unpriced : ¬ pricing.Priced model) :
    pricing.estimateWorstCaseCostUsd model inputTokens outputTokens = none := by
  obtain ⟨key,missing⟩ : ∃ key, pricing.estimateCost model inputTokens outputTokens =
      .error (keyError key) := estimateCost_unpriced unpriced
  unfold PricingTable.estimateWorstCaseCostUsd
  rw [missing]

theorem pricingJson_gate : pricingJson.estimateWorstCaseCostUsd model =
    estimateWorstCaseCostUsd model := by
  funext inputTokens outputTokens
  unfold PricingTable.estimateWorstCaseCostUsd PricingTable.estimateCost estimateWorstCaseCostUsd
    estimateCost pricingJson
  cases rates model <;> rfl

variable {σ : Type} {upstream : Upstream σ} {request : LLMRequest} {state : σ}

theorem complete_paid {message : Message}
    (replied : (upstream.call request state).1 = .ok message) :
    ((AnthropicProvider.mk pricing upstream).complete request state).1 =
      (pricing.estimateCost request.model message.inputTokens message.outputTokens).map
        (LLMResponse.mk message.text) := by
  unfold AnthropicProvider.complete
  dsimp only
  split
  · rename_i refused
    rw [refused] at replied
    cases replied
  · rename_i response after called
    rw [called] at replied
    cases replied
    cases pricing.estimateCost request.model message.inputTokens message.outputTokens <;> rfl

theorem complete_priced (priced : pricing.Priced request.model)
    (paid : Paid upstream request state) :
    ∃ response, ((AnthropicProvider.mk pricing upstream).complete request state).1 =
      .ok response := by
  obtain ⟨message,replied⟩ := paid
  obtain ⟨cost,accounted⟩ : ∃ cost, pricing.estimateCost request.model message.inputTokens
      message.outputTokens = .ok cost := estimateCost_priced priced
  rw [complete_paid replied,accounted]
  exact ⟨_,rfl⟩

theorem complete_unpriced (unpriced : ¬ pricing.Priced request.model)
    (paid : Paid upstream request state) :
    ∃ key, ((AnthropicProvider.mk pricing upstream).complete request state).1 =
      .error (keyError key) := by
  obtain ⟨message,replied⟩ := paid
  obtain ⟨key,missing⟩ : ∃ key, pricing.estimateCost request.model message.inputTokens
      message.outputTokens = .error (keyError key) := estimateCost_unpriced unpriced
  rw [complete_paid replied,missing]
  exact ⟨key,rfl⟩

theorem gateway_first {provider : AnthropicProvider σ} {fallbacks : List (Candidate σ)}
    (named : request.model = model) :
    (paidGateway provider model fallbacks).complete request state =
      match provider.complete request state with
      | (.ok response,after) => (.ok response,after)
      | (.error exc,after) =>
          if isRetryableProviderError exc then
            tryCandidates request fallbacks ([] ++ [("anthropic",exc.message)]) after
          else (.error (nonRetryableProviderError ("anthropic",exc.message)),after) := by
  have same : {request with model := model} = request := by rw [← named]
  unfold ParcelPilotLLMGateway.complete paidGateway
  rw [tryCandidates]
  dsimp only
  rw [same]

theorem gateway_returns {provider : AnthropicProvider σ} {fallbacks : List (Candidate σ)}
    {response : LLMResponse} (named : request.model = model)
    (returned : (provider.complete request state).1 = .ok response) :
    ((paidGateway provider model fallbacks).complete request state).1 = .ok response := by
  rw [gateway_first named]
  rcases completed : provider.complete request state with ⟨outcome,after⟩
  rw [completed] at returned
  dsimp only at returned
  rw [returned]

theorem gateway_stops {provider : AnthropicProvider σ} {fallbacks : List (Candidate σ)}
    {exc : ProviderError} (named : request.model = model)
    (raised : (provider.complete request state).1 = .error exc)
    (permanent : isRetryableProviderError exc = false) :
    ((paidGateway provider model fallbacks).complete request state).1 =
      .error (nonRetryableProviderError ("anthropic",exc.message)) := by
  rw [gateway_first named]
  rcases completed : provider.complete request state with ⟨outcome,after⟩
  rw [completed] at raised
  dsimp only at raised
  rw [raised]
  simp [permanent]

theorem keyError_permanent (key : String) : isRetryableProviderError (keyError key) = false := by
  simp [isRetryableProviderError,retryableExceptionNames,keyError]

end Accounting

end ParcelPilot
