import ParcelPilot.Evidence

namespace ParcelPilot

-- app/agent/context.py, app/agent/budgets.py
structure AgentRequestContext where
  requestId : String
  traceId : String
  userId : String
  auth : AuthContext
  datasetSnapshotTime : DateTime

def AgentRequestContext.clock (context : AgentRequestContext) : SnapshotClock :=
  ⟨context.datasetSnapshotTime⟩

structure AgentBudget where
  maxIterations : Int := 6
  maxToolCalls : Int := 6
  maxLlmCalls : Int := 2
  maxContextTokens : Int := 8000
  maxOutputTokens : Int := 1024
  maxWallClockSeconds : Rat := 30
  maxEstimatedCostUsd : Rat := 1 / 2
deriving DecidableEq,Repr

-- app/llm/pricing.json: USD per million tokens in and out
def rates : String → Option (Rat × Rat)
  | "claude-sonnet-5" => some (3,15)
  | "claude-opus-5" => some (15,75)
  | "claude-haiku-4-5-20251001" => some (1,5)
  | "mock-model" => some (0,0)
  | _ => none

def estimateCost (model : String) (inputTokens outputTokens : Int) : Option CostEstimate :=
  (rates model).map fun rate =>
    ⟨inputTokens / 1000000 * rate.1,outputTokens / 1000000 * rate.2⟩

-- app/agent/budget_enforcement.py
def estimateWorstCaseCostUsd (model : String) (inputTokens maxOutputTokens : Int) : Option Rat :=
  (estimateCost model inputTokens maxOutputTokens).map (·.totalCostUsd)

section Composer

variable [Host]

def approxTokens (text : String) : Nat := max 1 (Py.split text).length

def checkContextBudget (contextTokens : Int) (budget : AgentBudget) : Option String :=
  if budget.maxContextTokens < contextTokens then
    some ("estimated context size " ++ toString contextTokens ++ " tokens exceeds the budget of " ++
      toString budget.maxContextTokens)
  else none

def checkCostBudget (estimatedCostUsd : Option Rat) (budget : AgentBudget) : Option String :=
  match estimatedCostUsd with
  | none => none
  | some cost =>
      if budget.maxEstimatedCostUsd < cost then
        some ("estimated cost $" ++ Host.fixed 4 cost ++ " exceeds the budget of $" ++
          Host.fixed 4 budget.maxEstimatedCostUsd)
      else none

-- app/agent/response_composer.py
def systemPromptVersion : String := "support_agent_system_v2"

def alreadyExecutedNotice : String :=
  "Your tools already ran for this request; their results are the evidence and " ++
  "deterministic result(s) below - this message gives you no ability to call a tool. " ++
  "Do not ask to look anything up, request permission, or propose next steps: write " ++
  "the final answer now, directly, using only what is given below."

-- A heading, its lines and a blank one; nothing when there are no lines.
def evidenceBlock (heading : String) (lines : List String) : List String :=
  if lines.isEmpty then [] else heading :: lines ++ [""]

def citationLine (ref : EvidenceRef) : String :=
  "- [" ++ citationKey ref ++ "]" ++
    (match ref.note with
      | none => ""
      | some note => if note = "" then "" else " " ++ note)

def renderEvidenceBlocks (pack : EvidencePack) : List String :=
  evidenceBlock "Evidence (cite using these exact [source_id:locator] markers):"
    (pack.citations.map citationLine) ++
  evidenceBlock ("Structured record(s) looked up - the real, current field values; do not " ++
      "alter them or infer a different value from other evidence below:")
    (pack.structuredFacts.map fun record => "- " ++ (PyValue.dict record).repr) ++
  evidenceBlock "Deterministic result(s) - do not recompute or alter these:"
    (pack.domainResults.map fun result => "- " ++ (PyValue.dict result).repr) ++
  evidenceBlock "Assumptions this result depends on:"
    (pack.assumptions.map fun assumption => "- " ++ assumption) ++
  evidenceBlock "Source conflicts already resolved:"
    (pack.conflicts.map fun conflict => "- " ++ conflict.winnerSourceId ++ " overrides " ++
      conflict.loserSourceId ++ ": " ++ conflict.reason)

def renderUserPrompt (pack : EvidencePack) (trustState : TrustState) : String :=
  Py.join "\n" (["Question: " ++ pack.question,"",alreadyExecutedNotice,""] ++
    renderEvidenceBlocks pack ++
    ["Trust state (backend-determined, do not restate a higher confidence): " ++ trustState.value] ++
    (if pack.needsHumanReview then
      ["This result should be flagged for human/operational follow-up " ++
        "(e.g. an SLA breach requiring escalation) - say so plainly in the answer."] else []) ++
    ["Write a concise, grounded answer using only the evidence and results above. " ++
      "Cite sources with the bracketed markers shown. State the trust level plainly if " ++
      "it is not CONFIDENT. If evidence is missing, say so rather than guessing."])

def renderRepairPrompt (pack : EvidencePack) (trustState : TrustState) (previousAnswer : String)
    (invalidMarkers : List String) : String :=
  Py.join "\n" (["Question: " ++ pack.question,"",alreadyExecutedNotice,"",
    "Your previous answer cited source markers that do not exist in the evidence " ++
      "provided. Rewrite the answer using ONLY the exact markers listed below - do not " ++
      "invent a marker or reuse an invalid one.",
    "",
    "Invalid markers you used: " ++
      Py.join ", " (invalidMarkers.map fun marker => "[" ++ marker ++ "]"),
    ""] ++
    renderEvidenceBlocks pack ++
    ["Previous answer:\n" ++ previousAnswer,"",
      "Write a corrected, concise, grounded answer using only the valid markers and " ++
        "deterministic result(s) above. State the trust level plainly if it is not CONFIDENT (" ++
        trustState.value ++ ")."])

def estimatePromptTokens (pack : EvidencePack) (trustState : TrustState) : Nat :=
  approxTokens (Host.loadPrompt systemPromptVersion) + approxTokens (renderUserPrompt pack trustState)

def llmRequest (userPrompt model : String) (maxOutputTokens : Int) : LLMRequest where
  messages := [⟨"system",Host.loadPrompt systemPromptVersion⟩,⟨"user",userPrompt⟩]
  model := model
  maxOutputTokens := maxOutputTokens
  promptVersion := some systemPromptVersion

def callLlm (userPrompt model : String) (maxOutputTokens : Int) :
    Agent (Except ProviderError LLMResponse) := complete (llmRequest userPrompt model maxOutputTokens)

end Composer

-- app/agent/state.py, app/agent/orchestrator.py
inductive AgentState where
  | requestReceived | authValidated | intentResolved | entitiesResolved | planCreated
  | toolExecuting | evidenceValidated | domainEvaluated | trustEvaluated | responseComposed
  | completed | needsClarification | insufficientEvidence | escalated | failed
  | evidenceValidationFailed
deriving DecidableEq,Repr

inductive AgentStatus where
  | completed | needsClarification | insufficientEvidence | escalated | failed
  | evidenceValidationFailed
deriving DecidableEq,Repr

structure ToolTraceEntry where
  tool : ToolName
  purpose : String
  success : Bool
  errorType : Option ToolErrorType
  latencyMs : Rat
deriving DecidableEq,Repr

structure AgentRunResult where
  status : AgentStatus
  answer : Option String := none
  trustState : Option TrustState := none
  needsHumanReview : Bool := false
  citations : List EvidenceRef := []
  assumptions : List String := []
  conflicts : List Conflict := []
  reason : Option String := none
  intent : Option Intent := none
  plannedTools : List ToolName := []
  toolTrace : List ToolTraceEntry := []
  stateTrace : List AgentState := []
  llmCalls : Nat := 0
  toolCalls : Nat := 0
  totalLatencyMs : Rat := 0
  totalCostUsd : Rat := 0
  requestId : String
  traceId : String

def Plan.tools (plan : Plan) : List ToolName := plan.steps.map (·.tool)

-- A step with the result of its tool call.
abbrev ToolCall := PlanStep × ToolResult

-- The arguments every early end passes to `_terminal`.
def ended (context : AgentRequestContext) (status : AgentStatus) (reason : String)
    (stateTrace : List AgentState) : AgentRunResult where
  status := status
  reason := some reason
  stateTrace := stateTrace
  requestId := context.requestId
  traceId := context.traceId

def terminal (start : Rat) (result : AgentRunResult) : Agent AgentRunResult := do
  let finish ← perfCounter
  pure {result with totalLatencyMs := (finish - start) * 1000}

section Run

variable [Host]

def traceEntry (call : ToolCall) : ToolTraceEntry :=
  ⟨call.1.tool,call.1.purpose,call.2.success,call.2.errorType,Host.round3 call.2.latencyMs⟩

def AgentRunResult.withCalls (result : AgentRunResult) (calls : List ToolCall) : AgentRunResult :=
  {result with toolTrace := calls.map traceEntry, toolCalls := calls.length}

def AgentRunResult.withPack (result : AgentRunResult) (pack : EvidencePack) (plan : Plan) :
    AgentRunResult :=
  {result with
    needsHumanReview := pack.needsHumanReview, citations := pack.citations
    assumptions := pack.assumptions, conflicts := pack.conflicts, plannedTools := plan.tools}

-- Up to a plan within the budget of tool calls, or an early end.
def prepare (question : String) (context : AgentRequestContext) (budget : AgentBudget)
    (entities : EntityResolution) : Except AgentRunResult Plan :=
  let stateTrace := [AgentState.requestReceived,.authValidated,.entitiesResolved]
  if entities.needsClarification then
    .error (ended context .needsClarification ("question matches multiple accounts: " ++
      Py.reprList entities.ambiguousAccountNames ++
      "; please specify an account ID or a more specific name") (stateTrace ++ [.needsClarification]))
  else
    let intent := resolveIntent question entities
    let stateTrace := stateTrace ++ [.intentResolved]
    match needsAccountClarification question entities context.auth with
    | some reason => .error {ended context .needsClarification reason
        (stateTrace ++ [.needsClarification]) with intent := some intent}
    | none =>
        if intent = .unsupported then
          .error {ended context .insufficientEvidence "empty or unsupported request"
            (stateTrace ++ [.insufficientEvidence]) with intent := some intent}
        else
          let plan := buildPlan question intent entities
          let stateTrace := stateTrace ++ [.planCreated]
          if plan.steps.isEmpty then
            .error {ended context .insufficientEvidence
              "no entity or topic in the question resolved to a supported investigation"
              (stateTrace ++ [.insufficientEvidence]) with intent := some intent}
          else if budget.maxToolCalls < plan.steps.length then
            .error {ended context .failed
              ("plan requires " ++ toString plan.steps.length ++
                " tool calls, exceeding the budget of " ++ toString budget.maxToolCalls)
              (stateTrace ++ [.failed]) with intent := some intent}
          else .ok plan

-- The tool loop: every step in order, or the reason it stopped, with the calls made.
def executeSteps (tools : ToolRegistry) (budget : AgentBudget) (auth : AuthContext)
    (clock : SnapshotClock) (start : Rat) :
    List PlanStep → Nat → List ToolCall → Agent (Except (String × List ToolCall) (List ToolCall))
  | [],_,calls => pure (.ok calls)
  | step :: rest,iterations,calls => do
      let now ← perfCounter
      if budget.maxWallClockSeconds < now - start then
        pure (.error ("wall-clock budget exceeded",calls))
      else if budget.maxIterations ≤ iterations then
        pure (.error ("iteration budget of " ++ toString budget.maxIterations ++ " exceeded",calls))
      else do
        let result ← executeTool tools step.args auth clock
        if !result.success && result.errorType = some .notAuthorized then
          pure (.error ("not authorized",calls ++ [(step,result)]))
        else
          executeSteps tools budget auth clock start rest (iterations + result.attempts)
            (calls ++ [(step,result)])

def executedTrace : List AgentState :=
  [.requestReceived,.authValidated,.entitiesResolved,.intentResolved,.planCreated,.toolExecuting]

def validatedTrace : List AgentState := executedTrace ++ [.evidenceValidated,.domainEvaluated]

def evaluatedTrace : List AgentState := validatedTrace ++ [.trustEvaluated]

def composedTrace : List AgentState := evaluatedTrace ++ [.responseComposed]

-- Up to a trust state and the leave to call the model, or an early end; the
-- estimate is the configured model's, in tokens in and out.
def assessPriced (estimate : Int → Int → Option Rat) (context : AgentRequestContext)
    (budget : AgentBudget) (plan : Plan) (pack : EvidencePack) (calls : List ToolCall) :
    Except AgentRunResult TrustState :=
  if pack.citations.isEmpty && pack.documentEvidence.isEmpty && pack.domainResults.isEmpty then
    .error {(ended context .insufficientEvidence
      "no evidence could be retrieved or calculated for this request"
      (validatedTrace ++ [.insufficientEvidence])).withCalls calls with
        intent := some plan.intent, plannedTools := plan.tools}
  else if pack.domainResults.isEmpty &&
      !isDocumentEvidenceSufficient pack.question pack.documentEvidence then
    .error {(ended context .insufficientEvidence
      "retrieved document evidence does not sufficiently support this question"
      (validatedTrace ++ [.insufficientEvidence])).withCalls calls with
        intent := some plan.intent, plannedTools := plan.tools}
  else
    let trustState := enforceTrustGate pack.domainTrustStates (!pack.documentEvidence.isEmpty)
    let failed (reason : String) : Except AgentRunResult TrustState :=
      .error {(ended context .failed reason (evaluatedTrace ++ [.failed])).withCalls calls with
        intent := some plan.intent, trustState := some trustState}
    if budget.maxLlmCalls < 1 then
      failed "llm call budget exhausted before response composition"
    else
      let contextTokens : Int := estimatePromptTokens pack trustState
      match checkContextBudget contextTokens budget with
      | some failure => failed failure
      | none =>
          match checkCostBudget (estimate contextTokens budget.maxOutputTokens) budget with
          | some failure => failed failure
          | none => .ok trustState

def assess (context : AgentRequestContext) (model : String) (budget : AgentBudget) (plan : Plan)
    (pack : EvidencePack) (calls : List ToolCall) : Except AgentRunResult TrustState :=
  assessPriced (estimateWorstCaseCostUsd model) context budget plan pack calls

-- What the answering stage is given.
structure Investigation where
  plan : Plan
  calls : List ToolCall
  pack : EvidencePack
  trustState : TrustState

def Investigation.finished (found : Investigation) (context : AgentRequestContext) (answer : String)
    (llmCalls : Nat) (totalCostUsd : Rat) : AgentRunResult :=
  let escalates := found.trustState = .escalate
  (({ status := if escalates then .escalated else .completed
      answer := some answer
      trustState := some found.trustState
      intent := some found.plan.intent
      stateTrace := composedTrace ++ [if escalates then .escalated else .completed]
      llmCalls := llmCalls
      totalCostUsd := totalCostUsd
      requestId := context.requestId
      traceId := context.traceId } : AgentRunResult).withCalls found.calls).withPack found.pack found.plan

-- An end after the model has answered once keeps the pack.
def Investigation.rejected (found : Investigation) (context : AgentRequestContext)
    (status : AgentStatus) (reason : String) (last : AgentState) (llmCalls : Nat)
    (totalCostUsd : Rat) : AgentRunResult :=
  ({(ended context status reason (composedTrace ++ [last])).withCalls found.calls with
      intent := some found.plan.intent, trustState := some found.trustState
      llmCalls := llmCalls, totalCostUsd := totalCostUsd}).withPack found.pack found.plan

def answer (context : AgentRequestContext) (model : String) (budget : AgentBudget) (start : Rat)
    (found : Investigation) : Agent AgentRunResult := do
  match ← callLlm (renderUserPrompt found.pack found.trustState) model budget.maxOutputTokens with
  | .error exc =>
      terminal start {(ended context .failed ("response composition failed: " ++ exc.message)
        (evaluatedTrace ++ [.failed])).withCalls found.calls with
          intent := some found.plan.intent, trustState := some found.trustState}
  | .ok response =>
      let check := validateCitations response.content found.pack
      let cost := response.cost.totalCostUsd
      if check.valid then terminal start (found.finished context response.content 1 cost)
      else if budget.maxLlmCalls < 2 then
        terminal start (found.rejected context .evidenceValidationFailed
          ("answer cited unsupported source(s) " ++ Py.reprList check.invalidMarkers ++
            "; no repair attempt was available within the LLM call budget")
          .evidenceValidationFailed 1 cost)
      else
        match ← callLlm (renderRepairPrompt found.pack found.trustState response.content
            check.invalidMarkers) model budget.maxOutputTokens with
        | .error exc =>
            terminal start (found.rejected context .failed
              ("citation repair call failed: " ++ exc.message) .failed 1 cost)
        | .ok repair =>
            let recheck := validateCitations repair.content found.pack
            let total := cost + repair.cost.totalCostUsd
            if recheck.valid then terminal start (found.finished context repair.content 2 total)
            else terminal start (found.rejected context .evidenceValidationFailed
              ("answer still cited unsupported source(s) " ++ Py.reprList recheck.invalidMarkers ++
                " after one bounded repair attempt") .evidenceValidationFailed 2 total)

-- Everything between the resolved entities and the first model call.
def investigate (tools : ToolRegistry) (question : String) (context : AgentRequestContext)
    (model : String) (budget : AgentBudget) (start : Rat) (entities : EntityResolution) :
    Agent (Except AgentRunResult Investigation) :=
  match prepare question context budget entities with
  | .error early => pure (.error early)
  | .ok plan => do
      match ← executeSteps tools budget context.auth context.clock start plan.steps 0 [] with
      | .error (reason,calls) => pure (.error
          {(ended context .failed reason (executedTrace ++ [.failed])).withCalls calls with
            intent := some plan.intent})
      | .ok calls =>
          let pack := buildEvidencePack question plan.intent entities (calls.map (·.2))
            context.datasetSnapshotTime context.auth.accountScope
          match assess context model budget plan pack calls with
          | .error early => pure (.error early)
          | .ok trustState => pure (.ok ⟨plan,calls,pack,trustState⟩)

def runAgent (tools : ToolRegistry) (question : String) (context : AgentRequestContext)
    (model : String) (budget : AgentBudget) : Agent AgentRunResult := do
  let start ← perfCounter
  let entities ← querying (resolveEntities question context.auth context.clock)
  match ← investigate tools question context model budget start entities with
  | .error early => terminal start early
  | .ok found => answer context model budget start found

end Run

end ParcelPilot
