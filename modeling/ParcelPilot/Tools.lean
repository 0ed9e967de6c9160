import ParcelPilot.AgentRuntime
import ParcelPilot.Detection
import ParcelPilot.OrderDecisions

namespace ParcelPilot

-- `model_dump(mode="json")`
def optional (dump : α → PyValue) : Option α → PyValue
  | none => .none
  | some value => dump value

def Account.dump (account : Account) : List (String × PyValue) := [
  ("account_id",.str account.accountId),("account_name",.str account.accountName),
  ("plan",.str account.plan),("status",.str account.status),("csm",.str account.csm),
  ("contract_file",optional .str account.contractFile),
  ("premium_support",.bool account.premiumSupport),("notes",.str account.notes)]

def Order.dump (order : Order) : List (String × PyValue) := [
  ("order_id",.str order.orderId),("account_id",.str order.accountId),
  ("carrier",.str order.carrier),("status",.str order.status.value),
  ("booked_at",order.bookedAt.json),("pickup_window_start",order.pickupWindowStart.json),
  ("pickup_window_end",order.pickupWindowEnd.json),
  ("pickup_actual_at",optional DateTime.json order.pickupActualAt),
  ("shipment_fee_inr",.float order.shipmentFeeInr),("carrier_fault",.bool order.carrierFault),
  ("customer_fault",.bool order.customerFault),
  ("cancellation_requested_at",optional DateTime.json order.cancellationRequestedAt),
  ("notes",.str order.notes)]

def Ticket.dump (ticket : Ticket) : List (String × PyValue) := [
  ("ticket_id",.str ticket.ticketId),("account_id",.str ticket.accountId),
  ("created_at",ticket.createdAt.json),("status",.str ticket.status.value),
  ("subject",.str ticket.subject),("description",.str ticket.description),
  ("channel",.str ticket.channel),("assigned_to",.str ticket.assignedTo),
  ("last_customer_message_at",ticket.lastCustomerMessageAt.json),
  ("historical_resolution",optional .str ticket.historicalResolution)]

def CancellationOutcome.dump (outcome : CancellationOutcome) : List (String × PyValue) := [
  ("decision",.str outcome.decision.value),("fee_inr",optional (.float ·) outcome.feeInr),
  ("applicable_rule",.str outcome.applicableRule),("order_status",.str outcome.orderStatus.value),
  ("minutes_since_booking",optional (.float ·) outcome.minutesSinceBooking)]

def ServiceCreditOutcome.dump (outcome : ServiceCreditOutcome) : List (String × PyValue) := [
  ("eligible",.bool outcome.eligible),("credit_inr",optional .float outcome.creditInr),
  ("applicable_rule",.str outcome.applicableRule),
  ("delay_hours",optional (.float ·) outcome.delayHours),
  ("delay_reference",optional (.str ·.value) outcome.delayReference),
  ("manager_approval_required",.bool outcome.managerApprovalRequired)]

def SlaOutcome.dump (outcome : SlaOutcome) : List (String × PyValue) := [
  ("severity",.str outcome.severity.value),
  ("applicable_source_id",.str outcome.applicableSourceId),
  ("target_text",.str outcome.targetText),
  ("target_minutes",optional .int outcome.targetMinutes),("is_24x7",.bool outcome.is24x7),
  ("deadline",optional .str outcome.deadline),
  ("elapsed_minutes_past_deadline",optional (.float ·) outcome.elapsedMinutesPastDeadline),
  ("breached",optional .bool outcome.breached)]

def SeverityOutcome.dump (outcome : SeverityOutcome) : List (String × PyValue) := [
  ("severity",optional (.str ·.value) outcome.severity),
  ("matched_signal_count",
    .dict (outcome.matchedSignalCount.map fun entry => (entry.1,.int entry.2))),
  ("matched_definition",optional .str outcome.matchedDefinition)]

-- app/documents/retrieval.py
def maxTopK : Nat := 50

-- `[A-Za-z0-9]+`
def queryToken : Pattern := .many (fun c => c.isAlphanum) 1 none

section Retrieval

variable [Host]

def normalizeQuery (query : String) : Except PyError String :=
  match Py.firstOccurrences id [] (Pattern.findAll Host.isWord queryToken (Host.lower query)) with
  | [] => .error (.invalidFilter "query has no searchable terms")
  | tokens => .ok (Py.join " OR " (tokens.map fun token => "\"" ++ token ++ "\""))

def searchDocuments (query : String) (filters : DocumentSearchFilter) (topK : Nat) :
    Query (List DocumentSearchResult) := do
  if ¬ (1 ≤ topK ∧ topK ≤ maxTopK) then
    throw (.invalidFilter ("top_k must be between 1 and " ++ toString maxTopK ++ ", got " ++
      toString topK))
  let ftsQuery ← orRaise (normalizeQuery query)
  select (.search ftsQuery filters topK)

end Retrieval

-- app/agent/tools.py
def minRelevanceScore : Rat := -1

structure SearchDocumentsRequest where
  query : String
  sourceTypes : Option (List SourceType) := none
  authorityClasses : Option (List AuthorityClass) := none
  statuses : Option (List SourceStatus) := none
  topK : Nat := 5
  topKInRange : 1 ≤ topK ∧ topK ≤ 50 := by decide

structure SearchDocumentsResponse where
  query : String
  results : List DocumentSearchResult
  latencyMs : Rat

inductive LookupKind where
  | getAccount | getOrder | getTicket | searchOrders | searchTickets
deriving DecidableEq,Repr

structure LookupStructuredDataRequest where
  kind : LookupKind
  entityId : Option String := none
  accountId : Option String := none
  status : Option String := none
  carrier : Option String := none
deriving DecidableEq,Repr

inductive Record where
  | account (account : Account)
  | order (order : Order)
  | ticket (ticket : Ticket)
deriving DecidableEq

def Record.dump : Record → List (String × PyValue)
  | .account row => row.dump
  | .order row => row.dump
  | .ticket row => row.dump

structure LookupStructuredDataResponse where
  kind : LookupKind
  records : List Record
  latencyMs : Rat

inductive CalculationType where
  | cancellation | serviceCredit | sla | severity
deriving DecidableEq,Repr

structure CalculateSupportOutcomeRequest where
  calculationType : CalculationType
  entityId : String
deriving DecidableEq,Repr

structure CalculateSupportOutcomeResponse where
  calculationType : CalculationType
  trustState : TrustState
  reason : String
  result : Option (List (String × PyValue))
  evidence : List EvidenceRef
  assumptions : List String
  conflicts : List Conflict
  needsHumanReview : Bool
  calculationInputs : List (String × PyValue)
  latencyMs : Rat

def CalculateSupportOutcomeResponse.fromDecision (calculationType : CalculationType)
    (dump : τ → List (String × PyValue)) (decision : DecisionResult τ) (latencyMs : Rat) :
    CalculateSupportOutcomeResponse where
  calculationType := calculationType
  trustState := decision.trustState
  reason := decision.reason
  result := decision.result.map dump
  evidence := decision.evidence
  assumptions := decision.assumptions
  conflicts := decision.conflicts
  needsHumanReview := decision.needsHumanReview
  calculationInputs := decision.calculationInputs
  latencyMs := latencyMs

structure DetectIssuesRequest where
  alertTypes : Option (List AlertType) := none
  windowDays : Int := defaultWindowDays
  accountScope : Option (List String) := none
  groupByAccount : Bool := false
  windowInRange : 1 ≤ windowDays ∧ windowDays ≤ 365 := by decide

structure DetectIssuesResponse where
  alerts : List AlertCandidate
  groupedByAccount : Option (List (String × List String))
  latencyMs : Rat

section Tools

variable [Host]

-- Work between two readings of the counter, with the milliseconds it took.
def measured (work : Agent α) : Agent (α × Rat) := do
  let start ← perfCounter
  let value ← work
  let finish ← perfCounter
  pure (value,(finish - start) * 1000)

def searchDocumentsTool (request : SearchDocumentsRequest) (auth : AuthContext) :
    Agent SearchDocumentsResponse := do
  let filters := ⟨request.sourceTypes,request.authorityClasses,request.statuses,auth.accountScope⟩
  let (rawResults,latencyMs) ← measured (querying (searchDocuments request.query filters request.topK))
  pure ⟨request.query,rawResults.filter (·.score ≤ minRelevanceScore),latencyMs⟩

def entityIdFor (kind : String) : Option String → Query String
  | none => throw (.valueError ("entity_id is required for " ++ kind))
  | some entityId => pure entityId

-- `Enum(request.status) if request.status else None`
def statusFor (name : String) (members : List σ) (value : σ → String) :
    Option String → Query (Option σ)
  | none => pure none
  | some raw =>
      if raw = "" then pure none
      else match members.find? (fun member => value member = raw) with
        | none => throw (.valueError (Host.reprStr raw ++ " is not a valid " ++ name))
        | some member => pure (some member)

def lookUp (request : LookupStructuredDataRequest) (auth : AuthContext) (clock : SnapshotClock) :
    Query (List Record) :=
  match request.kind with
  | .getAccount => do
      let accountId ← entityIdFor "get_account" request.entityId
      let account ← getAccount accountId auth
      pure [.account account]
  | .getOrder => do
      let orderId ← entityIdFor "get_order" request.entityId
      let order ← getOrder orderId auth clock.tz
      pure [.order order]
  | .getTicket => do
      let ticketId ← entityIdFor "get_ticket" request.entityId
      let ticket ← getTicket ticketId auth clock.tz
      pure [.ticket ticket]
  | .searchOrders => do
      let status ← statusFor "OrderStatus" [OrderStatus.draft,.booked,.pickedUp,.delivered]
        OrderStatus.value request.status
      let orders ← searchOrders auth clock.tz request.accountId status request.carrier
      pure (orders.map .order)
  | .searchTickets => do
      let status ← statusFor "TicketStatus" [TicketStatus.open_,.closed] TicketStatus.value
        request.status
      let tickets ← searchTickets auth clock.tz request.accountId status
      pure (tickets.map .ticket)

def lookupStructuredDataTool (request : LookupStructuredDataRequest) (auth : AuthContext)
    (clock : SnapshotClock) : Agent LookupStructuredDataResponse := do
  let (records,latencyMs) ← measured (querying (lookUp request auth clock))
  pure ⟨request.kind,records,latencyMs⟩

def calculate (request : CalculateSupportOutcomeRequest) (auth : AuthContext)
    (clock : SnapshotClock) : Query (Rat → CalculateSupportOutcomeResponse) :=
  match request.calculationType with
  | .cancellation => do
      let decision ← evaluateCancellation request.entityId auth clock defaultFeeRules {}
      pure (.fromDecision .cancellation CancellationOutcome.dump decision)
  | .serviceCredit => do
      let decision ← evaluateServiceCredit request.entityId auth clock defaultCreditRules {}
      pure (.fromDecision .serviceCredit ServiceCreditOutcome.dump decision)
  | .sla => do
      let decision ← calculateSla request.entityId auth clock {}
      pure (.fromDecision .sla SlaOutcome.dump decision)
  | .severity => do
      let ticket ← getTicket request.entityId auth clock.tz
      let decision ← classifySeverity ticket
      pure (.fromDecision .severity SeverityOutcome.dump decision)

def calculateSupportOutcomeTool (request : CalculateSupportOutcomeRequest) (auth : AuthContext)
    (clock : SnapshotClock) : Agent CalculateSupportOutcomeResponse := do
  let (respond,latencyMs) ← measured (querying (calculate request auth clock))
  pure (respond latencyMs)

-- The requested accounts narrow the caller's scope, never widen it.
def scopedAuth (requested : Option (List String)) (auth : AuthContext) : AuthContext :=
  match requested with
  | none => auth
  | some accounts => ⟨auth.role,some (Py.sortedSet (accounts.filter (auth.allowsAccount ·)))⟩

def detectIssuesTool (request : DetectIssuesRequest) (auth : AuthContext) (clock : SnapshotClock) :
    Agent DetectIssuesResponse := do
  let (alerts,latencyMs) ← measured (querying (runOperationsRadar
    (scopedAuth request.accountScope auth) clock request.alertTypes request.windowDays {}))
  pure ⟨alerts,if request.groupByAccount then some (groupByAccount alerts) else none,latencyMs⟩

end Tools

-- app/agent/tool_result.py
inductive ToolErrorType where
  | notFound | notAuthorized | invalidArguments | timeout | internal
deriving DecidableEq,Repr

def ToolErrorType.value : ToolErrorType → String
  | .notFound => "not_found"
  | .notAuthorized => "not_authorized"
  | .invalidArguments => "invalid_arguments"
  | .timeout => "timeout"
  | .internal => "internal"

inductive ToolName where
  | searchDocuments | lookupStructuredData | calculateSupportOutcome | detectIssues
deriving DecidableEq,Repr

def ToolName.value : ToolName → String
  | .searchDocuments => "search_documents"
  | .lookupStructuredData => "lookup_structured_data"
  | .calculateSupportOutcome => "calculate_support_outcome"
  | .detectIssues => "detect_issues"

-- A request in the tool's own input model: what a plan's literal arguments
-- validate to.
inductive ToolRequest where
  | searchDocuments (request : SearchDocumentsRequest)
  | lookupStructuredData (request : LookupStructuredDataRequest)
  | calculateSupportOutcome (request : CalculateSupportOutcomeRequest)
  | detectIssues (request : DetectIssuesRequest)

def ToolRequest.tool : ToolRequest → ToolName
  | .searchDocuments _ => .searchDocuments
  | .lookupStructuredData _ => .lookupStructuredData
  | .calculateSupportOutcome _ => .calculateSupportOutcome
  | .detectIssues _ => .detectIssues

inductive ToolOutput where
  | searchDocuments (response : SearchDocumentsResponse)
  | lookupStructuredData (response : LookupStructuredDataResponse)
  | calculateSupportOutcome (response : CalculateSupportOutcomeResponse)
  | detectIssues (response : DetectIssuesResponse)

structure ToolResult where
  toolName : ToolName
  success : Bool
  output : Option ToolOutput := none
  errorType : Option ToolErrorType := none
  retryable : Bool := false
  safeMessage : Option String := none
  latencyMs : Rat := 0
  attempts : Nat := 1

def ToolResult.ok (toolName : ToolName) (output : ToolOutput) (latencyMs : Rat) (attempts : Nat) :
    ToolResult where
  toolName := toolName
  success := true
  output := some output
  latencyMs := latencyMs
  attempts := attempts

def ToolResult.fail (toolName : ToolName) (errorType : ToolErrorType) (safeMessage : String)
    (latencyMs : Rat) (retryable : Bool) (attempts : Nat) : ToolResult where
  toolName := toolName
  success := false
  errorType := some errorType
  safeMessage := some safeMessage
  latencyMs := latencyMs
  retryable := retryable
  attempts := attempts

-- app/agent/registry.py
structure ToolSpec where
  timeoutSeconds : Rat
  retryable : Bool := false
  maxRetries : Int := 2
deriving DecidableEq,Repr

abbrev ToolRegistry := ToolName → ToolSpec

def toolRegistry : ToolRegistry
  | .searchDocuments => {timeoutSeconds := 5}
  | .lookupStructuredData => {timeoutSeconds := 5}
  | .calculateSupportOutcome => {timeoutSeconds := 10}
  | .detectIssues => {timeoutSeconds := 10}

-- `_classify`: what is not in the map is internal.
def classify : PyError → ToolErrorType
  | .notAuthorized _ => .notAuthorized
  | .unknownEntity .. => .notFound
  | .invalidFilter _ => .invalidArguments
  | .valueError _ => .invalidArguments
  | _ => .internal

-- Only a ParcelPilotError or ValueError shows its own message.
def safeMessage : PyError → String
  | .notAuthorized reason => (PyError.notAuthorized reason).message
  | .unknownEntity entityType entityId => (PyError.unknownEntity entityType entityId).message
  | .invalidFilter reason => (PyError.invalidFilter reason).message
  | .valueError message => message
  | _ => "an internal error occurred"

section Registry

variable [Host]

def dispatch (auth : AuthContext) (clock : SnapshotClock) : ToolRequest → Agent ToolOutput
  | .searchDocuments request => do
      let response ← searchDocumentsTool request auth
      pure (.searchDocuments response)
  | .lookupStructuredData request => do
      let response ← lookupStructuredDataTool request auth clock
      pure (.lookupStructuredData response)
  | .calculateSupportOutcome request => do
      let response ← calculateSupportOutcomeTool request auth clock
      pure (.calculateSupportOutcome response)
  | .detectIssues request => do
      let response ← detectIssuesTool request auth clock
      pure (.detectIssues response)

-- What one attempt amounts to, once it is over.
def settle (name : ToolName) (spec : ToolSpec) (attempt : Nat) (latencyMs : Rat) :
    Except PyError ToolOutput → ToolResult
  | .error exc => .fail name (classify exc) (safeMessage exc) latencyMs
      (classify exc = .timeout) attempt
  | .ok output =>
      if spec.timeoutSeconds * 1000 < latencyMs then
        .fail name .timeout (name.value ++ " exceeded its " ++ Host.reprFloat spec.timeoutSeconds ++
          "s timeout budget") latencyMs true attempt
      else .ok name output latencyMs attempt

def attemptOnce (name : ToolName) (spec : ToolSpec) (work : Agent ToolOutput) (attempt : Nat) :
    Agent ToolResult := do
  let start ← perfCounter
  let outcome ← Fallible.attempt work
  let finish ← perfCounter
  pure (settle name spec attempt ((finish - start) * 1000) outcome)

-- A timeout is tried again while attempts are left.
def attemptLoop (name : ToolName) (spec : ToolSpec) (work : Agent ToolOutput) :
    Nat → Nat → Agent ToolResult
  | 0,attempt => attemptOnce name spec work attempt
  | left + 1,attempt => do
      let result ← attemptOnce name spec work attempt
      if result.errorType = some .timeout then
        sleepFor (1 / 20 * attempt)
        attemptLoop name spec work left (attempt + 1)
      else pure result

-- Fewer than no retries leave no attempt, and the assertion behind the loop.
def executeTool (tools : ToolRegistry) (request : ToolRequest) (auth : AuthContext)
    (clock : SnapshotClock) : Agent ToolResult :=
  let spec := tools request.tool
  if spec.retryable && spec.maxRetries < 0 then throw .assertionError
  else attemptLoop request.tool spec (dispatch auth clock request)
    (if spec.retryable then spec.maxRetries.toNat else 0) 1

end Registry

end ParcelPilot
