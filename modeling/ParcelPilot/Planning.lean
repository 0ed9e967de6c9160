import ParcelPilot.Tools

namespace ParcelPilot

-- app/agent/entities.py
inductive EntityKind where
  | order | ticket | account
deriving DecidableEq,Repr

structure EntityResolution where
  orderIds : List String := []
  ticketIds : List String := []
  accountIds : List String := []
  ambiguousAccountNames : List String := []
  unresolvedMentions : List String := []
deriving DecidableEq,Repr

def EntityResolution.needsClarification (entities : EntityResolution) : Bool :=
  !entities.ambiguousAccountNames.isEmpty

section Entities

variable [Host]

open Pattern

-- `\b[A-Za-z]{2,8}-\d{1,10}\b`
def idToken : Pattern := sequence [boundary,.many Char.isAlpha 2 (some 8),.one (· = '-'),
  .many Host.isDigit 1 (some 10),boundary]

-- `.upper()` of a token: only its ASCII letters have case.
def upper (token : String) : String := String.ofList (token.toList.map Char.toUpper)

-- The ids a question mentions, each once, in order.
def mentions (question : String) : List String :=
  Py.firstOccurrences id [] ((findAll Host.isWord idToken question).map upper)

-- A lookup that succeeds decides; one that is refused ends the search.
def tryCheckers : List (EntityKind × Query Unit) → Query (Option EntityKind)
  | [] => pure none
  | (kind,checker) :: rest => do
      match ← Fallible.attempt checker with
      | .ok _ => pure (some kind)
      | .error (.unknownEntity ..) => tryCheckers rest
      | .error (.notAuthorized _) => pure none
      | .error exc => throw exc

def checkers (auth : AuthContext) (tz : Int) (entityId : String) : List (EntityKind × Query Unit) := [
  (.order,do let _ ← getOrder entityId auth tz),
  (.ticket,do let _ ← getTicket entityId auth tz),
  (.account,do let _ ← getAccount entityId auth)]

def resolveMention (auth : AuthContext) (tz : Int) (entityId : String) :
    Query (Option (Option EntityKind × String)) := do
  let kind ← tryCheckers (checkers auth tz entityId)
  pure (some (kind,entityId))

def bucket (kind : Option EntityKind) (resolved : List (Option EntityKind × String)) : List String :=
  (resolved.filter (·.1 = kind)).map (·.2)

def nameMatches (question : String) (auth : AuthContext) (row : String × String) : Bool :=
  4 ≤ row.2.length && Py.occursIn (Host.lower row.2) (Host.lower question) &&
    auth.allowsAccount row.1

def matchAccountNames (question : String) (auth : AuthContext) : Query (List String) := do
  let rows ← select .accountNames
  pure ((rows.filter (nameMatches question auth)).map (·.1))

def resolveEntities (question : String) (auth : AuthContext) (clock : SnapshotClock) :
    Query EntityResolution := do
  let resolved ← Fallible.collect (resolveMention auth clock.tz) (mentions question)
  let entities : EntityResolution := {
    orderIds := bucket (some .order) resolved
    ticketIds := bucket (some .ticket) resolved
    accountIds := bucket (some .account) resolved
    unresolvedMentions := bucket none resolved }
  -- Names are guessed only when no id of any kind was found.
  if entities.orderIds.isEmpty && entities.ticketIds.isEmpty && entities.accountIds.isEmpty then do
    let found ← matchAccountNames question auth
    match found with
    | [] => pure entities
    | [accountId] => pure {entities with accountIds := [accountId]}
    | several => pure {entities with ambiguousAccountNames := several}
  else pure entities

end Entities

-- app/agent/intent.py
inductive Intent where
  | informational | orderInvestigation | ticketInvestigation | accountInvestigation
  | cancellation | serviceCredit | sla | severity | knownIssue | multiSource
  | clarification | unsupported
deriving DecidableEq,Repr

section Wording

variable [Host]

open Pattern

-- `\w*`
def wordTail : Pattern := .many Host.isWord 0 none

def anyOf (wordings : List Pattern) : Pattern := sequence [boundary,oneOf wordings,boundary]

-- `cancel(l?ation)?`, `first[- ]response`, `sever(ity|e)`, `priorit(y|ize)`
def cancelWords : Pattern := .seq (text "cancel") (.maybe (.seq (.maybe (text "l")) (text "ation")))

def firstResponse : Pattern :=
  sequence [text "first",.one (fun c => c = '-' || c = ' '),text "response"]

def severWords : Pattern := .seq (text "sever") (.either (text "ity") (text "e"))

def priorityWords : Pattern := .seq (text "priorit") (.either (text "y") (text "ize"))

def cancellationWords : Pattern := anyOf [cancelWords]

def serviceCreditWords : Pattern :=
  anyOf [text "credit",text "refund",.seq (text "compensat") wordTail]

def slaWords : Pattern := anyOf [text "sla",text "deadline",.seq (text "breach") wordTail,
  firstResponse,text "response time"]

def knownIssueWords : Pattern := anyOf [text "known issue",text "bug",
  .seq (text "ki-") (.many Host.isDigit 1 none),text "webhook",text "outage"]

def severityWords : Pattern := .either (anyOf [severWords]) (anyOf [priorityWords])

def worded (question : String) (wording : Pattern) : Bool := search Host.isWord wording question

def resolveIntent (question : String) (entities : EntityResolution) : Intent :=
  if entities.needsClarification then .clarification
  else if Py.isBlank question then .unsupported
  else
    let signals :=
      (if worded question cancellationWords && !entities.orderIds.isEmpty then
        [Intent.cancellation] else []) ++
      (if worded question serviceCreditWords && !entities.orderIds.isEmpty then
        [Intent.serviceCredit] else []) ++
      (if worded question slaWords && !entities.ticketIds.isEmpty then [Intent.sla] else []) ++
      (if worded question severityWords && !entities.ticketIds.isEmpty then
        [Intent.severity] else []) ++
      (if worded question knownIssueWords then [Intent.knownIssue] else [])
    match signals with
    | _ :: _ :: _ => .multiSource
    | [signal] => signal
    | [] =>
        if !entities.orderIds.isEmpty then .orderInvestigation
        else if !entities.ticketIds.isEmpty then .ticketInvestigation
        else if !entities.accountIds.isEmpty then .accountInvestigation
        else .informational

-- app/agent/clarification.py
def instanceSignals : Pattern := anyOf [cancelWords,text "credit",text "refund",
  .seq (text "compensat") wordTail,text "sla",.seq (text "breach") wordTail,firstResponse,
  text "deadline",severWords,priorityWords]

def aggregateSignals : Pattern := anyOf [text "every",text "all",text "each",text "which ones",
  .seq (text "across ") (.either (text "all") (text "every")),
  sequence [text "review",boundary,.many (· != '\n') 0 none,boundary,plural "ticket"]]

def needsAccountClarification (question : String) (entities : EntityResolution)
    (auth : AuthContext) : Option String :=
  if !entities.orderIds.isEmpty || !entities.ticketIds.isEmpty then none
  else if !worded question instanceSignals then none
  else if worded question aggregateSignals then none
  else if !entities.accountIds.isEmpty then none
  else if auth.accountScope.any (·.length = 1) then none
  else some ("this question needs a specific order, ticket, or account to investigate, " ++
    "but none was named and the caller's access spans " ++
    (match auth.accountScope with
      | none => "any account"
      | some scope => toString scope.length ++ " accounts") ++
    " - please specify which account, order, or ticket")

end Wording

-- app/agent/planner.py
structure PlanStep where
  purpose : String
  args : ToolRequest

def PlanStep.tool (step : PlanStep) : ToolName := step.args.tool

structure Plan where
  intent : Intent
  steps : List PlanStep

def lookupOrder (orderId : String) : PlanStep :=
  ⟨"resolve order " ++ orderId,.lookupStructuredData {kind := .getOrder, entityId := some orderId}⟩

def lookupTicket (ticketId : String) : PlanStep :=
  ⟨"resolve ticket " ++ ticketId,
    .lookupStructuredData {kind := .getTicket, entityId := some ticketId}⟩

def lookupAccount (accountId : String) : PlanStep :=
  ⟨"resolve account " ++ accountId,
    .lookupStructuredData {kind := .getAccount, entityId := some accountId}⟩

def searchStep (query purpose : String) (sourceTypes : Option (List SourceType) := none) : PlanStep :=
  ⟨purpose,.searchDocuments {query := query, sourceTypes := sourceTypes, topK := 5}⟩

def calculateStep (calcType : CalculationType) (entityId purpose : String) : PlanStep :=
  ⟨purpose,.calculateSupportOutcome ⟨calcType,entityId⟩⟩

def cancellationStep (orderId : String) : PlanStep :=
  calculateStep .cancellation orderId ("cancellation outcome for " ++ orderId)

def serviceCreditStep (orderId : String) : PlanStep :=
  calculateStep .serviceCredit orderId ("service credit outcome for " ++ orderId)

def slaStep (ticketId : String) : PlanStep :=
  calculateStep .sla ticketId ("SLA outcome for " ++ ticketId)

def severityStep (ticketId : String) : PlanStep :=
  calculateStep .severity ticketId ("severity classification for " ++ ticketId)

def buildPlan (question : String) (intent : Intent) (entities : EntityResolution) : Plan where
  intent := intent
  steps := match intent with
    | .cancellation =>
        entities.orderIds.flatMap (fun orderId => [lookupOrder orderId,cancellationStep orderId]) ++
          [searchStep question "retrieve applicable cancellation policy/agreement"]
    | .serviceCredit =>
        entities.orderIds.flatMap (fun orderId => [lookupOrder orderId,serviceCreditStep orderId]) ++
          [searchStep question "retrieve applicable service-credit policy/agreement"]
    | .sla =>
        entities.ticketIds.flatMap (fun ticketId => [lookupTicket ticketId,slaStep ticketId]) ++
          [searchStep question "retrieve applicable SLA/first-response policy"]
    | .severity =>
        entities.ticketIds.flatMap (fun ticketId => [lookupTicket ticketId,severityStep ticketId]) ++
          [searchStep question "retrieve severity definitions" (some [.supportPolicy])]
    | .knownIssue =>
        [searchStep question "retrieve product documentation / known issues" (some [.productDoc])]
    | .orderInvestigation =>
        entities.orderIds.map lookupOrder ++
          [searchStep question "retrieve any relevant policy context"]
    | .ticketInvestigation =>
        entities.ticketIds.map lookupTicket ++
          [searchStep question "retrieve any relevant policy context"]
    | .accountInvestigation =>
        entities.accountIds.map lookupAccount ++
          [searchStep question "retrieve the account's agreement, if any"]
    | .multiSource =>
        entities.orderIds.map lookupOrder ++ entities.ticketIds.map lookupTicket ++
          [searchStep question "retrieve applicable policy across the referenced entities"] ++
          entities.orderIds.flatMap (fun orderId =>
            [cancellationStep orderId,serviceCreditStep orderId]) ++
          entities.ticketIds.map slaStep
    | .informational => [searchStep question "retrieve relevant policy/document evidence"]
    -- asked back or refused before there is a plan
    | .clarification => []
    | .unsupported => []

end ParcelPilot
