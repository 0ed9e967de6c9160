import ParcelPilot.Sla

namespace ParcelPilot

-- app/detection/models.py
inductive AlertType where
  | slaBreach | slaApproaching | recurringIssue | knownIssuePattern | carrierPattern | overduePickup
deriving DecidableEq,Repr

inductive AlertSeverity where
  | low | medium | high | critical
deriving DecidableEq,Repr

def AlertType.value : AlertType → String
  | .slaBreach => "sla_breach"
  | .slaApproaching => "sla_approaching"
  | .recurringIssue => "recurring_issue"
  | .knownIssuePattern => "known_issue_pattern"
  | .carrierPattern => "carrier_pattern"
  | .overduePickup => "overdue_pickup"

structure AlertCandidate where
  alertId : String
  alertType : AlertType
  severity : AlertSeverity
  title : String
  reason : String
  observedCount : Int
  threshold : Int
  timeWindow : String
  representativeRecords : List String
  affectedAccounts : List String
  evidence : List EvidenceRef
  recommendedNextStep : String
  trustState : TrustState
  ruleVersion : String
deriving DecidableEq,Repr

-- app/detection/rules.py
def ruleVersion : String := "v1"
def slaAlertSeverities : List Severity := [.p1,.p2]
def defaultApproachingWarningRatio : Rat := 1 / 4
def defaultRecurringSeverityThreshold : Int := 2
def defaultCarrierFaultThreshold : Int := 2
def defaultKnownIssueMinOccurrences : Int := 1
def minSharedTokens : Nat := 2
def defaultWindowDays : Int := 30
def pointInTime : String := "point-in-time (dataset snapshot)"

def stopwords : List String := [
  "the","a","an","and","or","of","to","for","in","on","at","is","are",
  "was","were","be","this","that","with","by","as","it","its","opened",
  "status","investigating","current","known","issue","issues","some","even",
  "though","remains","product","limit","customers","experience","above",
  "approximately","customer","while","still","before","arrive","telling",
  "shipment","shipments","creation","creating","order","orders",
  "account","accounts","user","users"]

section Rules

variable [Host]

-- app/detection/fingerprint.py
def computeAlertId (alertType : AlertType) (timeWindow version : String)
    (affectedEntities : List String) : String :=
  "ALERT-" ++ Py.truncate 16 (Host.sha256Hex (Py.join "|"
    [alertType.value,timeWindow,version,Py.join "," (Py.sortedSet affectedEntities)]))

-- `\bKI-\d+\b`
def kiId : Pattern := .sequence [.boundary,.literal (· = ·) "KI-",.many Host.isDigit 1 none,.boundary]

-- `[a-z]{4,}`
def token : Pattern := .many (fun c => 'a' ≤ c && c ≤ 'z') 4 none

def tokensBeyond (ignored : List String) (text : String) : List String :=
  ((Pattern.findAll Host.isWord token (Host.lower text)).filter (· ∉ ignored)).dedup

def significantTokens : String → List String := tokensBeyond stopwords

-- `len(a & b)`
def sharedTokens (one two : List String) : Nat := (one.filter (· ∈ two)).length

-- What the two SLA rules require of a calculation before they look at it.
def alertable (decision : DecisionResult SlaOutcome) : Option SlaOutcome :=
  match decision.result with
  | none => none
  | some outcome =>
      if outcome.severity ∈ slaAlertSeverities ∧ decision.trustState = .confident then some outcome
      else none

def slaAlertId (alertType : AlertType) (ticket : Ticket) : String :=
  computeAlertId alertType "point-in-time" ruleVersion [ticket.ticketId]

def slaAlertEvidence (ticket : Ticket) (decision : DecisionResult SlaOutcome) : List EvidenceRef :=
  citeStructured "tickets" ticket.ticketId (some ticket.subject) :: decision.evidence

def slaBreachAlert (ticket : Ticket) (decision : DecisionResult SlaOutcome) : Option AlertCandidate :=
  match alertable decision with
  | none => none
  | some outcome =>
      if outcome.breached ≠ some true then none
      else some {
        alertId := slaAlertId .slaBreach ticket
        alertType := .slaBreach
        severity := if outcome.severity = .p1 then .critical else .high
        title := outcome.severity.value ++ " SLA breach: " ++ ticket.ticketId
        reason := ticket.ticketId ++ " (" ++ outcome.severity.value ++ ") is " ++
          Host.fixed 0 (outcome.elapsedMinutesPastDeadline.getD 0) ++
          " minutes past its first-response deadline (" ++ outcome.targetText ++ ")."
        observedCount := 1
        threshold := 1
        timeWindow := pointInTime
        representativeRecords := [ticket.ticketId]
        affectedAccounts := [ticket.accountId]
        evidence := slaAlertEvidence ticket decision
        recommendedNextStep := "Review for immediate escalation (prepare_escalation requires " ++
          "separate confirmation before anything is actually escalated)."
        trustState := decision.trustState
        ruleVersion := ruleVersion }

def slaApproachingAlert (warningRatio : Rat) (ticket : Ticket)
    (decision : DecisionResult SlaOutcome) : Option AlertCandidate :=
  match alertable decision with
  | none => none
  | some outcome =>
      if outcome.breached = some true then none
      else match outcome.targetMinutes,outcome.elapsedMinutesPastDeadline with
        | some targetMinutes,some elapsed =>
            if targetMinutes * warningRatio < -elapsed then none
            else some {
              alertId := slaAlertId .slaApproaching ticket
              alertType := .slaApproaching
              severity := if outcome.severity = .p1 then .high else .medium
              title := outcome.severity.value ++ " SLA approaching: " ++ ticket.ticketId
              reason := ticket.ticketId ++ " (" ++ outcome.severity.value ++ ") has " ++
                negated elapsed ++ " of " ++ toString targetMinutes ++
                " minutes remaining before its first-response deadline."
              observedCount := 1
              threshold := 1
              timeWindow := pointInTime
              representativeRecords := [ticket.ticketId]
              affectedAccounts := [ticket.accountId]
              evidence := slaAlertEvidence ticket decision
              recommendedNextStep := "Prioritize a first response before the deadline passes."
              trustState := decision.trustState
              ruleVersion := ruleVersion }
        | _,_ => none

-- One alert at most for each open ticket, from its SLA calculation.
def detectSla (alert : Ticket → DecisionResult SlaOutcome → Option AlertCandidate)
    (auth : AuthContext) (clock : SnapshotClock) (registry : Registry) :
    Query (List AlertCandidate) := do
  let tickets ← searchTickets auth clock.tz none (some .open_)
  Fallible.collect (fun ticket => do
    let decision ← calculateSla ticket.ticketId auth clock registry
    pure (alert ticket decision)) tickets

def detectSlaBreaches : AuthContext → SnapshotClock → Registry → Query (List AlertCandidate) :=
  detectSla slaBreachAlert

def detectSlaApproaching (warningRatio : Rat) :
    AuthContext → SnapshotClock → Registry → Query (List AlertCandidate) :=
  detectSla (slaApproachingAlert warningRatio)

def windowDesc (windowDays : Int) : String := toString windowDays ++ "d"

-- A ticket that counts towards a recurring pattern, with the severity it counts for.
def recurringEntry (ticket : Ticket) (decision : DecisionResult SlaOutcome) :
    Option (Severity × Ticket) :=
  match decision.result with
  | none => none
  | some outcome =>
      if outcome.severity ∈ [Severity.p1,.p2] ∧
          decision.trustState ∈ [TrustState.confident,.conditional] then
        some (outcome.severity,ticket)
      else none

def recurringAlert (threshold windowDays : Int) (severity : Severity) (tickets : List Ticket) :
    Option AlertCandidate :=
  let ticketIds := tickets.map (·.ticketId)
  let count := ticketIds.length
  if (count : Int) < threshold then none
  else some {
    alertId := computeAlertId .recurringIssue (windowDesc windowDays) ruleVersion ticketIds
    alertType := .recurringIssue
    severity := if severity = .p1 then .high else .medium
    title := toString count ++ " open " ++ severity.value ++ " tickets"
    reason := toString count ++ " tickets currently open and classified " ++ severity.value ++
      " within the last " ++ toString windowDays ++ " days - at or above the threshold of " ++
      toString threshold ++ " for a recurring high-severity pattern."
    observedCount := count
    threshold := threshold
    timeWindow := windowDesc windowDays
    representativeRecords := Py.sorted ticketIds
    affectedAccounts := Py.sortedSet (tickets.map (·.accountId))
    evidence := (Py.sorted ticketIds).map (citeStructured "tickets" ·)
    recommendedNextStep :=
      "Review open high-severity tickets for a common root cause or staffing gap."
    trustState := .confident
    ruleVersion := ruleVersion }

def detectRecurringSeverity (auth : AuthContext) (clock : SnapshotClock)
    (threshold windowDays : Int) (registry : Registry) : Query (List AlertCandidate) := do
  let cutoff ← orRaise (clock.now.minusDays windowDays)
  let tickets ← searchTickets auth clock.tz none (some .open_)
  let counted ← Fallible.collect (fun ticket =>
    if ticket.createdAt < cutoff then pure none
    else do
      let decision ← calculateSla ticket.ticketId auth clock registry
      pure (recurringEntry ticket decision)) tickets
  pure ([Severity.p1,.p2].filterMap fun severity =>
    recurringAlert threshold windowDays severity
      ((counted.filter (·.1 = severity)).map (·.2)))

structure KnownIssue where
  kiId : String
  sourceId : String
  section_ : Option String
  resolved : Bool
  tokens : List String
deriving DecidableEq,Repr

-- From each mention up to the next, the last up to the end of the text.
def segments : List (Pattern.Cursor × List Char) → List (String × String)
  | [] => []
  | [(start,found)] => [(String.ofList found,String.ofList start.after)]
  | (start,found) :: (next,after) :: rest =>
      (String.ofList found,
        String.ofList (start.after.take (start.after.length - next.after.length))) ::
          segments ((next,after) :: rest)

def parseKnownIssues : Query (List KnownIssue) := do
  let rows ← select .knownIssueChunks
  pure (rows.flatMap fun row =>
    (segments (Pattern.findIter Host.isWord kiId row.text)).map fun (mention,segment) =>
      { kiId := mention, sourceId := row.sourceId, section_ := row.section_
        resolved := Py.occursIn "resolved" (Host.lower segment)
        tokens := significantTokens segment })

def scopeNote (distinctAccounts : List String) : String :=
  match distinctAccounts with
  | [account] => "both/all matching tickets belong to " ++ account ++
      " - a repeat for one account, not yet a cross-customer pattern"
  | _ => "matching tickets span " ++ toString distinctAccounts.length ++
      " distinct accounts - a cross-customer pattern"

def knownIssueAlert (minOccurrences windowDays : Int) (issue : KnownIssue) (found : List Ticket)
    (documented : EvidenceRef) : AlertCandidate :=
  let ticketIds := found.map (·.ticketId)
  let count := found.length
  let distinctAccounts := Py.sortedSet (found.map (·.accountId))
  { alertId := computeAlertId .knownIssuePattern (windowDesc windowDays) ruleVersion
      (issue.kiId :: ticketIds)
    alertType := .knownIssuePattern
    severity := .medium
    title := "Active known issue " ++ issue.kiId ++ " matches " ++ toString count ++ " ticket(s)"
    reason := issue.kiId ++ " is a currently active known issue with " ++ toString count ++
      " ticket(s) whose description overlaps its documented symptoms (" ++
      scopeNote distinctAccounts ++ ")."
    observedCount := count
    threshold := minOccurrences
    timeWindow := windowDesc windowDays
    representativeRecords := Py.sorted ticketIds
    affectedAccounts := distinctAccounts
    evidence := documented :: ticketIds.map (citeStructured "tickets" ·)
    recommendedNextStep :=
      "Cross-reference " ++ issue.kiId ++ "'s documented workaround with affected customers."
    trustState := .confident
    ruleVersion := ruleVersion }

def detectKnownIssuePatterns (auth : AuthContext) (clock : SnapshotClock)
    (minOccurrences windowDays : Int) : Query (List AlertCandidate) := do
  let cutoff ← orRaise (clock.now.minusDays windowDays)
  let parsed ← parseKnownIssues
  let knownIssues := parsed.filter (!·.resolved)
  if knownIssues.isEmpty then pure []
  else do
    let tickets ← searchTickets auth clock.tz none none
    let candidates := tickets.filter (cutoff ≤ ·.createdAt)
    Fallible.collect (fun issue => do
      let found := candidates.filter fun ticket =>
        minSharedTokens ≤ sharedTokens
          (significantTokens (ticket.subject ++ " " ++ ticket.description)) issue.tokens
      if (found.length : Int) < minOccurrences then pure none
      else do
        let documented ← citeDocument issue.sourceId issue.section_ (some issue.kiId)
        pure (some (knownIssueAlert minOccurrences windowDays issue found documented))) knownIssues

def carrierAlert (threshold windowDays : Int) (carrier : String) (orders : List Order) :
    Option AlertCandidate :=
  let orderIds := orders.map (·.orderId)
  let count := orderIds.length
  if (count : Int) < threshold then none
  else some {
    alertId := computeAlertId .carrierPattern (windowDesc windowDays) ruleVersion orderIds
    alertType := .carrierPattern
    severity := .medium
    title := "Multiple carrier-fault orders for " ++ carrier
    reason := toString count ++ " orders associated with carrier " ++ carrier ++
      " were observed with carrier_fault recorded, at or above the threshold of " ++
      toString threshold ++ " within " ++ toString windowDays ++ " days."
    observedCount := count
    threshold := threshold
    timeWindow := windowDesc windowDays
    representativeRecords := Py.sorted orderIds
    affectedAccounts := Py.sortedSet (orders.map (·.accountId))
    evidence := (Py.sorted orderIds).map (citeStructured "orders" ·)
    recommendedNextStep := "Review " ++ carrier ++ "'s recent pickup performance with ops."
    trustState := .confident
    ruleVersion := ruleVersion }

def detectCarrierPatterns (auth : AuthContext) (clock : SnapshotClock)
    (threshold windowDays : Int) : Query (List AlertCandidate) := do
  let cutoff ← orRaise (clock.now.minusDays windowDays)
  let orders ← searchOrders auth clock.tz none none none
  let faulty := orders.filter fun order => order.carrierFault && !(order.bookedAt < cutoff)
  let byCarrier := faulty.foldl (fun dict order => Py.dictAppend dict order.carrier order) []
  pure (byCarrier.filterMap fun (carrier,orders) =>
    carrierAlert threshold windowDays carrier orders)

def overduePickupAlert (snapshot : DateTime) (order : Order) : Option AlertCandidate :=
  if order.pickupActualAt.isSome ∨ snapshot ≤ order.pickupWindowEnd then none
  else some {
    alertId := computeAlertId .overduePickup "point-in-time" ruleVersion [order.orderId]
    alertType := .overduePickup
    severity := if order.carrierFault then .high else .medium
    title := "Overdue pickup: " ++ order.orderId
    reason := order.orderId ++ "'s pickup window ended " ++
      Host.fixed 1 (snapshot.hoursSince order.pickupWindowEnd) ++
      " hours ago with no recorded pickup and no cancellation."
    observedCount := 1
    threshold := 1
    timeWindow := pointInTime
    representativeRecords := [order.orderId]
    affectedAccounts := [order.accountId]
    evidence := [citeStructured "orders" order.orderId]
    recommendedNextStep :=
      "A service credit may be due - check via calculate_support_outcome (service_credit)."
    trustState := .confident
    ruleVersion := ruleVersion }

def detectOverduePickups (auth : AuthContext) (clock : SnapshotClock) :
    Query (List AlertCandidate) := do
  let orders ← searchOrders auth clock.tz none (some .booked) none
  pure (orders.filterMap (overduePickupAlert clock.now))

-- app/detection/service.py
def allRules : List AlertType :=
  [.slaBreach,.slaApproaching,.recurringIssue,.knownIssuePattern,.carrierPattern,.overduePickup]

def severityRank : AlertSeverity → Nat
  | .critical => 0
  | .high => 1
  | .medium => 2
  | .low => 3

def runRule (auth : AuthContext) (clock : SnapshotClock) (windowDays : Int) (registry : Registry) :
    AlertType → Query (List AlertCandidate)
  | .slaBreach => detectSlaBreaches auth clock registry
  | .slaApproaching => detectSlaApproaching defaultApproachingWarningRatio auth clock registry
  | .recurringIssue =>
      detectRecurringSeverity auth clock defaultRecurringSeverityThreshold windowDays registry
  | .knownIssuePattern =>
      detectKnownIssuePatterns auth clock defaultKnownIssueMinOccurrences windowDays
  | .carrierPattern => detectCarrierPatterns auth clock defaultCarrierFaultThreshold windowDays
  | .overduePickup => detectOverduePickups auth clock

def alertBefore (one two : AlertCandidate) : Prop :=
  severityRank one.severity < severityRank two.severity ∨
    severityRank one.severity = severityRank two.severity ∧ one.alertId ≤ two.alertId

instance (one two : AlertCandidate) : Decidable (alertBefore one two) :=
  inferInstanceAs (Decidable (_ ∨ _))

-- `seen[alert.alert_id] = alert`, then most severe first
def ranking (alerts : List AlertCandidate) : List AlertCandidate :=
  ((alerts.foldl (fun seen alert => Py.dictSet seen alert.alertId alert) []).map
    (·.2)).insertionSort alertBefore

def runOperationsRadar (auth : AuthContext) (clock : SnapshotClock)
    (alertTypes : Option (List AlertType)) (windowDays : Int) (registry : Registry) :
    Query (List AlertCandidate) :=
  if auth.role = .restrictedSupport then
    throw (.notAuthorized "cross-account detection requires operations_admin")
  else do
    -- `alert_types or list(_ALL_RULES)`
    let typesToRun := match alertTypes.getD [] with
      | [] => allRules
      | types => types
    let found ← Fallible.collect (fun alertType => do
      let alerts ← runRule auth clock windowDays registry alertType
      pure (some alerts)) typesToRun
    pure (ranking found.flatten)

def groupByAccount (alerts : List AlertCandidate) : List (String × List String) :=
  (Py.sortedSet (alerts.flatMap (·.affectedAccounts))).map fun accountId =>
    (accountId,Py.sortedSet ((alerts.filter (accountId ∈ ·.affectedAccounts)).map (·.alertId)))

end Rules

end ParcelPilot
