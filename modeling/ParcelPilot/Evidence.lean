import ParcelPilot.Planning

namespace ParcelPilot

-- app/agent/evidence_pack.py
def citeRecord : Record → EvidenceRef
  | .account row => citeStructured "accounts" row.accountId
  | .order row => citeStructured "orders" row.orderId
  | .ticket row => citeStructured "tickets" row.ticketId

def citeResult (result : DocumentSearchResult) : EvidenceRef :=
  ⟨.document,result.sourceId,
    some ("p" ++ toString result.page ++ ":" ++ result.section_.getD "None"),some result.snippet⟩

structure EvidencePack where
  question : String
  intent : Intent
  entities : EntityResolution
  structuredFacts : List (List (String × PyValue))
  documentEvidence : List DocumentSearchResult
  domainResults : List (List (String × PyValue))
  domainTrustStates : List TrustState
  citations : List EvidenceRef
  assumptions : List String
  conflicts : List Conflict
  needsHumanReview : Bool
  snapshotTime : DateTime
  accountScope : Option (List String)

namespace ToolOutput

def records : ToolOutput → List Record
  | .lookupStructuredData response => response.records
  | _ => []

def documents : ToolOutput → List DocumentSearchResult
  | .searchDocuments response => response.results
  | _ => []

def calculation : ToolOutput → Option CalculateSupportOutcomeResponse
  | .calculateSupportOutcome response => some response
  | _ => none

def cited : ToolOutput → List EvidenceRef
  | .lookupStructuredData response => response.records.map citeRecord
  | .searchDocuments response => response.results.map citeResult
  | .calculateSupportOutcome response => response.evidence
  | .detectIssues _ => []

end ToolOutput

-- `if not result.success or result.output is None: continue`
def ToolResult.usable (result : ToolResult) : Option ToolOutput :=
  if result.success then result.output else none

def ToolResult.calculated (result : ToolResult) : Option CalculateSupportOutcomeResponse :=
  result.usable.bind (·.calculation)

-- What is not usable leaves no trace in the pack, a failed calculation included.
def buildEvidencePack (question : String) (intent : Intent) (entities : EntityResolution)
    (toolResults : List ToolResult) (snapshotTime : DateTime) (accountScope : Option (List String)) :
    EvidencePack :=
  let outputs := toolResults.filterMap (·.usable)
  let calculations := toolResults.filterMap (·.calculated)
  { question := question
    intent := intent
    entities := entities
    structuredFacts := outputs.flatMap fun output => output.records.map (·.dump)
    documentEvidence := outputs.flatMap (·.documents)
    domainResults := calculations.filterMap (·.result)
    domainTrustStates := calculations.map (·.trustState)
    -- the first occurrence only, by (source_id, locator)
    citations := Py.firstOccurrences (fun ref : EvidenceRef => (ref.sourceId,ref.locator)) []
      (outputs.flatMap (·.cited))
    assumptions := calculations.flatMap (·.assumptions)
    conflicts := calculations.flatMap (·.conflicts)
    needsHumanReview := calculations.any (·.needsHumanReview)
    snapshotTime := snapshotTime
    accountScope := accountScope }

-- app/agent/evidence_sufficiency.py
def questionStopwords : List String := [
  "what","when","where","which","who","whom","whose","why","how",
  "does","did","done","have","has","had","will","would","should",
  "could","shall","must","about","explain","describe","tell","please",
  "the","a","an","and","or","of","to","for","in","on","at","is",
  "are","was","were","be","been","being","this","that","these",
  "those","with","by","as","it","its","from","into","over","under",
  "than","then","there","here","some","any","all","each","every",
  "not","never","just","only","also","very","more","most","such"]

def scoreMarginBelowFloor : Rat := 2
def strongScore : Rat := minRelevanceScore - scoreMarginBelowFloor
def minCorroboratingChunks : Nat := 2

-- The best overlap reaches the minimum when some overlap does; so does the score.
def isDocumentEvidenceSufficient [Host] (question : String)
    (documentEvidence : List DocumentSearchResult) : Bool :=
  let queryTokens := tokensBeyond questionStopwords question
  if documentEvidence.isEmpty || queryTokens.isEmpty then false
  else if documentEvidence.any (fun chunk =>
      minSharedTokens ≤ sharedTokens queryTokens (tokensBeyond questionStopwords chunk.snippet)) then
    true
  else documentEvidence.any (·.score ≤ strongScore) &&
    minCorroboratingChunks ≤ documentEvidence.length

-- app/agent/trust_gate.py
def severityOrder : TrustState → Nat
  | .confident => 0
  | .conditional => 1
  | .uncertain => 2
  | .escalate => 3

-- `max(states, key=...)`: the first of the worst
def worst (first : TrustState) (rest : List TrustState) : TrustState :=
  rest.foldl (fun soFar state =>
    if severityOrder soFar < severityOrder state then state else soFar) first

def enforceTrustGate (domainTrustStates : List TrustState) (hasDocumentEvidence : Bool) :
    TrustState :=
  match domainTrustStates with
  | first :: rest => worst first rest
  | [] => if hasDocumentEvidence then .conditional else .uncertain

theorem worst_bounds (first : TrustState) (rest : List TrustState) :
    ∀ state ∈ first :: rest, severityOrder state ≤ severityOrder (worst first rest) := by
  induction rest generalizing first with
  | nil =>
      intro state member
      cases List.mem_singleton.mp member
      exact Nat.le_refl _
  | cons next rest ih =>
      intro state member
      let kept := if severityOrder first < severityOrder next then next else first
      have bound := ih kept
      have both : severityOrder first ≤ severityOrder kept ∧ severityOrder next ≤ severityOrder kept := by
        unfold kept
        split <;> omega
      have top := bound kept (by simp)
      rcases List.mem_cons.mp member with rfl | later
      · exact Nat.le_trans both.1 top
      · rcases List.mem_cons.mp later with rfl | last
        · exact Nat.le_trans both.2 top
        · exact bound state (by simp [last])

theorem worst_member (first : TrustState) (rest : List TrustState) :
    worst first rest ∈ first :: rest := by
  induction rest generalizing first with
  | nil => simp [worst]
  | cons next rest ih =>
      have found := ih (if severityOrder first < severityOrder next then next else first)
      rcases List.mem_cons.mp found with same | later
      · rw [show worst first (next :: rest) = _ from same]
        split <;> simp
      · exact List.mem_cons_of_mem _ (List.mem_cons_of_mem _ later)

theorem gate_bounds {states : List TrustState} (documents : Bool) :
    ∀ state ∈ states, severityOrder state ≤ severityOrder (enforceTrustGate states documents) := by
  cases states with
  | nil => simp
  | cons first rest => exact worst_bounds first rest

theorem gate_confident_iff {states : List TrustState} {documents : Bool} :
    enforceTrustGate states documents = .confident ↔
      states ≠ [] ∧ ∀ state ∈ states, state = .confident := by
  cases states with
  | nil => cases documents <;> simp [enforceTrustGate]
  | cons first rest =>
      constructor
      · intro confident
        refine ⟨by simp,fun state member => ?_⟩
        have bound := gate_bounds documents state member
        rw [confident] at bound
        cases state <;> simp_all [severityOrder]
      · rintro ⟨_,all⟩
        exact all _ (worst_member first rest)

-- app/agent/citations.py
def citationKey (ref : EvidenceRef) : String :=
  match ref.locator with
  | none => ref.sourceId
  | some locator => if locator = "" then ref.sourceId else ref.sourceId ++ ":" ++ locator

def markerChar (c : Char) : Bool := c.isAlphanum || c = '_' || c = '.' || c = ':' || c = '-'

-- `\[([A-Za-z0-9_.:\-]+)\]`
def citationMarker : Pattern :=
  .sequence [.one (· = '['),.many markerChar 1 none,.one (· = ']')]

structure CitationValidationResult where
  valid : Bool
  citedMarkers : List String
  invalidMarkers : List String
deriving DecidableEq,Repr

section Citations

variable [Host]

-- The group between the brackets.
def extractCitationMarkers (text : String) : List String :=
  (Pattern.findAll Host.isWord citationMarker text).map fun found =>
    String.ofList (found.toList.drop 1).dropLast

def acceptsMarker (citations : List EvidenceRef) (marker : String) : Bool :=
  marker ∈ citations.map citationKey || Py.before ':' marker ∈ citations.map (·.sourceId)

def validateCitations (text : String) (pack : EvidencePack) : CitationValidationResult :=
  let markers := extractCitationMarkers text
  let invalid := markers.filter fun marker => !acceptsMarker pack.citations marker
  ⟨invalid.isEmpty,markers,invalid⟩

theorem validateCitations_valid {text : String} {pack : EvidencePack} :
    (validateCitations text pack).valid = true ↔
      ∀ marker ∈ extractCitationMarkers text, acceptsMarker pack.citations marker = true := by
  simp [validateCitations]

end Citations

end ParcelPilot
