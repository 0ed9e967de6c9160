import ParcelPilot.AnswerGuarantees
import ParcelPilot.Dictionaries

namespace ParcelPilot

section Provenance

variable [Host] {db : Db} {auth : AuthContext} {clock : SnapshotClock} {tools : ToolRegistry}
  {question model : String} {context : AgentRequestContext} {budget : AgentBudget}
  {surroundings : Surroundings} {progress after : Progress}

-- What a request gives when it succeeds, whenever it is made.
inductive Produced (db : Db) (auth : AuthContext) (clock : SnapshotClock) :
    ToolRequest → ToolOutput → Prop where
  | searched (found : (searchDocuments request.query ⟨request.sourceTypes,request.authorityClasses,
      request.statuses,auth.accountScope⟩ request.topK).on db = .ok rawResults) (latencyMs : Rat) :
      Produced db auth clock (.searchDocuments request) (.searchDocuments
        ⟨request.query,rawResults.filter (·.score ≤ minRelevanceScore),latencyMs⟩)
  | looked (found : (lookUp request auth clock).on db = .ok records) (latencyMs : Rat) :
      Produced db auth clock (.lookupStructuredData request)
        (.lookupStructuredData ⟨request.kind,records,latencyMs⟩)
  | calculated (found : (calculate request auth clock).on db = .ok respond) (latencyMs : Rat) :
      Produced db auth clock (.calculateSupportOutcome request)
        (.calculateSupportOutcome (respond latencyMs))
  | detected (request : DetectIssuesRequest) (response : DetectIssuesResponse) :
      Produced db auth clock (.detectIssues request) (.detectIssues response)

theorem measured_ok {query : Query α} {value : α} {latencyMs : Rat}
    (ran : (measured (querying query)).under db surroundings progress =
      (.ok (value,latencyMs),after)) : query.on db = .ok value := by
  obtain ⟨start,_,_,ran⟩ := under_bind_ok.mp ran
  obtain ⟨found,_,asked,ran⟩ := under_bind_ok.mp ran
  obtain ⟨finish,_,_,ran⟩ := under_bind_ok.mp ran
  rw [under_querying] at asked
  cases ran
  exact (Prod.mk.inj asked).1

theorem dispatch_produced {request : ToolRequest} {output : ToolOutput}
    (ran : (dispatch auth clock request).under db surroundings progress = (.ok output,after)) :
    Produced db auth clock request output := by
  cases request with
  | searchDocuments request =>
      obtain ⟨response,_,ran,last⟩ := under_bind_ok.mp ran
      obtain ⟨⟨rawResults,latencyMs⟩,_,asked,ran⟩ := under_bind_ok.mp ran
      cases ran
      cases last
      exact .searched (measured_ok asked) latencyMs
  | lookupStructuredData request =>
      obtain ⟨response,_,ran,last⟩ := under_bind_ok.mp ran
      obtain ⟨⟨records,latencyMs⟩,_,asked,ran⟩ := under_bind_ok.mp ran
      cases ran
      cases last
      exact .looked (measured_ok asked) latencyMs
  | calculateSupportOutcome request =>
      obtain ⟨response,_,ran,last⟩ := under_bind_ok.mp ran
      obtain ⟨⟨respond,latencyMs⟩,_,asked,ran⟩ := under_bind_ok.mp ran
      cases ran
      cases last
      exact .calculated (measured_ok asked) latencyMs
  | detectIssues request =>
      obtain ⟨response,_,_,last⟩ := under_bind_ok.mp ran
      cases last
      exact .detected request response

theorem attemptOnce_produced {request : ToolRequest} {name : ToolName} {spec : ToolSpec}
    {attempt : Nat} {result : ToolResult}
    (ran : (attemptOnce name spec (dispatch auth clock request) attempt).under db surroundings
      progress = (.ok result,after)) :
    result.success = false ∨
      ∃ output, result.output = some output ∧ Produced db auth clock request output := by
  obtain ⟨start,begun,_,ran⟩ := under_bind_ok.mp ran
  obtain ⟨outcome,ended,attempted,ran⟩ := under_bind_ok.mp ran
  obtain ⟨finish,_,_,ran⟩ := under_bind_ok.mp ran
  cases ran
  change Fallible.perform _ (Fallible.attempt (dispatch auth clock request)) begun = _ at attempted
  rw [Fallible.perform_attempt] at attempted
  cases attempted
  cases reached : (Fallible.perform (agentStep db surroundings) (dispatch auth clock request) begun).1 with
  | error exc => exact .inl rfl
  | ok output =>
      unfold settle
      dsimp only
      split
      · exact .inl rfl
      · exact .inr ⟨output,rfl,dispatch_produced (Prod.ext reached rfl)⟩

theorem attemptLoop_produced {request : ToolRequest} {name : ToolName} {spec : ToolSpec}
    {left attempt : Nat} {result : ToolResult}
    (ran : (attemptLoop name spec (dispatch auth clock request) left attempt).under db surroundings
      progress = (.ok result,after)) :
    result.success = false ∨
      ∃ output, result.output = some output ∧ Produced db auth clock request output := by
  induction left generalizing attempt progress with
  | zero => exact attemptOnce_produced ran
  | succ left ih =>
      obtain ⟨first,_,once,ran⟩ := under_bind_ok.mp ran
      split at ran
      · obtain ⟨_,_,_,ran⟩ := under_bind_ok.mp ran
        exact ih ran
      · cases ran
        exact attemptOnce_produced once

theorem made_produced {call : ToolCall} (made : Made db surroundings tools context call) :
    call.2.success = false ∨ ∃ output, call.2.output = some output ∧
      Produced db context.auth context.clock call.1.args output := by
  obtain ⟨_,_,ran⟩ := made
  unfold executeTool at ran
  dsimp only at ran
  split at ran
  · cases ran
  · exact attemptLoop_produced ran

-- A citation stands for the chunk at its source, page and section.
def DocumentChunk.place (chunk : DocumentChunk) : String × Option String :=
  (chunk.sourceId,some ("p" ++ toString chunk.page ++ ":" ++ chunk.section_.getD "None"))

def EvidenceRef.PointsAt (ref : EvidenceRef) (chunk : DocumentChunk) : Prop :=
  (ref.sourceId,ref.locator) = chunk.place

-- ADR-004: deprecated sources are excluded from answer construction.
def Excludes (db : Db) (pack : EvidencePack) : Prop :=
  (∀ result ∈ pack.documentEvidence, result.status ≠ .deprecated) ∧
    ∀ ref ∈ pack.citations, ∀ chunk ∈ db.documentChunks, ref.PointsAt chunk →
      chunk.status ≠ .deprecated

-- What a search step retrieves for the caller, and what a calculation step cites.
def retrieved (db : Db) (auth : AuthContext) (request : SearchDocumentsRequest) :
    List DocumentSearchResult :=
  match (searchDocuments request.query ⟨request.sourceTypes,request.authorityClasses,request.statuses,
      auth.accountScope⟩ request.topK).on db with
  | .error _ => []
  | .ok rawResults => rawResults.filter (·.score ≤ minRelevanceScore)

def clausesCited (db : Db) (auth : AuthContext) (clock : SnapshotClock)
    (request : CalculateSupportOutcomeRequest) : List EvidenceRef :=
  match (calculate request auth clock).on db with
  | .error _ => []
  | .ok respond => (respond 0).evidence

-- Nothing a step draws on is stored as deprecated.
def DrawsOnCurrent (db : Db) (auth : AuthContext) (clock : SnapshotClock) : ToolRequest → Prop
  | .searchDocuments request => ∀ result ∈ retrieved db auth request, result.status ≠ .deprecated ∧
      ∀ chunk ∈ db.documentChunks, (citeResult result).PointsAt chunk → chunk.status ≠ .deprecated
  | .calculateSupportOutcome request => ∀ ref ∈ clausesCited db auth clock request,
      ∀ chunk ∈ db.documentChunks, ref.PointsAt chunk → chunk.status ≠ .deprecated
  | .lookupStructuredData _ => True
  | .detectIssues _ => True

theorem calculated_evidence {request : CalculateSupportOutcomeRequest}
    {respond : Rat → CalculateSupportOutcomeResponse} (latencyMs : Rat)
    (found : (calculate request auth clock).on db = .ok respond) :
    (respond latencyMs).evidence = clausesCited db auth clock request := by
  have untimed : (respond latencyMs).evidence = (respond 0).evidence := by
    obtain ⟨kind,entityId⟩ := request
    cases kind with
    | cancellation =>
        obtain ⟨decision,_,given⟩ := on_bind_ok.mp found
        cases given
        rfl
    | serviceCredit =>
        obtain ⟨decision,_,given⟩ := on_bind_ok.mp found
        cases given
        rfl
    | sla =>
        obtain ⟨decision,_,given⟩ := on_bind_ok.mp found
        cases given
        rfl
    | severity =>
        obtain ⟨ticket,_,found⟩ := on_bind_ok.mp found
        obtain ⟨decision,_,given⟩ := on_bind_ok.mp found
        cases given
        rfl
  rw [untimed,clausesCited,found]

omit [Host] in
theorem record_points_nowhere (record : Record) (chunk : DocumentChunk) :
    ¬ (citeRecord record).PointsAt chunk := by
  intro points
  have located := congrArg (fun place => (place.2.getD "").toList.head?) points
  cases record <;> simp [citeRecord,citeStructured,DocumentChunk.place] at located

theorem produced_admits {request : ToolRequest} {output : ToolOutput}
    (produced : Produced db auth clock request output) :
    DrawsOnCurrent db auth clock request ↔
      (∀ result ∈ output.documents, result.status ≠ .deprecated) ∧
        ∀ ref ∈ output.cited, ∀ chunk ∈ db.documentChunks, ref.PointsAt chunk →
          chunk.status ≠ .deprecated := by
  cases produced with
  | @searched rawResults request found latencyMs =>
      have same : retrieved db auth request = rawResults.filter (·.score ≤ minRelevanceScore) := by
        rw [retrieved,found]
      simp only [DrawsOnCurrent,same,ToolOutput.documents,ToolOutput.cited,List.forall_mem_map]
      exact ⟨fun current => ⟨fun result member => (current result member).1,
          fun result member => (current result member).2⟩,
        fun current result member => ⟨current.1 result member,current.2 result member⟩⟩
  | looked found latencyMs =>
      simp only [DrawsOnCurrent,ToolOutput.documents,ToolOutput.cited,List.forall_mem_map,true_iff]
      exact ⟨by simp,fun record _ chunk _ points => absurd points (record_points_nowhere record chunk)⟩
  | calculated found latencyMs =>
      simp only [DrawsOnCurrent,ToolOutput.documents,ToolOutput.cited,calculated_evidence latencyMs found]
      simp
  | detected request response => simp [DrawsOnCurrent,ToolOutput.documents,ToolOutput.cited]

-- Deprecated text stays out of the pack exactly when no step that succeeds
-- draws on it: nothing in the plan, the tools or the pack looks at a status.
theorem deprecated_excluded_iff {start : Rat} {found : Investigation}
    (ran : (investigation tools question context model budget).under db surroundings progress =
      (.ok (start,.ok found),after)) :
    (∃ entities, (resolveEntities question context.auth context.clock).on db = .ok entities ∧
      found.plan = buildPlan question (resolveIntent question entities) entities) ∧
    found.calls.map (·.1) = found.plan.steps ∧
    (Excludes db found.pack ↔ ∀ call ∈ found.calls, call.2.success = true →
      DrawsOnCurrent db context.auth context.clock call.1.args) := by
  obtain ⟨entities,resolved,investigated⟩ := investigation_ok ran
  rcases investigate_ok investigated with ⟨_,_,early,_⟩ | ⟨_,reached,sound⟩
  · cases early
  cases reached
  refine ⟨⟨entities,resolved,sound.planned⟩,sound.executed,?_⟩
  rw [Excludes,sound.packed]
  constructor
  · intro excluded call member succeeded
    rcases made_produced (sound.made call member) with failed | ⟨output,carried,produced⟩
    · rw [failed] at succeeded
      cases succeeded
    · have usable : output ∈ (found.calls.map (·.2)).filterMap (·.usable) := by
        refine List.mem_filterMap.mpr ⟨call.2,List.mem_map_of_mem member,?_⟩
        rw [ToolResult.usable,if_pos succeeded,carried]
      refine (produced_admits produced).mpr ⟨fun result given => ?_,fun ref cited chunk stored points => ?_⟩
      · exact excluded.1 result (List.mem_flatMap.mpr ⟨output,usable,given⟩)
      · obtain ⟨kept,first,same⟩ := Py.firstOccurrences_covers
          (fun ref : EvidenceRef => (ref.sourceId,ref.locator)) (List.not_mem_nil)
          (List.mem_flatMap.mpr ⟨output,usable,cited⟩)
        exact excluded.2 kept first chunk stored (same.trans points)
  · intro current
    have each {output : ToolOutput}
        (usable : output ∈ (found.calls.map (·.2)).filterMap (·.usable)) :
        (∀ result ∈ output.documents, result.status ≠ .deprecated) ∧
          ∀ ref ∈ output.cited, ∀ chunk ∈ db.documentChunks, ref.PointsAt chunk →
            chunk.status ≠ .deprecated := by
      obtain ⟨result,listed,carried⟩ := List.mem_filterMap.mp usable
      obtain ⟨call,member,rfl⟩ := List.mem_map.mp listed
      unfold ToolResult.usable at carried
      split at carried
      · rename_i succeeded
        rcases made_produced (sound.made call member) with failed | ⟨other,same,produced⟩
        · rw [failed] at succeeded
          cases succeeded
        · cases Option.some.inj (same.symm.trans carried)
          exact (produced_admits produced).mp (current call member succeeded)
      · cases carried
    refine ⟨fun result given => ?_,fun ref cited => ?_⟩
    · obtain ⟨output,usable,given⟩ := List.mem_flatMap.mp given
      exact (each usable).1 result given
    · obtain ⟨output,usable,cited⟩ := List.mem_flatMap.mp (Py.firstOccurrences_mem cited)
      exact (each usable).2 ref cited

end Provenance

def policyChunk (sourceId filename text : String) (status : SourceStatus)
    (sourceType : SourceType) (authorityClass : AuthorityClass) : DocumentChunk where
  chunkId := sourceId ++ ":p1:1"
  sourceId := sourceId
  filename := filename
  page := 1
  section_ := some "1"
  text := text
  normalizedText := text
  status := status
  sourceType := sourceType
  accountScope := none
  effectiveDate := 739251
  authorityClass := authorityClass

def withdrawnChunk : DocumentChunk := policyChunk "SRC-02" "02_Support_Policy_v2_DEPRECATED.pdf"
  "parcel handling rules" .deprecated .supportPolicy .deprecated

-- A withdrawn policy beside three current sources
def withdrawnDb : Db := {Db.empty with documentChunks := [withdrawnChunk,
  policyChunk "SRC-01" "01_Support_Policy_v3_CURRENT.pdf" "first response targets" .current
    .supportPolicy .policyCurrent,
  policyChunk "SRC-03" "03_Cancellation_and_Service_Credit_SOP_v4.pdf" "cancellation fee terms"
    .current .sop .policyCurrent,
  policyChunk "SRC-04" "04_Product_Operations_Guide_and_Known_Issues.pdf" "tracking page widgets"
    .current .productDoc .productDoc]}

-- The words of a text that a query asks for
def askedWords (ftsQuery text : String) : List String :=
  ((text.toList.splitOn ' ').map String.ofList).filter fun word =>
    Py.occursIn ("\"" ++ word ++ "\"") ftsQuery

-- `snippet(.., '[', ']', ..)` of a text of a few words
def highlighted (ftsQuery text : String) : String :=
  Py.join " " (((text.toList.splitOn ' ').map String.ofList).map fun word =>
    if Py.occursIn ("\"" ++ word ++ "\"") ftsQuery then "[" ++ word ++ "]" else word)

-- What a word adds to `bm25` that stands in one of four equally long texts: log(3.5 / 1.5)
def wordWeight : Rat := 8472978603872037 / 10000000000000000

-- FTS5 over four texts of three words each that share none
@[reducible] def matchingHost : Host := {asciiHost [] [] with
  fts5 := fun corpus ftsQuery position => corpus[position]?.bind fun text =>
    if (askedWords ftsQuery text).isEmpty then none
    else some (highlighted ftsQuery text,-((askedWords ftsQuery text).length * wordWeight))}

def handlingPlan : Plan := buildPlan "parcel handling rules" .informational {}

def handlingLoop : Except PyError (Except (String × List ToolCall) (List ToolCall)) × Progress :=
  let _ := matchingHost
  (executeSteps toolRegistry {} adminRequest.auth adminRequest.clock 0 handlingPlan.steps 0 []).under
    withdrawnDb slowSurroundings {taken := 1}

def handlingCalls : List ToolCall :=
  match handlingLoop.1 with
  | .ok (.ok calls) => calls
  | _ => []

def handlingPack : EvidencePack :=
  buildEvidencePack "parcel handling rules" .informational {} (handlingCalls.map (·.2))
    adminRequest.datasetSnapshotTime none

def handlingFound : Investigation := ⟨handlingPlan,handlingCalls,handlingPack,.conditional⟩

-- The run ends with a pack that answers the question from the withdrawn policy only.
theorem handling_evaluated : let _ := matchingHost
    (match handlingLoop.1 with | .ok (.ok _) => true | _ => false) = true ∧
    handlingPack.documentEvidence.isEmpty = false ∧ handlingPack.domainTrustStates = [] ∧
    isDocumentEvidenceSufficient handlingPack.question handlingPack.documentEvidence = true ∧
    handlingPack.documentEvidence.any (·.status = .deprecated) = true ∧
    handlingPack.citations.any (fun ref => (ref.sourceId,ref.locator) = withdrawnChunk.place) = true := by
  decide +kernel

theorem handling_loop : handlingLoop = (.ok (.ok handlingCalls),handlingLoop.2) := by
  have ends := handling_evaluated.1
  rcases stopped : handlingLoop with ⟨_ | _ | _,_⟩ <;> simp [stopped,handlingCalls] at ends ⊢

theorem documents_assessed [Host] {context : AgentRequestContext} {model : String} {budget : AgentBudget}
    {plan : Plan} {pack : EvidencePack} {calls : List ToolCall}
    (retrieves : pack.documentEvidence.isEmpty = false) (trusts : pack.domainTrustStates = [])
    (sufficient : isDocumentEvidenceSufficient pack.question pack.documentEvidence = true)
    (available : ¬ budget.maxLlmCalls < 1)
    (fits : checkContextBudget (estimatePromptTokens pack .conditional) budget = none)
    (afforded : checkCostBudget (estimateWorstCaseCostUsd model
      (estimatePromptTokens pack .conditional) budget.maxOutputTokens) budget = none) :
    assess context model budget plan pack calls = .ok .conditional := by
  have gate : enforceTrustGate pack.domainTrustStates (!pack.documentEvidence.isEmpty) =
      .conditional := by
    rw [trusts,retrieves]
    rfl
  unfold assess assessPriced
  dsimp only
  rw [gate,fits,afforded,if_neg available]
  simp [retrieves,sufficient]

theorem handling_assessed : let _ := matchingHost
    ∀ {tokens : Int}, tokens = estimatePromptTokens handlingPack .conditional →
      assess adminRequest "mock-model" (promptBudget tokens) handlingPlan handlingPack handlingCalls =
        .ok .conditional := by
  intro _ tokens enough
  obtain ⟨_,retrieves,trusts,sufficient,_⟩ := handling_evaluated
  apply documents_assessed retrieves trusts sufficient
  · rw [promptBudget_calls]
    decide
  · exact if_neg (Int.not_lt.mpr (Int.le_of_eq enough.symm))
  · exact free_afforded (by decide +kernel : (0 : Rat) ≤ 1 / 2)

theorem handling_investigated : let _ := matchingHost
    ∃ after, (investigation toolRegistry "parcel handling rules" adminRequest "mock-model"
      (promptBudget (estimatePromptTokens handlingPack .conditional))).under withdrawnDb
        slowSurroundings {} = (.ok (0,.ok handlingFound),after) := by
  intro _
  have resolved : (resolveEntities "parcel handling rules" adminRequest.auth adminRequest.clock).on
      withdrawnDb = .ok {} := by decide +kernel
  have intent : resolveIntent "parcel handling rules" {} = .informational := by decide +kernel
  have prepared (tokens : Int) : prepare "parcel handling rules" adminRequest (promptBudget tokens) {} =
      .ok handlingPlan := by
    have plain : needsAccountClarification "parcel handling rules" {} adminRequest.auth = none := by
      decide +kernel
    unfold prepare
    rw [intent,plain]
    rfl
  have looped (tokens : Int) : (executeSteps toolRegistry (promptBudget tokens) adminRequest.auth
      adminRequest.clock 0 handlingPlan.steps 0 []).under withdrawnDb slowSurroundings {taken := 1} =
        (.ok (.ok handlingCalls),handlingLoop.2) := by
    have same : executeSteps toolRegistry (promptBudget tokens) adminRequest.auth adminRequest.clock 0
        handlingPlan.steps 0 [] = executeSteps toolRegistry {} adminRequest.auth adminRequest.clock 0
          handlingPlan.steps 0 [] := executeSteps_budget rfl rfl
    rw [same]
    exact handling_loop
  have investigated := investigate_reached (prepared _) (looped _) (handling_assessed rfl)
  exact ⟨_,investigation_reached resolved investigated⟩

theorem deprecated_composed : let _ := matchingHost
    ∃ found after, (investigation toolRegistry "parcel handling rules" adminRequest "mock-model"
        (promptBudget (estimatePromptTokens handlingPack .conditional))).under withdrawnDb
          slowSurroundings {} = (.ok (0,.ok found),after) ∧
      (∃ result ∈ found.pack.documentEvidence, result.status = .deprecated) ∧
      ∃ ref ∈ found.pack.citations, ∃ chunk ∈ withdrawnDb.documentChunks,
        ref.PointsAt chunk ∧ chunk.status = .deprecated := by
  intro _
  obtain ⟨after,ran⟩ := handling_investigated
  obtain ⟨_,_,_,_,told,cited⟩ := handling_evaluated
  obtain ⟨result,given,status⟩ := List.any_eq_true.mp told
  obtain ⟨ref,member,points⟩ := List.any_eq_true.mp cited
  have same : (ref.sourceId,ref.locator) = withdrawnChunk.place := of_decide_eq_true points
  exact ⟨handlingFound,after,ran,⟨result,given,of_decide_eq_true status⟩,ref,member,withdrawnChunk,
    List.mem_cons_self,same,rfl⟩

theorem deprecated_excluded_handling : let _ := matchingHost
    Excludes withdrawnDb handlingPack ↔ ∀ call ∈ handlingCalls, call.2.success = true →
      DrawsOnCurrent withdrawnDb adminRequest.auth adminRequest.clock call.1.args := by
  intro _
  obtain ⟨after,ran⟩ := handling_investigated
  exact (deprecated_excluded_iff ran).2.2

end ParcelPilot
