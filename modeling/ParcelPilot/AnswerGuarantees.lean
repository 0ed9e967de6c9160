import ParcelPilot.AgentRuns

namespace ParcelPilot

-- Two delivered orders; the second calculation takes eleven seconds, and the
-- model cites an order that nobody looked up.
section Cancelled

def deliveredOrder (orderId : String) : OrderRow where
  orderId := orderId
  accountId := "ACCT-001"
  carrier := "SwiftShip"
  status := .delivered
  bookedAt := .epoch
  pickupWindowStart := .epoch
  pickupWindowEnd := .epoch
  pickupActualAt := none
  shipmentFeeInr := 1800
  carrierFault := false
  customerFault := false
  cancellationRequestedAt := none
  notes := ""

def deliveredDb : Db := {Db.empty with
  accounts := ⟨[⟨"ACCT-001","Northstar","Enterprise","active","Priya",none,true,""⟩],by decide⟩
  orders := ⟨[deliveredOrder "AB-1",deliveredOrder "AB-2"],by decide⟩}

def adminRequest : AgentRequestContext :=
  ⟨"REQ-1","TRACE-1","ops_admin",⟨.operationsAdmin,none⟩,.epoch⟩

def strayReply : LLMResponse := ⟨"Both are delivered [SRC-07:orders:AB-9].",⟨0,0⟩⟩

def slowSurroundings : Surroundings :=
  ⟨fun reading => if reading < 18 then 0 else 11,fun _ => .ok strayReply⟩

def bothOrders : EntityResolution := {orderIds := ["AB-1","AB-2"]}

def cancelPlan : Plan := buildPlan "cancel AB-1 AB-2" .cancellation bothOrders

def cancelLoop : Except PyError (Except (String × List ToolCall) (List ToolCall)) × Progress :=
  let _ := asciiHost [] []
  (executeSteps toolRegistry {} adminRequest.auth adminRequest.clock 0 cancelPlan.steps 0 []).under
    deliveredDb slowSurroundings {taken := 1}

def cancelCalls : List ToolCall :=
  match cancelLoop.1 with
  | .ok (.ok calls) => calls
  | _ => []

def cancelPack : EvidencePack :=
  buildEvidencePack "cancel AB-1 AB-2" .cancellation bothOrders (cancelCalls.map (·.2))
    adminRequest.datasetSnapshotTime none

def cancelFound : Investigation := ⟨cancelPlan,cancelCalls,cancelPack,.confident⟩

-- What the prompt takes, and no token more.
def promptBudget (tokens : Int) : AgentBudget := {maxContextTokens := tokens}

theorem promptBudget_calls (tokens : Int) : (promptBudget tokens).maxLlmCalls = 2 := rfl

-- The plan is gone through to its end, with a calculation that timed out on the way.
theorem cancel_evaluated : (match cancelLoop.1 with | .ok (.ok _) => true | _ => false) = true ∧
    (cancelCalls.any fun call => call.1.tool = .calculateSupportOutcome && !call.2.success) = true ∧
    cancelPack.domainTrustStates = [.confident] ∧ cancelPack.domainResults.isEmpty = false ∧
    "SRC-07" ∈ cancelPack.citations.map (·.sourceId) ∧
    "SRC-07:orders:AB-9" ∉ cancelPack.citations.map citationKey ∧
      "SRC-07:orders:AB-9" ∉ cancelPack.citations.map (·.sourceId) := by
  decide +kernel

theorem cancel_loop : cancelLoop = (.ok (.ok cancelCalls),cancelLoop.2) := by
  have ends := cancel_evaluated.1
  rcases stopped : cancelLoop with ⟨_ | _ | _,_⟩ <;> simp [stopped,cancelCalls] at ends ⊢

theorem cancel_looped {budget : AgentBudget} (iterations : budget.maxIterations = 6)
    (wallClock : budget.maxWallClockSeconds = 30) : let _ := asciiHost [] []
    (executeSteps toolRegistry budget adminRequest.auth adminRequest.clock 0 cancelPlan.steps 0 []).under
      deliveredDb slowSurroundings {taken := 1} = (.ok (.ok cancelCalls),cancelLoop.2) := by
  intro _
  have same : executeSteps toolRegistry budget adminRequest.auth adminRequest.clock 0
      cancelPlan.steps 0 [] = executeSteps toolRegistry {} adminRequest.auth adminRequest.clock 0
        cancelPlan.steps 0 [] := executeSteps_budget iterations wallClock
  rw [same]
  exact cancel_loop

theorem cancel_failed : ∃ call ∈ cancelCalls,
    call.1.tool = .calculateSupportOutcome ∧ call.2.success = false := by
  have timed_out := cancel_evaluated.2.1
  simpa using timed_out

theorem cancel_resolved : let _ := asciiHost [] []
    (resolveEntities "cancel AB-1 AB-2" adminRequest.auth adminRequest.clock).on deliveredDb =
      .ok bothOrders := by
  decide +kernel

theorem cancel_prepared {budget : AgentBudget} (toolCalls : budget.maxToolCalls = 6) :
    @prepare (asciiHost [] []) "cancel AB-1 AB-2" adminRequest budget bothOrders =
      .ok cancelPlan := by
  let _ := asciiHost [] []
  have intent : resolveIntent "cancel AB-1 AB-2" bothOrders = .cancellation := by decide +kernel
  have within : ¬ budget.maxToolCalls < cancelPlan.steps.length := by
    rw [toolCalls]
    decide +kernel
  unfold prepare
  rw [intent]
  exact if_neg within

theorem cancel_assessed [Host] {estimate : Int → Int → Option Rat} {budget : AgentBudget}
    (calls : 1 ≤ budget.maxLlmCalls)
    (enough : estimatePromptTokens cancelPack .confident ≤ budget.maxContextTokens)
    (afforded : checkCostBudget (estimate (estimatePromptTokens cancelPack .confident)
      budget.maxOutputTokens) budget = none) :
    assessPriced estimate adminRequest budget cancelPlan cancelPack cancelCalls = .ok .confident := by
  obtain ⟨_,_,trusts,grounded,_⟩ := cancel_evaluated
  have gate : enforceTrustGate cancelPack.domainTrustStates (!cancelPack.documentEvidence.isEmpty) =
      .confident := by
    rw [trusts]
    rfl
  have fits : checkContextBudget (estimatePromptTokens cancelPack .confident) budget = none :=
    if_neg (by omega)
  unfold assessPriced
  dsimp only
  rw [gate,fits,afforded,if_neg (by omega : ¬ budget.maxLlmCalls < 1)]
  simp [grounded]

theorem free_afforded [Host] {tokens : Int} {budget : AgentBudget}
    (spends : 0 ≤ budget.maxEstimatedCostUsd) :
    checkCostBudget (estimateWorstCaseCostUsd "mock-model" tokens budget.maxOutputTokens) budget =
      none := by
  have free : estimateWorstCaseCostUsd "mock-model" tokens budget.maxOutputTokens = some 0 := by
    simp [estimateWorstCaseCostUsd,estimateCost,rates,CostEstimate.totalCostUsd]
  rw [free,checkCostBudget,if_neg (Rat.not_lt.mpr spends)]

theorem stray_accepted : let _ := asciiHost [] []
    extractCitationMarkers strayReply.content = ["SRC-07:orders:AB-9"] ∧
      (validateCitations strayReply.content cancelPack).valid = true := by
  intro _
  have markers : extractCitationMarkers strayReply.content = ["SRC-07:orders:AB-9"] := by
    decide +kernel
  refine ⟨markers,validateCitations_valid.mpr fun marker present => ?_⟩
  obtain ⟨_,_,_,_,sources,_⟩ := cancel_evaluated
  rw [markers,List.mem_singleton] at present
  have named : Py.before ':' marker = "SRC-07" := by
    rw [present]
    decide +kernel
  unfold acceptsMarker
  rw [named,decide_eq_true sources,Bool.or_true]

theorem cancel_answers {tokens : Int} : let _ := asciiHost [] []
    tokens = estimatePromptTokens cancelPack .confident →
    ∃ latencyMs after, (runAgent toolRegistry "cancel AB-1 AB-2" adminRequest "mock-model"
        (promptBudget tokens)).under deliveredDb slowSurroundings {} =
      (.ok {cancelFound.finished adminRequest strayReply.content 1 strayReply.cost.totalCostUsd with
        totalLatencyMs := latencyMs},after) := by
  intro _ enough
  have assessed : assess adminRequest "mock-model" (promptBudget tokens) cancelPlan cancelPack
      cancelCalls = .ok .confident :=
    cancel_assessed (by rw [promptBudget_calls]; decide) (Int.le_of_eq enough.symm)
      (free_afforded (by decide +kernel : (0 : Rat) ≤ 1 / 2))
  have investigated := investigate_reached (cancel_prepared rfl) (cancel_looped rfl rfl) assessed
  exact ⟨_,_,runAgent_reached cancel_resolved investigated
    (answer_valid (fun _ => rfl) stray_accepted.2)⟩

end Cancelled

section Guarantees

variable [Host] {db : Db} {surroundings : Surroundings} {tools : ToolRegistry}
  {question model : String} {context : AgentRequestContext} {budget : AgentBudget}
  {progress after : Progress} {result : AgentRunResult}

theorem pack_trust {entities : EntityResolution} {found : Investigation}
    (sound : Sound db surroundings tools question context entities found) :
    found.pack.domainTrustStates = (found.calls.filterMap (·.2.calculated)).map (·.trustState) := by
  rw [sound.packed]
  simp only [buildEvidencePack,List.filterMap_map]
  rfl

-- Trust is never better than a calculation that succeeded; one that did not
-- succeed is as if it had not been planned.
theorem trust_covers
    (ran : (runAgent tools question context model budget).under db surroundings progress =
      (.ok result,after))
    (answered : result.Answered) :
    ∃ (calls : List ToolCall) (trust : TrustState), result.trustState = some trust ∧
      result.toolTrace = calls.map traceEntry ∧
      (∃ entities, (resolveEntities question context.auth context.clock).on db = .ok entities ∧
        calls.map (·.1) = (buildPlan question (resolveIntent question entities) entities).steps) ∧
      (∀ call ∈ calls, Made db surroundings tools context call) ∧
      (∀ call ∈ calls, ∀ response, call.2.calculated = some response →
        severityOrder response.trustState ≤ severityOrder trust) ∧
      (trust = .confident ↔ (∃ call ∈ calls, ∃ response, call.2.calculated = some response) ∧
        ∀ call ∈ calls, ∀ response, call.2.calculated = some response →
          response.trustState = .confident) := by
  obtain ⟨entities,found,response,resolved,sound,accepted⟩ := run_answered ran answered
  obtain ⟨_,_,_,rfl⟩ := accepted.reported
  have trusted := sound.trusted
  rw [pack_trust sound] at trusted
  have counted {call : ToolCall} {response : CalculateSupportOutcomeResponse} (here : call ∈ found.calls)
      (calculated : call.2.calculated = some response) :
      response.trustState ∈ (found.calls.filterMap (·.2.calculated)).map (·.trustState) :=
    List.mem_map.mpr ⟨response,List.mem_filterMap.mpr ⟨call,here,calculated⟩,rfl⟩
  refine ⟨found.calls,found.trustState,rfl,rfl,⟨entities,resolved,?_⟩,sound.made,?_,?_⟩
  · rw [sound.executed,sound.planned]
  · intro call here response calculated
    rw [trusted]
    exact gate_bounds _ _ (counted here calculated)
  · rw [trusted,gate_confident_iff]
    constructor
    · rintro ⟨some_,all⟩
      refine ⟨?_,fun call here response calculated => all _ (counted here calculated)⟩
      obtain ⟨state,member⟩ := List.exists_mem_of_ne_nil _ some_
      obtain ⟨response,kept,_⟩ := List.mem_map.mp member
      obtain ⟨call,here,calculated⟩ := List.mem_filterMap.mp kept
      exact ⟨call,here,response,calculated⟩
    · rintro ⟨⟨call,here,response,calculated⟩,all⟩
      refine ⟨List.ne_nil_of_mem (counted here calculated),fun state member => ?_⟩
      obtain ⟨other,kept,rfl⟩ := List.mem_map.mp member
      obtain ⟨caller,there,computed⟩ := List.mem_filterMap.mp kept
      exact all caller there other computed

omit [Host] in
theorem confident_after_timeout : let _ := asciiHost [] []
    ∃ result after, (runAgent toolRegistry "cancel AB-1 AB-2" adminRequest "mock-model"
        (promptBudget (estimatePromptTokens cancelPack .confident))).under deliveredDb
          slowSurroundings {} = (.ok result,after) ∧
      result.status = .completed ∧ result.trustState = some .confident ∧
      ∃ entry ∈ result.toolTrace, entry.tool = .calculateSupportOutcome ∧ entry.success = false := by
  intro _
  obtain ⟨latencyMs,after,ran⟩ := cancel_answers rfl
  obtain ⟨call,made,calculation,failed⟩ := cancel_failed
  exact ⟨_,after,ran,rfl,rfl,traceEntry call,List.mem_map_of_mem made,calculation,failed⟩

omit [Host] in
theorem trust_covers_timeout : let _ := asciiHost [] []
    ∃ result after, (runAgent toolRegistry "cancel AB-1 AB-2" adminRequest "mock-model"
        (promptBudget (estimatePromptTokens cancelPack .confident))).under deliveredDb
          slowSurroundings {} = (.ok result,after) ∧
      ∃ (calls : List ToolCall) (trust : TrustState), result.trustState = some trust ∧
        result.toolTrace = calls.map traceEntry ∧
        ∀ call ∈ calls, ∀ response, call.2.calculated = some response →
          severityOrder response.trustState ≤ severityOrder trust := by
  intro _
  obtain ⟨latencyMs,after,ran⟩ := cancel_answers rfl
  obtain ⟨calls,trust,reported,traced,_,_,bounded,_⟩ := trust_covers ran (.inl rfl)
  exact ⟨_,after,ran,calls,trust,reported,traced,bounded⟩

def NamesCitation (citations : List EvidenceRef) (marker : String) : Prop :=
  marker ∈ citations.map citationKey ∨ marker ∈ citations.map (·.sourceId)

-- One that names a cited source and, behind a colon, something else.
def Overreaches (citations : List EvidenceRef) (marker : String) : Prop :=
  ¬ NamesCitation citations marker ∧
    ∃ ref ∈ citations, ∃ locator, marker = ref.sourceId ++ ":" ++ locator

omit [Host] in
theorem before_split (marker : String) :
    Py.before ':' marker = marker ∨ ∃ rest, marker = Py.before ':' marker ++ ":" ++ rest := by
  have whole : marker.toList.takeWhile (· != ':') ++ marker.toList.dropWhile (· != ':') =
      marker.toList := List.takeWhile_append_dropWhile
  cases left : marker.toList.dropWhile (· != ':') with
  | nil =>
      rw [left,List.append_nil] at whole
      exact .inl (by rw [Py.before,whole,String.ofList_toList])
  | cons c rest =>
      have colon : c = ':' := by
        have stopped := List.head?_dropWhile_not (· != ':') marker.toList
        rw [left] at stopped
        simpa using stopped
      subst colon
      refine .inr ⟨String.ofList rest,?_⟩
      rw [left] at whole
      apply String.toList_inj.mp
      simpa [Py.before] using whole.symm

omit [Host] in
theorem accepted_names {citations : List EvidenceRef} {marker : String}
    (accepted : acceptsMarker citations marker = true) :
    NamesCitation citations marker ↔ ¬ Overreaches citations marker := by
  constructor
  · rintro named ⟨unnamed,_⟩
    exact unnamed named
  · intro within
    by_contra unnamed
    refine within ⟨unnamed,?_⟩
    simp only [acceptsMarker,Bool.or_eq_true,decide_eq_true_eq] at accepted
    rcases accepted with known | source
    · exact absurd (.inl known) unnamed
    · rcases before_split marker with bare | ⟨rest,longer⟩
      · exact absurd (.inr (by rwa [bare] at source)) unnamed
      · obtain ⟨ref,cited,same⟩ := List.mem_map.mp source
        exact ⟨ref,cited,rest,by rwa [same]⟩

-- The markers of an answer are real exactly when none of the last reply's
-- overreaches: everything else is caught.
theorem answer_markers_iff
    (ran : (runAgent tools question context model budget).under db surroundings progress =
      (.ok result,after))
    (answered : result.Answered) :
    ∃ reply, surroundings.provider after.sent = .ok reply ∧ result.answer = some reply.content ∧
      ((∀ marker ∈ extractCitationMarkers reply.content, NamesCitation result.citations marker) ↔
        ∀ marker ∈ extractCitationMarkers reply.content, ¬ Overreaches result.citations marker) := by
  obtain ⟨_,found,reply,_,_,accepted⟩ := run_answered ran answered
  have valid := validateCitations_valid.mp accepted.valid
  obtain ⟨_,_,_,reported⟩ := accepted.reported
  refine ⟨reply,accepted.replied,by rw [reported]; rfl,?_⟩
  have cited : result.citations = found.pack.citations := by rw [reported]; rfl
  rw [cited]
  exact forall₂_congr fun marker present => accepted_names (valid marker present)

omit [Host] in
theorem stray_marker_answered : let _ := asciiHost [] []
    ∃ result after, (runAgent toolRegistry "cancel AB-1 AB-2" adminRequest "mock-model"
        (promptBudget (estimatePromptTokens cancelPack .confident))).under deliveredDb
          slowSurroundings {} = (.ok result,after) ∧
      result.status = .completed ∧ result.answer = some strayReply.content ∧
      ¬ ∀ marker ∈ extractCitationMarkers strayReply.content,
        NamesCitation result.citations marker := by
  intro _
  obtain ⟨latencyMs,after,ran⟩ := cancel_answers rfl
  refine ⟨_,after,ran,rfl,rfl,fun named => ?_⟩
  obtain ⟨_,_,_,_,_,unlocated,unnamed⟩ := cancel_evaluated
  rcases named "SRC-07:orders:AB-9" (by rw [stray_accepted.1]; simp) with key | source
  · exact unlocated key
  · exact unnamed source

omit [Host] in
theorem stray_marker_overreaches : let _ := asciiHost [] []
    ∃ result after, (runAgent toolRegistry "cancel AB-1 AB-2" adminRequest "mock-model"
        (promptBudget (estimatePromptTokens cancelPack .confident))).under deliveredDb
          slowSurroundings {} = (.ok result,after) ∧
      ∃ reply : LLMResponse, result.answer = some reply.content ∧
        ((∀ marker ∈ extractCitationMarkers reply.content,
            NamesCitation result.citations marker) ↔
          ∀ marker ∈ extractCitationMarkers reply.content, ¬ Overreaches result.citations marker) := by
  intro _
  obtain ⟨latencyMs,after,ran⟩ := cancel_answers rfl
  obtain ⟨reply,_,answers,exact_⟩ := answer_markers_iff ran (.inl rfl)
  exact ⟨_,after,ran,reply,answers,exact_⟩

end Guarantees

end ParcelPilot
