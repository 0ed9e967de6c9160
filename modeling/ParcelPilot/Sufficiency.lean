import ParcelPilot.Gathering

namespace ParcelPilot

def foundRecord (call : ToolCall) : Bool :=
  call.1.tool = .lookupStructuredData && call.2.usable.any fun output => !output.records.isEmpty

def foundResult (call : ToolCall) : Bool := call.2.calculated.any (·.result.isSome)

def chunksFound (calls : List ToolCall) : List DocumentSearchResult :=
  (calls.filterMap (·.2.usable)).flatMap (·.documents)

section Sufficient

variable [Host] {db : Db} {tools : ToolRegistry} {question model : String}
  {context : AgentRequestContext} {budget : AgentBudget} {surroundings : Surroundings}
  {progress after : Progress} {result : AgentRunResult} {estimate : Int → Int → Option Rat}

-- Both gates in one: the first stops nothing that the second would pass.
theorem assess_insufficient {plan : Plan} {pack : EvidencePack} {calls : List ToolCall} :
    (∃ early, assessPriced estimate context budget plan pack calls = .error early ∧
        early.status = .insufficientEvidence) ↔
      pack.domainResults = [] ∧
        isDocumentEvidenceSufficient pack.question pack.documentEvidence = false := by
  unfold assessPriced
  dsimp only
  split
  · rename_i bare
    simp only [Bool.and_eq_true,List.isEmpty_iff] at bare
    refine iff_of_true ⟨_,rfl,rfl⟩ ⟨bare.2,?_⟩
    simp [isDocumentEvidenceSufficient,bare.1.2]
  · split
    · rename_i insufficient
      simp only [Bool.and_eq_true,List.isEmpty_iff,Bool.not_eq_true'] at insufficient
      exact iff_of_true ⟨_,rfl,rfl⟩ insufficient
    · rename_i sufficient
      refine iff_of_false ?_ fun lacking => sufficient (by simp [lacking])
      rintro ⟨early,refused,status⟩
      repeat' split at refused
      all_goals cases refused
      all_goals simp [AgentRunResult.withCalls,ended] at status

theorem answering_sufficient {found : Investigation} {before sent : List LLMRequest}
    {ending : AgentRunResult}
    (answering : Answering context model budget found surroundings before sent ending) :
    ending.status ≠ .insufficientEvidence := by
  have sufficient (text : String) (llmCalls : Nat) (cost : Rat) :
      (found.finished context text llmCalls cost).status ≠ .insufficientEvidence :=
    (finished_answered found text llmCalls cost).status_ne (by simp)
  cases answering with
  | unanswered raised => simp [Investigation.composeFailed,AgentRunResult.withCalls,ended]
  | accepted replied valid => exact sufficient _ _ _
  | refused replied invalid single reason => exact AgentStatus.noConfusion
  | repairRaised replied invalid second raised reason => exact AgentStatus.noConfusion
  | repaired replied invalid second again valid => exact sufficient _ _ _
  | unrepaired replied invalid second again still reason => exact AgentStatus.noConfusion

omit [Host] in
theorem gatheredPack_results {entities : EntityResolution} {plan : Plan} {calls : List ToolCall} :
    (gatheredPack question context entities plan calls).domainResults = [] ↔
      ∀ call ∈ calls, foundResult call = false := by
  simp only [gatheredPack,buildEvidencePack,List.filterMap_eq_nil_iff,List.mem_filterMap,List.mem_map]
  constructor
  · intro none call made
    unfold foundResult
    cases calculated : call.2.calculated with
    | none => rfl
    | some response =>
        rw [Option.any_some,none response ⟨call.2,⟨call,made,rfl⟩,calculated⟩]
        rfl
  · rintro none response ⟨_,⟨call,made,rfl⟩,calculated⟩
    have missing := none call made
    rw [foundResult,calculated,Option.any_some] at missing
    simpa using missing

omit [Host] in
theorem gatheredPack_documents {entities : EntityResolution} {plan : Plan} {calls : List ToolCall} :
    (gatheredPack question context entities plan calls).documentEvidence = chunksFound calls := by
  simp only [gatheredPack,buildEvidencePack,chunksFound,List.filterMap_map]
  rfl

theorem conclude_insufficient {gathered : Gathered}
    (ran : (conclude estimate question context model budget gathered).under db surroundings progress =
      (.ok result,after)) :
    match gathered.outcome with
    | .error early => result.status = early.status
    | .ok (_,.error _) => result.status = .failed
    | .ok (_,.ok calls) => result.status = .insufficientEvidence ↔
        (∀ call ∈ calls, foundResult call = false) ∧
          isDocumentEvidenceSufficient question (chunksFound calls) = false := by
  unfold conclude at ran
  split at ran
  · obtain ⟨⟨_,rfl⟩,_⟩ := terminal_ok ran
    simp [*]
  · obtain ⟨⟨_,rfl⟩,_⟩ := terminal_ok ran
    simp [*,AgentRunResult.withCalls,ended]
  · rename_i plan calls reached
    rw [reached]
    dsimp only at ran ⊢
    have gates := @assess_insufficient _ context budget estimate plan
      (gatheredPack question context gathered.entities plan calls) calls
    rw [gatheredPack_results,gatheredPack_documents] at gates
    refine Iff.trans ?_ gates
    split at ran
    · rename_i early refused
      obtain ⟨⟨_,rfl⟩,_⟩ := terminal_ok ran
      rw [refused]
      simp
    · rename_i trustState granted
      obtain ⟨ending,answering,⟨_,reported⟩,_⟩ := answer_cases ran
      rw [granted,reported]
      exact iff_of_false (fun status => answering_sufficient answering status) (by simp)

-- No run that has found a record or come to a result lacks evidence.
def RecordSuffices (tools : ToolRegistry) (question : String) (context : AgentRequestContext)
    (model : String) (budget : AgentBudget) (db : Db) (surroundings : Surroundings) : Prop :=
  ∀ gathered between result after,
    (gathering tools question context budget).under db surroundings {} = (.ok gathered,between) →
    (runAgent tools question context model budget).under db surroundings {} = (.ok result,after) →
    (∃ call ∈ gathered.calls, foundRecord call = true ∨ foundResult call = true) →
    result.status ≠ .insufficientEvidence

-- A record that all calls of the plan leave behind comes with a result or with
-- documents that are sufficient.
def RecordGrounded (tools : ToolRegistry) (question : String) (context : AgentRequestContext)
    (budget : AgentBudget) (db : Db) (surroundings : Surroundings) : Prop :=
  ∀ gathered between plan calls,
    (gathering tools question context budget).under db surroundings {} = (.ok gathered,between) →
    gathered.outcome = .ok (plan,.ok calls) → (∃ call ∈ calls, foundRecord call = true) →
    (∃ call ∈ calls, foundResult call = true) ∨
      isDocumentEvidenceSufficient question (chunksFound calls) = true

theorem record_suffices_iff :
    RecordSuffices tools question context model budget db surroundings ↔
      RecordGrounded tools question context budget db surroundings := by
  constructor
  · intro sufficing gathered between plan calls reached outcome found
    obtain ⟨result,after,ended⟩ : ∃ result after, (conclude (estimateWorstCaseCostUsd model)
        question context model budget gathered).under db surroundings between = (.ok result,after) :=
      conclude_total gathered
    have ran : (runAgent tools question context model budget).under db surroundings {} =
        (.ok result,after) := by
      rw [runAgent_gathered]
      exact under_bind_ok.mpr ⟨gathered,between,reached,ended⟩
    have made : gathered.calls = calls := by rw [Gathered.calls,outcome]
    obtain ⟨call,member,record⟩ := found
    have status := sufficing gathered between result after reached ran
      ⟨call,by rwa [made],.inl record⟩
    have decided := conclude_insufficient ended
    rw [outcome] at decided
    by_contra ungrounded
    rw [not_or,Bool.not_eq_true] at ungrounded
    apply status
    apply decided.mpr
    refine ⟨fun other there => ?_,ungrounded.2⟩
    rw [Bool.eq_false_iff]
    intro calculated
    exact ungrounded.1 ⟨other,there,calculated⟩
  · intro grounded gathered between result after reached ran found status
    rw [runAgent_gathered] at ran
    obtain ⟨other,middle,again,ended⟩ := under_bind_ok.mp ran
    obtain ⟨same,rfl⟩ := Prod.mk.inj (reached.symm.trans again)
    cases same
    have decided := conclude_insufficient ended
    obtain ⟨call,member,kind⟩ := found
    rcases outcome : gathered.outcome with early | ⟨plan,stopped | calls⟩
    · rw [Gathered.calls,outcome] at member
      cases member
    · rw [outcome] at decided
      rw [decided] at status
      cases status
    · rw [outcome] at decided
      obtain ⟨resultless,lacking⟩ := decided.mp status
      rw [Gathered.calls,outcome] at member
      have unresolved (caller : ToolCall) (there : caller ∈ calls) : ¬ foundResult caller = true := by
        simp [resultless caller there]
      rcases kind with record | calculated
      · rcases grounded gathered between plan calls reached outcome ⟨call,member,record⟩ with
          ⟨caller,there,computed⟩ | documents
        · exact unresolved caller there computed
        · rw [lacking] at documents
          cases documents
      · exact unresolved call member calculated

end Sufficient

-- A delivered order is asked for by its id, and there are no documents.
def bareSurroundings : Surroundings := ⟨fun _ => 0,fun _ => .ok strayReply⟩

def orderGathering : Except PyError Gathered × Progress :=
  let _ := asciiHost [] []
  (gathering toolRegistry "AB-1" adminRequest {}).under deliveredDb bareSurroundings {}

def orderFinds : Bool :=
  let _ := asciiHost [] []
  match orderGathering.1 with
  | .ok ⟨_,_,.ok (_,.ok calls)⟩ => calls.any foundRecord && calls.all (!foundResult ·) &&
      !isDocumentEvidenceSufficient "AB-1" (chunksFound calls)
  | _ => false

theorem order_gathered : let _ := asciiHost [] []
    ∃ gathered between plan calls, orderGathering = (.ok gathered,between) ∧
      gathered.outcome = .ok (plan,.ok calls) ∧ (∃ call ∈ calls, foundRecord call = true) ∧
      (∀ call ∈ calls, foundResult call = false) ∧
      isDocumentEvidenceSufficient "AB-1" (chunksFound calls) = false := by
  intro _
  have reached : orderFinds = true := by decide +kernel
  unfold orderFinds at reached
  split at reached
  · rename_i start entities plan calls outcome
    simp only [Bool.and_eq_true,List.any_eq_true,List.all_eq_true,Bool.not_eq_true'] at reached
    obtain ⟨⟨found,resultless⟩,lacking⟩ := reached
    refine ⟨_,orderGathering.2,plan,calls,Prod.ext outcome rfl,rfl,?_,resultless,lacking⟩
    obtain ⟨call,member,record⟩ := found
    exact ⟨call,member,record⟩
  · cases reached

theorem found_order_insufficient : let _ := asciiHost [] []
    (∃ gathered between, (gathering toolRegistry "AB-1" adminRequest {}).under deliveredDb
        bareSurroundings {} = (.ok gathered,between) ∧
      ∃ call ∈ gathered.calls, foundRecord call = true) ∧
    ∃ result after, (runAgent toolRegistry "AB-1" adminRequest "mock-model" {}).under deliveredDb
        bareSurroundings {} = (.ok result,after) ∧ result.status = .insufficientEvidence := by
  intro _
  obtain ⟨gathered,between,plan,calls,reached,outcome,found,resultless,lacking⟩ := order_gathered
  have made : gathered.calls = calls := by rw [Gathered.calls,outcome]
  refine ⟨⟨gathered,between,reached,by rwa [made]⟩,?_⟩
  obtain ⟨result,after,ended⟩ : ∃ result after, (conclude
      (estimateWorstCaseCostUsd "mock-model") "AB-1" adminRequest "mock-model" {} gathered).under
        deliveredDb bareSurroundings between = (.ok result,after) :=
    conclude_total gathered
  have decided := conclude_insufficient ended
  rw [outcome] at decided
  refine ⟨result,after,?_,decided.mpr ⟨resultless,lacking⟩⟩
  rw [runAgent_gathered]
  exact under_bind_ok.mpr ⟨gathered,between,reached,ended⟩

end ParcelPilot
