import ParcelPilot.Planning
import ParcelPilot.Scanning

namespace ParcelPilot

section Wordings

variable [Host] {question literal : String} {wording first second : Pattern} {c : Char}

-- No white space is a case of an ASCII letter.
def SpacesAreNoLetters : Prop := ∀ c letter : Char, Host.isSpace c = true → letter.isAlpha = true →
  Host.sameLetter letter c = false

-- A pattern that white space cannot begin.
def NeedsText (pattern : Pattern) : Prop := ∀ cursor, (∀ c ∈ cursor.after, Host.isSpace c = true) →
  Pattern.ends Host.isWord pattern cursor = []

theorem needsText_seq (starts : NeedsText first) : NeedsText (.seq first second) := by
  intro cursor blank
  simp [Pattern.ends,starts cursor blank]

theorem needsText_either (left : NeedsText first) (right : NeedsText second) :
    NeedsText (.either first second) := by
  intro cursor blank
  simp [Pattern.ends,left cursor blank,right cursor blank]

theorem needsText_text (spaces : SpacesAreNoLetters) (starts : literal.toList.head? = some c)
    (letter : c.isAlpha = true) : NeedsText (text literal) := by
  obtain ⟨rest,spelt⟩ : ∃ rest, literal.toList = c :: rest := by
    cases letters : literal.toList with
    | nil => simp [letters] at starts
    | cons first rest =>
        rw [letters,List.head?_cons,Option.some.injEq] at starts
        exact ⟨rest,by rw [starts]⟩
  have head : NeedsText (.one (Host.sameLetter c)) := by
    intro cursor blank
    unfold Pattern.ends
    cases ahead : cursor.after with
    | nil => rfl
    | cons d rest =>
        have other := spaces d c (blank d (by rw [ahead]; simp)) letter
        simp [other]
  unfold text Pattern.literal
  rw [spelt,List.map_cons]
  cases rest with
  | nil => exact head
  | cons next more => exact needsText_seq head

theorem needsText_anyOf {wordings : List Pattern} (each : NeedsText (Pattern.oneOf wordings)) :
    NeedsText (anyOf wordings) := by
  intro cursor blank
  apply List.eq_nil_iff_forall_not_mem.mpr
  intro stop member
  obtain ⟨middle,bounded,rest⟩ := Pattern.mem_ends_seq.mp member
  obtain ⟨_,rfl⟩ := Pattern.mem_ends_boundary.mp bounded
  have stuck : NeedsText (Pattern.sequence [Pattern.oneOf wordings,.boundary]) := needsText_seq each
  rw [stuck middle blank] at rest
  cases rest

theorem unworded_blank (needs : NeedsText wording) (blank : Py.isBlank question = true) :
    worded question wording = false := by
  have spaces : ∀ c ∈ question.toList, Host.isSpace c = true := List.all_eq_true.mp blank
  have nowhere : ∀ before after : List Char, (∀ c ∈ after, Host.isSpace c = true) →
      Pattern.searchFrom Host.isWord wording before after = false := by
    intro before after
    induction after generalizing before with
    | nil =>
        intro inside
        simp [Pattern.searchFrom,Pattern.matchHere,needs ⟨before,[]⟩ inside]
    | cons c rest ih =>
        intro inside
        have later := ih (c :: before) fun d member => inside d (List.mem_cons_of_mem _ member)
        simp [Pattern.searchFrom,Pattern.matchHere,needs ⟨before,c :: rest⟩ inside,later]
  exact nowhere [] question.toList spaces

end Wordings

section Coverage

variable [Host] {question : String} {entities : EntityResolution} {intent : Intent}

-- The keyword of a calculation stands in the question, with an entity for it.
def signalled (question : String) (entities : EntityResolution) : Intent → Bool
  | .cancellation => worded question cancellationWords && !entities.orderIds.isEmpty
  | .serviceCredit => worded question serviceCreditWords && !entities.orderIds.isEmpty
  | .sla => worded question slaWords && !entities.ticketIds.isEmpty
  | .severity => worded question severityWords && !entities.ticketIds.isEmpty
  | _ => false

-- The calculations of a plan.
def PlanStep.calculation (step : PlanStep) : Option CalculateSupportOutcomeRequest :=
  match step.args with
  | .calculateSupportOutcome request => some request
  | _ => none

def Plan.calculations (plan : Plan) : List CalculateSupportOutcomeRequest :=
  plan.steps.filterMap (·.calculation)

-- Each intent that a question signals has all of its calculations in the plan.
def AsksCovered (question : String) (entities : EntityResolution) : Prop :=
  ∀ intent, signalled question entities intent = true →
    ∀ request ∈ (buildPlan question intent entities).calculations,
      request ∈ (buildPlan question (resolveIntent question entities) entities).calculations

def calculationsOf (entities : EntityResolution) : Intent → List CalculateSupportOutcomeRequest
  | .cancellation => entities.orderIds.map (⟨.cancellation,·⟩)
  | .serviceCredit => entities.orderIds.map (⟨.serviceCredit,·⟩)
  | .sla => entities.ticketIds.map (⟨.sla,·⟩)
  | .severity => entities.ticketIds.map (⟨.severity,·⟩)
  | .multiSource => entities.orderIds.flatMap (fun orderId =>
      [⟨.cancellation,orderId⟩,⟨.serviceCredit,orderId⟩]) ++ entities.ticketIds.map (⟨.sla,·⟩)
  | _ => []

omit [Host] in
@[simp] theorem searchStep_calculation (purpose : String) (types : Option (List SourceType)) :
    (searchStep question purpose types).calculation = none := rfl

omit [Host] in
@[simp] theorem lookupOrder_calculation (id : String) : (lookupOrder id).calculation = none := rfl

omit [Host] in
@[simp] theorem lookupTicket_calculation (id : String) : (lookupTicket id).calculation = none := rfl

omit [Host] in
@[simp] theorem lookupAccount_calculation (id : String) : (lookupAccount id).calculation = none := rfl

omit [Host] in
@[simp] theorem cancellationStep_calculation (id : String) :
    (cancellationStep id).calculation = some ⟨.cancellation,id⟩ := rfl

omit [Host] in
@[simp] theorem serviceCreditStep_calculation (id : String) :
    (serviceCreditStep id).calculation = some ⟨.serviceCredit,id⟩ := rfl

omit [Host] in
@[simp] theorem slaStep_calculation (id : String) :
    (slaStep id).calculation = some ⟨.sla,id⟩ := rfl

omit [Host] in
@[simp] theorem severityStep_calculation (id : String) :
    (severityStep id).calculation = some ⟨.severity,id⟩ := rfl

omit [Host] in
theorem calculations_plan :
    (buildPlan question intent entities).calculations = calculationsOf entities intent := by
  have nothing (ids : List String) :
      ids.flatMap (fun _ => ([] : List CalculateSupportOutcomeRequest)) = [] :=
    List.flatMap_eq_nil_iff.mpr fun _ _ => rfl
  cases intent <;>
    simp [Plan.calculations,buildPlan,calculationsOf,List.filterMap_flatMap,List.filterMap_cons,
      List.map_eq_flatMap,nothing]

-- The keyword conditions, in the order they are tried.
def signals_ (question : String) (entities : EntityResolution) : List Intent :=
  (if signalled question entities .cancellation then [Intent.cancellation] else []) ++
  (if signalled question entities .serviceCredit then [Intent.serviceCredit] else []) ++
  (if signalled question entities .sla then [Intent.sla] else []) ++
  (if signalled question entities .severity then [Intent.severity] else []) ++
  (if worded question knownIssueWords then [Intent.knownIssue] else [])

theorem mem_signals : intent ∈ signals_ question entities ↔ signalled question entities intent = true ∨
    intent = .knownIssue ∧ worded question knownIssueWords = true := by
  have listed (shown : Bool) (wanted : Intent) :
      intent ∈ (if shown then [wanted] else []) ↔ intent = wanted ∧ shown = true := by
    cases shown <;> simp
  unfold signals_
  simp only [List.mem_append,listed]
  cases intent <;> simp [signalled]

theorem signals_nodup : (signals_ question entities).Nodup := by
  have apart (shown : Bool) (wanted : Intent) :
      (if shown then [wanted] else []).Sublist [wanted] := by cases shown <;> simp
  have sub := ((((apart (signalled question entities .cancellation) .cancellation).append
    (apart (signalled question entities .serviceCredit) .serviceCredit)).append
    (apart (signalled question entities .sla) .sla)).append
    (apart (signalled question entities .severity) .severity)).append
    (apart (worded question knownIssueWords) .knownIssue)
  exact List.Nodup.sublist sub (by decide)

theorem resolveIntent_signalled (clear : entities.needsClarification = false)
    (written : Py.isBlank question = false) (first : signals_ question entities = signal :: rest) :
    resolveIntent question entities = if rest = [] then signal else .multiSource := by
  unfold resolveIntent
  simp only [clear,written,Bool.false_eq_true,if_false]
  split <;> rename_i taken
  · cases first.symm.trans taken
    rfl
  · cases first.symm.trans taken
    rfl
  · cases first.symm.trans taken

theorem resolveIntent_follows (clear : entities.needsClarification = false)
    (written : Py.isBlank question = false) (here : intent ∈ signals_ question entities) :
    (∀ other ∈ signals_ question entities, other = intent) ∧
        resolveIntent question entities = intent ∨
      (¬ ∀ other ∈ signals_ question entities, other = intent) ∧
        resolveIntent question entities = .multiSource := by
  cases first : signals_ question entities with
  | nil => simp [first] at here
  | cons signal rest =>
      rw [resolveIntent_signalled clear written first]
      rw [first] at here
      have distinct : (signal :: rest).Nodup := first ▸ signals_nodup
      cases rest with
      | nil =>
          cases List.mem_singleton.mp here
          exact .inl ⟨by simp,rfl⟩
      | cons second more =>
          refine .inr ⟨?_,by simp⟩
          intro same
          have one := same signal (by simp)
          have two := same second (by simp)
          simp [one,two] at distinct

theorem signalled_written (spaces : SpacesAreNoLetters)
    (signal : signalled question entities intent = true) : Py.isBlank question = false := by
  by_contra blank
  rw [Bool.not_eq_false] at blank
  have word (literal : String) (c : Char) (starts : literal.toList.head? = some c)
      (letter : c.isAlpha = true) : NeedsText (text literal) := needsText_text spaces starts letter
  cases intent with
  | cancellation =>
      have needs : NeedsText cancellationWords :=
        needsText_anyOf (needsText_seq (word "cancel" 'c' (by decide) (by decide)))
      simp [signalled,unworded_blank needs blank] at signal
  | serviceCredit =>
      have needs : NeedsText serviceCreditWords := needsText_anyOf
        (needsText_either (word "credit" 'c' (by decide) (by decide))
          (needsText_either (word "refund" 'r' (by decide) (by decide))
            (needsText_seq (word "compensat" 'c' (by decide) (by decide)))))
      simp [signalled,unworded_blank needs blank] at signal
  | sla =>
      have needs : NeedsText slaWords := needsText_anyOf
        (needsText_either (word "sla" 's' (by decide) (by decide))
          (needsText_either (word "deadline" 'd' (by decide) (by decide))
            (needsText_either (needsText_seq (word "breach" 'b' (by decide) (by decide)))
              (needsText_either (needsText_seq (word "first" 'f' (by decide) (by decide)))
                (word "response time" 'r' (by decide) (by decide))))))
      simp [signalled,unworded_blank needs blank] at signal
  | severity =>
      have needs : NeedsText severityWords := needsText_either
        (needsText_anyOf (needsText_seq (word "sever" 's' (by decide) (by decide))))
        (needsText_anyOf (needsText_seq (word "priorit" 'p' (by decide) (by decide))))
      simp [signalled,unworded_blank needs blank] at signal
  | _ => simp [signalled] at signal

-- The combined plan has what the others would have but the severity.
theorem multiSource_calculates (signal : signalled question entities intent = true)
    (other : intent ≠ .severity) {request : CalculateSupportOutcomeRequest}
    (member : request ∈ calculationsOf entities intent) :
    request ∈ calculationsOf entities .multiSource := by
  cases intent with
  | cancellation =>
      obtain ⟨orderId,asked,rfl⟩ := List.mem_map.mp member
      exact List.mem_append_left _ (List.mem_flatMap.mpr ⟨orderId,asked,by simp⟩)
  | serviceCredit =>
      obtain ⟨orderId,asked,rfl⟩ := List.mem_map.mp member
      exact List.mem_append_left _ (List.mem_flatMap.mpr ⟨orderId,asked,by simp⟩)
  | sla => exact List.mem_append_right _ member
  | severity => exact absurd rfl other
  | _ => simp [signalled] at signal

omit [Host] in
theorem severity_uncalculated {ticketId : String} :
    (⟨.severity,ticketId⟩ : CalculateSupportOutcomeRequest) ∉ calculationsOf entities .multiSource := by
  simp [calculationsOf]

theorem severity_ticket (severe : signalled question entities .severity = true) :
    ∃ ticketId, (⟨.severity,ticketId⟩ : CalculateSupportOutcomeRequest) ∈
      calculationsOf entities .severity := by
  cases tickets : entities.ticketIds with
  | nil => simp [signalled,tickets] at severe
  | cons ticketId rest => exact ⟨ticketId,by simp [calculationsOf,tickets]⟩

theorem severity_alone :
    (∀ other ∈ signals_ question entities, other = Intent.severity) ↔
      ¬ (signalled question entities .cancellation = true ∨
        signalled question entities .serviceCredit = true ∨ signalled question entities .sla = true ∨
        worded question knownIssueWords = true) := by
  constructor
  · intro alone others
    rcases others with other | other | other | other
    · cases alone _ (mem_signals.mpr (.inl other))
    · cases alone _ (mem_signals.mpr (.inl other))
    · cases alone _ (mem_signals.mpr (.inl other))
    · cases alone _ (mem_signals.mpr (.inr ⟨rfl,other⟩))
  · intro apart other listed
    rcases mem_signals.mp listed with also | ⟨_,known⟩
    · cases other with
      | severity => rfl
      | cancellation => exact absurd (.inl also) apart
      | serviceCredit => exact absurd (.inr (.inl also)) apart
      | sla => exact absurd (.inr (.inr (.inl also))) apart
      | _ => simp [signalled] at also
    · exact absurd (.inr (.inr (.inr known))) apart

theorem asks_covered_iff (spaces : SpacesAreNoLetters) (question : String)
    (entities : EntityResolution) (clear : entities.needsClarification = false) :
    AsksCovered question entities ↔ ¬ (signalled question entities .severity = true ∧
      (signalled question entities .cancellation = true ∨
        signalled question entities .serviceCredit = true ∨ signalled question entities .sla = true ∨
        worded question knownIssueWords = true)) := by
  have follows {intent : Intent} (signal : signalled question entities intent = true) :=
    resolveIntent_follows clear (signalled_written spaces signal) (mem_signals.mpr (.inl signal))
  unfold AsksCovered
  simp only [calculations_plan]
  constructor
  · intro covered clash
    obtain ⟨severe,others⟩ := clash
    obtain ⟨ticketId,asked⟩ := severity_ticket severe
    rcases follows severe with ⟨alone,_⟩ | ⟨_,multi⟩
    · exact severity_alone.mp alone others
    · have kept := covered .severity severe _ asked
      rw [multi] at kept
      exact severity_uncalculated kept
  · intro apart intent signal request member
    rcases follows signal with ⟨_,same⟩ | ⟨several,multi⟩
    · rwa [same]
    · rw [multi]
      by_cases severe : intent = .severity
      · -- severity with anything else is what the condition excludes
        subst severe
        exact absurd (severity_alone.mpr fun others => apart ⟨signal,others⟩) several
      · exact multiSource_calculates signal severe member

-- "severity" with "SLA": the plan has no step for the severity, and the SLA step
-- tells it only where it finds a target.
omit [Host] in
theorem severity_dropped : let _ := asciiHost [] []
    ¬ AsksCovered "Which severity is TKT-1 and when is its SLA due?" {ticketIds := ["TKT-1"]} := by
  intro _ covered
  have severe : signalled "Which severity is TKT-1 and when is its SLA due?" {ticketIds := ["TKT-1"]}
      .severity = true := by decide +kernel
  have multi : resolveIntent "Which severity is TKT-1 and when is its SLA due?"
      {ticketIds := ["TKT-1"]} = .multiSource := by decide +kernel
  have lost := covered .severity severe ⟨.severity,"TKT-1"⟩
    (by rw [calculations_plan]; exact List.mem_singleton_self _)
  rw [calculations_plan,multi] at lost
  simp [calculationsOf] at lost

omit [Host] in
theorem asciiHost_spaces : let _ := asciiHost [] []
    SpacesAreNoLetters := by
  intro _ c letter space alpha
  have low : ∀ n < 33, (Char.ofNat n).toLower.toNat < 65 := by decide
  have high : ∀ n < 128, (Char.ofNat n).isAlpha = true → 65 ≤ (Char.ofNat n).toLower.toNat := by decide
  have ascii : letter.toNat < 128 := by
    rw [Pattern.alpha_codes] at alpha
    omega
  have control : c.toNat < 33 := by
    change (c = ' ' || (9 ≤ c.toNat && c.toNat ≤ 13) || (28 ≤ c.toNat && c.toNat ≤ 31)) = true at space
    simp only [Bool.or_eq_true,Bool.and_eq_true,decide_eq_true_eq] at space
    rcases space with (rfl | tab) | separator
    · decide
    · omega
    · omega
  have below := low c.toNat control
  have above := high letter.toNat ascii (by rwa [Char.ofNat_toNat])
  rw [Char.ofNat_toNat] at below above
  apply decide_eq_false
  intro same
  rw [same] at above
  omega

omit [Host] in
theorem asks_covered_apart : let _ := asciiHost [] []
    AsksCovered "Can I cancel ORD-1 and get a credit?" {orderIds := ["ORD-1"]} := by
  intro _
  have plain : signalled "Can I cancel ORD-1 and get a credit?" {orderIds := ["ORD-1"]} .severity =
      false := by decide +kernel
  apply (asks_covered_iff asciiHost_spaces _ _ rfl).mpr
  rw [plain]
  simp

end Coverage

end ParcelPilot
