import ParcelPilot.Providers

namespace ParcelPilot

-- app/llm/gateway.py: a `ProviderAttempt` with everything it records
structure AttemptRecord where
  provider : String
  model : String
  success : Bool
  error : Option String := none
  retryable : Bool := false
  latencyMs : Rat
deriving DecidableEq,Repr

structure GatewayRunInfo where
  providerAttempts : List AttemptRecord
  fallbackUsed : Bool
  fallbackReason : Option String
  totalCostUsd : Rat
  totalLatencyMs : Rat
deriving DecidableEq,Repr

-- What the two exceptions quote of it.
def AttemptRecord.failure (attempt : AttemptRecord) : ProviderAttempt :=
  (attempt.provider,attempt.error.getD "None")

-- The loop over the candidates with `last_run`; the readings of the clock are
-- numbered, two for each attempt and one at either end.
def reportCandidates (readings : Nat → Rat) (request : LLMRequest) :
    List (Candidate σ) → Nat → List AttemptRecord → σ →
      (Except ProviderError LLMResponse × GatewayRunInfo) × σ
  | [],index,attempts,state =>
      ((.error (allProvidersFailedError (attempts.map (·.failure))),
        { providerAttempts := attempts
          fallbackUsed := 1 < attempts.length
          fallbackReason := attempts.head?.bind (·.error)
          totalCostUsd := 0
          totalLatencyMs := (readings (2 * index + 1) - readings 0) * 1000 }),state)
  | candidate :: rest,index,attempts,state =>
      let latencyMs := (readings (2 * index + 2) - readings (2 * index + 1)) * 1000
      let totalLatencyMs := (readings (2 * index + 3) - readings 0) * 1000
      match candidate.provider {request with model := candidate.model} state with
      | (.error exc,after) =>
          let retryable := isRetryableProviderError exc
          let attempt : AttemptRecord :=
            { provider := candidate.name, model := candidate.model, success := false
              error := some exc.message, retryable := retryable, latencyMs := latencyMs }
          let attempts := attempts ++ [attempt]
          if !retryable then
            ((.error (nonRetryableProviderError attempt.failure),
              { providerAttempts := attempts
                fallbackUsed := false
                fallbackReason := attempt.error
                totalCostUsd := 0
                totalLatencyMs := totalLatencyMs }),after)
          else reportCandidates readings request rest (index + 1) attempts after
      | (.ok response,after) =>
          let attempts := attempts ++
            [{ provider := candidate.name, model := candidate.model, success := true
               latencyMs := latencyMs }]
          let fallbackUsed : Bool := 0 < index
          ((.ok response,
            { providerAttempts := attempts
              fallbackUsed := fallbackUsed
              fallbackReason := if fallbackUsed then attempts.head?.bind (·.error) else none
              totalCostUsd := response.cost.totalCostUsd
              totalLatencyMs := totalLatencyMs }),after)

-- `complete` and the `last_run` it leaves.
def ParcelPilotLLMGateway.run (gateway : ParcelPilotLLMGateway σ) (readings : Nat → Rat)
    (request : LLMRequest) (state : σ) : (Except ProviderError LLMResponse × GatewayRunInfo) × σ :=
  reportCandidates readings request gateway.candidates 0 [] state

-- What a report ought to say of its own attempts.
structure GatewayRunInfo.Truthful (info : GatewayRunInfo) : Prop where
  used : info.fallbackUsed = true ↔ 1 < info.providerAttempts.length
  reason : info.fallbackReason =
    if 1 < info.providerAttempts.length then info.providerAttempts.head?.bind (·.error) else none

def failsRetryably : Except ProviderError LLMResponse → Bool
  | .error exc => isRetryableProviderError exc
  | .ok _ => false

-- Each of them once, in their order and with its own model.
def callEach (request : LLMRequest) : List (Candidate σ) → σ →
    List (Except ProviderError LLMResponse) × σ
  | [],state => ([],state)
  | candidate :: rest,state =>
      let called := candidate.provider {request with model := candidate.model} state
      let later := callEach request rest called.2
      (called.1 :: later.1,later.2)

-- A call as it is recorded, but for the time it took.
def recordOf (candidate : Candidate σ) : Except ProviderError LLMResponse → AttemptRecord
  | .ok _ =>
      { provider := candidate.name, model := candidate.model, success := true, latencyMs := 0 }
  | .error exc =>
      { provider := candidate.name, model := candidate.model, success := false
        error := some exc.message, retryable := isRetryableProviderError exc, latencyMs := 0 }

def AttemptRecord.untimed (attempt : AttemptRecord) : AttemptRecord := {attempt with latencyMs := 0}

-- What calls that stopped at the last of these outcomes come to.
def concluded (records : List AttemptRecord) (outcomes : List (Except ProviderError LLMResponse)) :
    Except ProviderError LLMResponse :=
  match outcomes.getLast?,records.getLast? with
  | some (.ok response),_ => .ok response
  | some (.error exc),some attempt =>
      if isRetryableProviderError exc then
        .error (allProvidersFailedError (records.map (·.failure)))
      else .error (nonRetryableProviderError attempt.failure)
  | _,_ => .error (allProvidersFailedError [])

-- The calls of a run, as far as the first that does not fail retryably, and
-- everything it says of them apart from the fallback.
structure Exact (request : LLMRequest) (candidates : List (Candidate σ)) (state : σ)
    (run : (Except ProviderError LLMResponse × GatewayRunInfo) × σ) (tried : List (Candidate σ))
    (outcomes : List (Except ProviderError LLMResponse)) : Prop where
  order : tried <+: candidates
  called : callEach request tried state = (outcomes,run.2)
  retried : ∀ outcome ∈ outcomes.dropLast, failsRetryably outcome = true
  stopped : tried = candidates ∨ ∃ last, outcomes.getLast? = some last ∧ failsRetryably last = false
  returned : run.1.1 = concluded (List.zipWith recordOf tried outcomes) outcomes
  recorded : run.1.2.providerAttempts.map (·.untimed) = List.zipWith recordOf tried outcomes

-- The first outcome that is no retryable failure is a response, or there is
-- none and more than one candidate to say so.
def ReportHolds (request : LLMRequest) (candidates : List (Candidate σ)) (state : σ) : Prop :=
  match (callEach request candidates state).1.find? (!failsRetryably ·) with
  | some (.ok _) => True
  | some (.error _) => False
  | none => 1 < candidates.length

section Gateway

variable {σ : Type} {readings : Nat → Rat} {request : LLMRequest} {state between after : σ}
  {candidates tried rest : List (Candidate σ)} {candidate : Candidate σ}
  {outcomes : List (Except ProviderError LLMResponse)}

-- The report is the only thing this gateway adds.
theorem reportCandidates_complete (candidates : List (Candidate σ)) (index : Nat)
    (attempts : List AttemptRecord) (state : σ) :
    ((reportCandidates readings request candidates index attempts state).1.1,
        (reportCandidates readings request candidates index attempts state).2) =
      tryCandidates request candidates (attempts.map (·.failure)) state := by
  induction candidates generalizing index attempts state with
  | nil => rfl
  | cons candidate rest ih =>
      rcases called : candidate.provider {request with model := candidate.model} state with
        ⟨exc | response,after⟩
      · by_cases retryable : isRetryableProviderError exc = true
        · simp only [reportCandidates,tryCandidates,called,retryable]
          rw [if_neg (by decide),ih]
          simp [AttemptRecord.failure]
        · simp [reportCandidates,tryCandidates,called,retryable,AttemptRecord.failure]
      · simp [reportCandidates,tryCandidates,called]

theorem run_complete (gateway : ParcelPilotLLMGateway σ) :
    ((gateway.run readings request state).1.1,(gateway.run readings request state).2) =
      gateway.complete request state :=
  reportCandidates_complete gateway.candidates 0 [] state

theorem callEach_append (one two : List (Candidate σ)) (state : σ) :
    callEach request (one ++ two) state =
      ((callEach request one state).1 ++ (callEach request two (callEach request one state).2).1,
        (callEach request two (callEach request one state).2).2) := by
  induction one generalizing state with
  | nil => rfl
  | cons candidate rest ih => simp only [List.cons_append,callEach,ih]

theorem callEach_length (candidates : List (Candidate σ)) (state : σ) :
    (callEach request candidates state).1.length = candidates.length := by
  induction candidates generalizing state with
  | nil => rfl
  | cons candidate rest ih => simp only [callEach,List.length_cons,ih]

-- What holds of the loop each time it comes to another candidate.
structure Underway (request : LLMRequest) (start : σ) (tried : List (Candidate σ))
    (outcomes : List (Except ProviderError LLMResponse)) (attempts : List AttemptRecord)
    (state : σ) : Prop where
  called : callEach request tried start = (outcomes,state)
  retried : ∀ outcome ∈ outcomes, failsRetryably outcome = true
  recorded : attempts.map (·.untimed) = List.zipWith recordOf tried outcomes

variable {start : σ} {attempts : List AttemptRecord}

theorem Underway.same_length (underway : Underway request start tried outcomes attempts state) :
    outcomes.length = tried.length := by
  have counted : (callEach request tried start).1.length = tried.length :=
    callEach_length tried start
  rw [underway.called] at counted
  exact counted

theorem Underway.next (underway : Underway request start tried outcomes attempts state)
    {outcome : Except ProviderError LLMResponse} {attempt : AttemptRecord}
    (called : candidate.provider {request with model := candidate.model} state = (outcome,after))
    (recorded : attempt.untimed = recordOf candidate outcome) :
    callEach request (tried ++ [candidate]) start = (outcomes ++ [outcome],after) ∧
      (attempts ++ [attempt]).map (·.untimed) =
        List.zipWith recordOf (tried ++ [candidate]) (outcomes ++ [outcome]) := by
  constructor
  · rw [callEach_append,underway.called]
    simp only [callEach,called]
  · rw [List.zipWith_append underway.same_length.symm,← underway.recorded]
    simp [recorded]

theorem Underway.reason (underway : Underway request start tried outcomes attempts state)
    (some_ : attempts ≠ []) : attempts.head?.bind (·.error) ≠ none := by
  have recorded := underway.recorded
  obtain ⟨attempt,later,rfl⟩ := List.exists_cons_of_ne_nil some_
  cases tried with
  | nil => cases recorded
  | cons candidate rest =>
      cases outcomes with
      | nil => cases recorded
      | cons outcome others =>
          have failed := underway.retried outcome (by simp)
          cases outcome with
          | ok response => cases failed
          | error exc =>
              have same : attempt.error = some exc.message :=
                congrArg AttemptRecord.error (List.cons.inj recorded).1
              simp [same]

theorem reportHolds_settled {settled : Except ProviderError LLMResponse}
    {later : List (Except ProviderError LLMResponse)}
    (called : (callEach request candidates start).1 = outcomes ++ settled :: later)
    (retried : ∀ outcome ∈ outcomes, failsRetryably outcome = true)
    (stopped : failsRetryably settled = false) :
    ReportHolds request candidates start ↔ ∃ response, settled = .ok response := by
  have first : (outcomes ++ settled :: later).find? (!failsRetryably ·) = some settled := by
    have none : outcomes.find? (!failsRetryably ·) = none := by
      rw [List.find?_eq_none]
      intro outcome member
      simp [retried outcome member]
    rw [List.find?_append,none,Option.none_or,List.find?_cons_of_pos (by simp [stopped])]
  unfold ReportHolds
  rw [called,first]
  cases settled with
  | ok response => simp
  | error exc => simp

theorem reportHolds_exhausted
    (retried : ∀ outcome ∈ (callEach request candidates start).1, failsRetryably outcome = true) :
    ReportHolds request candidates start ↔ 1 < candidates.length := by
  have none : (callEach request candidates start).1.find? (!failsRetryably ·) = none := by
    rw [List.find?_eq_none]
    intro outcome member
    simp [retried outcome member]
  unfold ReportHolds
  rw [none]

theorem zipWith_last {one : α} {two : β} {join : α → β → γ} {ones : List α} {twos : List β}
    (same : twos.length = ones.length) :
    (List.zipWith join (ones ++ [one]) (twos ++ [two])).getLast? = some (join one two) := by
  rw [List.zipWith_append same.symm]
  simp

theorem exit_answered {index : Nat} {response : LLMResponse}
    (called : candidate.provider {request with model := candidate.model} state =
      (.ok response,after)) :
    ∃ attempt info, attempt.untimed = recordOf candidate (.ok response) ∧
      reportCandidates readings request (candidate :: rest) index attempts state =
        ((.ok response,info),after) ∧
      info.providerAttempts = attempts ++ [attempt] ∧ info.fallbackUsed = decide (0 < index) ∧
      info.fallbackReason =
        if 0 < index then (attempts ++ [attempt]).head?.bind (·.error) else none := by
  unfold reportCandidates
  rw [called]
  exact ⟨_,_,rfl,rfl,rfl,rfl,by simp⟩

theorem exit_permanent {index : Nat} {exc : ProviderError}
    (called : candidate.provider {request with model := candidate.model} state = (.error exc,after))
    (permanent : isRetryableProviderError exc = false) :
    ∃ attempt info, attempt.untimed = recordOf candidate (.error exc) ∧
      reportCandidates readings request (candidate :: rest) index attempts state =
        ((.error (nonRetryableProviderError (candidate.name,exc.message)),info),after) ∧
      info.providerAttempts = attempts ++ [attempt] ∧ info.fallbackUsed = false ∧
      info.fallbackReason = some exc.message := by
  unfold reportCandidates
  rw [called]
  simp only [permanent,Bool.not_false,↓reduceIte]
  exact ⟨_,_,by simp [recordOf,AttemptRecord.untimed,permanent],rfl,rfl,rfl,rfl⟩

theorem retried {index : Nat} {exc : ProviderError}
    (called : candidate.provider {request with model := candidate.model} state = (.error exc,after))
    (retryable : isRetryableProviderError exc = true) :
    ∃ attempt, attempt.untimed = recordOf candidate (.error exc) ∧
      reportCandidates readings request (candidate :: rest) index attempts state =
        reportCandidates readings request rest (index + 1) (attempts ++ [attempt]) after := by
  rw [reportCandidates,called]
  simp only [retryable,Bool.not_true,Bool.false_eq_true,↓reduceIte]
  exact ⟨_,by simp [recordOf,AttemptRecord.untimed,retryable],rfl⟩

theorem settled_calls {outcome : Except ProviderError LLMResponse}
    (underway : Underway request start tried outcomes attempts state)
    (called : candidate.provider {request with model := candidate.model} state = (outcome,after)) :
    (callEach request (tried ++ candidate :: rest) start).1 =
      outcomes ++ outcome :: (callEach request rest after).1 := by
  rw [callEach_append,underway.called]
  simp only [callEach,called]

theorem answered_exact {response : LLMResponse}
    (underway : Underway request start tried outcomes attempts state)
    (called : candidate.provider {request with model := candidate.model} state =
      (.ok response,after)) :
    Exact request (tried ++ candidate :: rest) start
        (reportCandidates readings request (candidate :: rest) attempts.length attempts state)
        (tried ++ [candidate]) (outcomes ++ [.ok response]) ∧
      ((reportCandidates readings request (candidate :: rest) attempts.length attempts
          state).1.2.Truthful ↔ ReportHolds request (tried ++ candidate :: rest) start) := by
  obtain ⟨attempt,info,same,run,listed,used,reason⟩ :=
    @exit_answered _ readings request _ after rest _ attempts attempts.length _ called
  obtain ⟨calls,recorded⟩ := underway.next called same
  rw [run]
  constructor
  · refine ⟨⟨rest,by simp⟩,calls,?_,.inr ⟨.ok response,by simp,rfl⟩,?_,?_⟩
    · simpa using underway.retried
    · simp [concluded]
    · rw [listed,recorded]
  · rw [reportHolds_settled (settled_calls underway called) underway.retried rfl]
    refine iff_of_true ⟨?_,?_⟩ ⟨response,rfl⟩
    · rw [used,listed]
      simp
    · rw [reason,listed]
      simp

theorem permanent_exact {exc : ProviderError}
    (underway : Underway request start tried outcomes attempts state)
    (called : candidate.provider {request with model := candidate.model} state = (.error exc,after))
    (permanent : isRetryableProviderError exc = false) :
    Exact request (tried ++ candidate :: rest) start
        (reportCandidates readings request (candidate :: rest) attempts.length attempts state)
        (tried ++ [candidate]) (outcomes ++ [.error exc]) ∧
      ((reportCandidates readings request (candidate :: rest) attempts.length attempts
          state).1.2.Truthful ↔ ReportHolds request (tried ++ candidate :: rest) start) := by
  obtain ⟨attempt,info,same,run,listed,used,reason⟩ :=
    @exit_permanent _ readings request _ after rest _ attempts attempts.length _ called permanent
  obtain ⟨calls,recorded⟩ := underway.next called same
  rw [run]
  constructor
  · refine ⟨⟨rest,by simp⟩,calls,?_,.inr ⟨.error exc,by simp,permanent⟩,?_,?_⟩
    · simpa using underway.retried
    · unfold concluded
      rw [zipWith_last underway.same_length]
      simp [permanent,recordOf,AttemptRecord.failure]
    · rw [listed,recorded]
  · rw [reportHolds_settled (settled_calls underway called) underway.retried permanent]
    apply iff_of_false
    · -- not used, says the report, and gives a reason all the same
      intro truthful
      have single : ¬ 1 < info.providerAttempts.length := by
        rw [← truthful.used,used]
        exact Bool.false_ne_true
      have unexplained := truthful.reason
      rw [if_neg single,reason] at unexplained
      cases unexplained
    · simp

theorem concluded_failed
    (failed : ∀ outcome ∈ outcomes, failsRetryably outcome = true)
    (listed : List.zipWith recordOf tried outcomes ≠ []) :
    concluded (List.zipWith recordOf tried outcomes) outcomes =
      .error (allProvidersFailedError ((List.zipWith recordOf tried outcomes).map (·.failure))) := by
  have asked : outcomes ≠ [] := by
    intro none
    rw [none,List.zipWith_nil_right] at listed
    exact listed rfl
  have last := failed _ (List.getLast_mem asked)
  unfold concluded
  rw [List.getLast?_eq_some_getLast asked,List.getLast?_eq_some_getLast listed]
  rcases ended : outcomes.getLast asked with exc | response
  · rw [ended] at last
    exact if_pos last
  · rw [ended] at last
    cases last

theorem exhausted_exact (underway : Underway request start tried outcomes attempts state)
    (some_ : tried ≠ []) :
    Exact request tried start
        (reportCandidates readings request [] attempts.length attempts state) tried outcomes ∧
      ((reportCandidates readings request ([] : List (Candidate σ)) attempts.length attempts
          state).1.2.Truthful ↔ ReportHolds request tried start) := by
  have counted : attempts.length = tried.length := by
    have lengths := congrArg List.length underway.recorded
    simpa [underway.same_length] using lengths
  have failed : ∀ outcome ∈ (callEach request tried start).1, failsRetryably outcome = true := by
    rw [underway.called]
    exact underway.retried
  have written : attempts ≠ [] := by
    rw [← List.length_pos_iff,counted]
    exact List.length_pos_iff.mpr some_
  constructor
  · refine ⟨List.prefix_rfl,underway.called,?_,.inl rfl,?_,underway.recorded⟩
    · intro outcome member
      exact underway.retried outcome (List.dropLast_subset _ member)
    · have quoted : (List.zipWith recordOf tried outcomes).map (·.failure) =
          attempts.map (·.failure) := by
        rw [← underway.recorded,List.map_map]
        rfl
      have listed : List.zipWith recordOf tried outcomes ≠ [] := by
        rw [← underway.recorded]
        simpa using written
      rw [concluded_failed underway.retried listed,quoted]
      simp [reportCandidates]
  · rw [reportHolds_exhausted failed,← counted]
    constructor
    · intro truthful
      by_contra single
      have unexplained : attempts.head?.bind (·.error) =
          if 1 < attempts.length then attempts.head?.bind (·.error) else none := truthful.reason
      rw [if_neg single] at unexplained
      exact underway.reason written unexplained
    · intro several
      exact ⟨by simp [reportCandidates],(if_pos several).symm⟩

theorem reportCandidates_exact {rest : List (Candidate σ)}
    (underway : Underway request start tried outcomes attempts state)
    (some_ : tried ++ rest ≠ []) :
    ∃ called outcomes,
      Exact request (tried ++ rest) start
        (reportCandidates readings request rest attempts.length attempts state) called outcomes ∧
      ((reportCandidates readings request rest attempts.length attempts state).1.2.Truthful ↔
        ReportHolds request (tried ++ rest) start) := by
  induction rest generalizing tried outcomes attempts state with
  | nil =>
      rw [List.append_nil] at some_ ⊢
      exact ⟨tried,outcomes,exhausted_exact underway some_⟩
  | cons candidate rest ih =>
      rcases called : candidate.provider {request with model := candidate.model} state with
        ⟨exc | response,after⟩
      · by_cases retryable : isRetryableProviderError exc = true
        · obtain ⟨attempt,same,run⟩ :=
            @retried _ readings request _ after rest _ attempts attempts.length _ called retryable
          obtain ⟨calls,recorded⟩ := underway.next called same
          have further : Underway request start (tried ++ [candidate]) (outcomes ++ [.error exc])
              (attempts ++ [attempt]) after := by
            refine ⟨calls,?_,recorded⟩
            intro outcome member
            rcases List.mem_append.mp member with earlier | last
            · exact underway.retried outcome earlier
            · rw [List.mem_singleton.mp last]
              exact retryable
          have later := ih further (by simp)
          rw [List.length_append,List.length_singleton,← run] at later
          simpa using later
        · exact ⟨_,_,permanent_exact underway called (Bool.eq_false_iff.mpr retryable)⟩
      · exact ⟨_,_,answered_exact underway called⟩

-- What the gateway calls and returns is always as it should be; what it reports
-- of the fallback is not.
theorem gateway_reports_iff (gateway : ParcelPilotLLMGateway σ) (readings : Nat → Rat)
    (request : LLMRequest) (state : σ) :
    ((gateway.run readings request state).1.1,(gateway.run readings request state).2) =
        gateway.complete request state ∧
      ∃ tried outcomes,
        Exact request gateway.candidates state (gateway.run readings request state) tried outcomes ∧
        ((gateway.run readings request state).1.2.Truthful ↔
          ReportHolds request gateway.candidates state) := by
  have opened : Underway request state ([] : List (Candidate σ)) [] [] state :=
    ⟨rfl,by simp,rfl⟩
  exact ⟨run_complete gateway,reportCandidates_exact opened gateway.candidate⟩

end Gateway

-- Overloaded, then a key that is wrong: the second candidate was tried, and the
-- report has no fallback but a reason for it.
def failing (name error message model : String) : Candidate Unit :=
  ⟨name,fun _ state => (.error ⟨error,message⟩,state),model⟩

def mixedGateway : ParcelPilotLLMGateway Unit :=
  ⟨[failing "anthropic" "RateLimitError" "rate limited" "claude-sonnet-5",
    failing "mock" "AuthenticationError" "bad api key" "mock-model"],by simp⟩

def helloRequest : LLMRequest := {messages := [⟨"user","hello"⟩], model := "placeholder"}

theorem mixed_untruthful : ∃ info,
    mixedGateway.run (fun _ => 0) helloRequest () =
      ((.error (nonRetryableProviderError ("mock","bad api key")),info),()) ∧
    info.providerAttempts.length = 2 ∧ info.fallbackUsed = false ∧
    info.fallbackReason = some "bad api key" ∧ ¬ info.Truthful := by
  have report : mixedGateway.run (fun _ => 0) helloRequest () =
      ((.error (nonRetryableProviderError ("mock","bad api key")),
        { providerAttempts :=
            [recordOf (failing "anthropic" "RateLimitError" "rate limited" "claude-sonnet-5")
                (.error ⟨"RateLimitError","rate limited"⟩),
              recordOf (failing "mock" "AuthenticationError" "bad api key" "mock-model")
                (.error ⟨"AuthenticationError","bad api key"⟩)]
          fallbackUsed := false
          fallbackReason := some "bad api key"
          totalCostUsd := 0
          totalLatencyMs := 0 }),()) := by
    decide +kernel
  refine ⟨_,report,rfl,rfl,rfl,?_⟩
  intro truthful
  cases truthful.used.mpr (by decide)

end ParcelPilot
