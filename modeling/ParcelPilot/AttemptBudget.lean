import Mathlib.Tactic.Linarith
import ParcelPilot.AnswerGuarantees

namespace ParcelPilot

-- A step that the tool loop has begun, with what the loop had counted by then.
structure BegunStep where
  step : PlanStep
  iterations : Nat
  progress : Progress

section Dispatches

variable [Host]

-- How often the loop of attempts dispatches the tool: once for each attempt.
def loopDispatches (db : Db) (surroundings : Surroundings) (name : ToolName) (spec : ToolSpec)
    (work : Agent ToolOutput) : Nat → Nat → Progress → Nat
  | 0,_,_ => 1
  | left + 1,attempt,progress =>
      match (attemptOnce name spec work attempt).under db surroundings progress with
      | (.ok result,after) =>
          if result.errorType = some .timeout then
            loopDispatches db surroundings name spec work left (attempt + 1) after + 1
          else 1
      | (.error _,_) => 1

def toolDispatches (db : Db) (surroundings : Surroundings) (tools : ToolRegistry)
    (context : AgentRequestContext) (begun : BegunStep) : Nat :=
  let request := begun.step.args
  let spec := tools request.tool
  if spec.retryable && spec.maxRetries < 0 then 0
  else loopDispatches db surroundings request.tool spec
    (dispatch context.auth context.clock request)
    (if spec.retryable then spec.maxRetries.toNat else 0) 1 begun.progress

def begunSteps (db : Db) (surroundings : Surroundings) (tools : ToolRegistry)
    (budget : AgentBudget) (context : AgentRequestContext) (start : Rat) :
    List PlanStep → Nat → Progress → List BegunStep
  | [],_,_ => []
  | step :: rest,iterations,progress =>
      let now := surroundings.readings progress.taken
      let between := {progress with taken := progress.taken + 1}
      if budget.maxWallClockSeconds < now - start then []
      else if budget.maxIterations ≤ iterations then []
      else
        ⟨step,iterations,between⟩ ::
          match (executeTool tools step.args context.auth context.clock).under db surroundings
            between with
          | (.ok result,after) =>
              if !result.success && result.errorType = some .notAuthorized then []
              else begunSteps db surroundings tools budget context start rest
                (iterations + result.attempts) after
          | (.error _,_) => []

def runSteps (tools : ToolRegistry) (question : String) (context : AgentRequestContext)
    (budget : AgentBudget) (db : Db) (surroundings : Surroundings) (progress : Progress) :
    List BegunStep :=
  match (resolveEntities question context.auth context.clock).on db with
  | .error _ => []
  | .ok entities =>
      match prepare question context budget entities with
      | .error _ => []
      | .ok plan => begunSteps db surroundings tools budget context
          (surroundings.readings progress.taken) plan.steps 0
          {progress with taken := progress.taken + 1}

def runDispatches (tools : ToolRegistry) (question : String) (context : AgentRequestContext)
    (budget : AgentBudget) (db : Db) (surroundings : Surroundings) (progress : Progress) : Nat :=
  ((runSteps tools question context budget db surroundings progress).map
    (toolDispatches db surroundings tools context)).sum

-- The next so many attempts, one after the other, all time out.
def TimesOut (db : Db) (surroundings : Surroundings) (name : ToolName) (spec : ToolSpec)
    (work : Agent ToolOutput) : Nat → Nat → Progress → Prop
  | 0,_,_ => True
  | count + 1,attempt,progress =>
      match (attemptOnce name spec work attempt).under db surroundings progress with
      | (.ok result,after) => result.errorType = some .timeout ∧
          TimesOut db surroundings name spec work count (attempt + 1) after
      | (.error _,_) => False

-- All the iterations that are left time out, and a retry is still allowed.
structure BegunStep.Overruns (db : Db) (surroundings : Surroundings) (tools : ToolRegistry)
    (budget : AgentBudget) (context : AgentRequestContext) (begun : BegunStep) : Prop where
  retryable : (tools begun.step.args.tool).retryable = true
  retries : budget.maxIterations - begun.iterations ≤ (tools begun.step.args.tool).maxRetries
  timesOut : TimesOut db surroundings begun.step.args.tool (tools begun.step.args.tool)
    (dispatch context.auth context.clock begun.step.args)
    (budget.maxIterations - begun.iterations).toNat 1 begun.progress

variable {db : Db} {surroundings : Surroundings} {tools : ToolRegistry} {budget : AgentBudget}
  {question model : String}
  {context : AgentRequestContext} {name : ToolName} {spec : ToolSpec} {work : Agent ToolOutput}
  {progress after : Progress} {attempt left : Nat}

theorem attemptOnce_under (name : ToolName) (spec : ToolSpec) (work : Agent ToolOutput)
    (attempt : Nat) (progress : Progress) :
    ∃ result after, (attemptOnce name spec work attempt).under db surroundings progress =
      (.ok result,after) ∧ result.attempts = attempt := by
  let begun := (perfCounter.under db surroundings progress).2
  let ended := (Fallible.perform (agentStep db surroundings) work begun)
  refine ⟨_,_,under_bind_ok.mpr ⟨_,begun,rfl,under_bind_ok.mpr ⟨ended.1,ended.2,?_,
    under_bind_ok.mpr ⟨_,_,under_perfCounter,rfl⟩⟩⟩,?_⟩
  · exact Fallible.perform_attempt work
  · cases ended.1 with
    | error exc => rfl
    | ok output =>
        unfold settle
        dsimp only
        split <;> rfl

theorem loopDispatches_pos (left attempt : Nat) (progress : Progress) :
    0 < loopDispatches db surroundings name spec work left attempt progress := by
  cases left with
  | zero => exact Nat.one_pos
  | succ left =>
      unfold loopDispatches
      split
      · split
        · exact Nat.succ_pos _
        · exact Nat.one_pos
      · exact Nat.one_pos

theorem attemptLoop_counts {result : ToolResult}
    (ran : (attemptLoop name spec work left attempt).under db surroundings progress =
      (.ok result,after)) :
    result.attempts + 1 = attempt + loopDispatches db surroundings name spec work left attempt
      progress := by
  induction left generalizing attempt progress with
  | zero =>
      obtain ⟨first,between,once,counted⟩ := @attemptOnce_under _ db surroundings name spec work
        attempt progress
      cases once.symm.trans ran
      rw [counted]
      rfl
  | succ left ih =>
      obtain ⟨first,between,once,counted⟩ := @attemptOnce_under _ db surroundings name spec work
        attempt progress
      obtain ⟨_,_,again,ran⟩ := under_bind_ok.mp ran
      cases once.symm.trans again
      unfold loopDispatches
      rw [once]
      dsimp only
      split at ran
      · rename_i timedOut
        obtain ⟨_,awake,slept,ran⟩ := under_bind_ok.mp ran
        have same : awake = between := (Prod.mk.inj slept).2.symm
        rw [same] at ran
        rw [if_pos timedOut,ih ran]
        omega
      · rename_i settled
        cases ran
        rw [if_neg settled,counted]

theorem loopDispatches_exceeds {count : Nat} :
    count < loopDispatches db surroundings name spec work left attempt progress ↔
      count ≤ left ∧ TimesOut db surroundings name spec work count attempt progress := by
  induction left generalizing count attempt progress with
  | zero =>
      cases count with
      | zero => exact iff_of_true Nat.one_pos ⟨Nat.le_refl _,trivial⟩
      | succ count => simp [loopDispatches]
  | succ left ih =>
      cases count with
      | zero => exact iff_of_true (loopDispatches_pos _ _ _) ⟨Nat.zero_le _,trivial⟩
      | succ count =>
          obtain ⟨first,between,once,_⟩ := @attemptOnce_under _ db surroundings name spec work
            attempt progress
          unfold loopDispatches TimesOut
          rw [once]
          dsimp only
          by_cases timedOut : first.errorType = some .timeout
          · rw [if_pos timedOut,Nat.succ_lt_succ_iff,Nat.succ_le_succ_iff,ih]
            simp [timedOut]
          · rw [if_neg timedOut]
            simp [timedOut]

theorem executeTool_counts {begun : BegunStep} {result : ToolResult}
    (ran : (executeTool tools begun.step.args context.auth context.clock).under db surroundings
      begun.progress = (.ok result,after)) :
    result.attempts = toolDispatches db surroundings tools context begun := by
  unfold executeTool at ran
  unfold toolDispatches
  dsimp only at ran ⊢
  split at ran
  · cases ran
  · rename_i kept
    rw [if_neg kept]
    have counted := attemptLoop_counts ran
    omega

theorem overruns_iff {begun : BegunStep} (started : begun.iterations < budget.maxIterations) :
    begun.Overruns db surroundings tools budget context ↔
      budget.maxIterations < begun.iterations + toolDispatches db surroundings tools context begun := by
  obtain ⟨left,remaining⟩ : ∃ left : Nat, budget.maxIterations - begun.iterations = left :=
    Int.eq_ofNat_of_zero_le (by omega)
  have exceeds (retries : Nat) := @loopDispatches_exceeds _ db surroundings begun.step.args.tool
    (tools begun.step.args.tool) (dispatch context.auth context.clock begun.step.args)
    begun.progress 1 retries left
  unfold toolDispatches
  dsimp only
  constructor
  · intro overruns
    obtain ⟨retryable,retries,timesOut⟩ := overruns
    rw [remaining] at retries timesOut
    rw [if_neg (by simp; omega),if_pos retryable]
    have more := (exceeds (tools begun.step.args.tool).maxRetries.toNat).mpr
      ⟨by omega,timesOut⟩
    omega
  · intro exceeded
    split at exceeded
    · omega
    · rename_i kept
      split at exceeded
      · rename_i retryable
        obtain ⟨allowed,timesOut⟩ :=
          (exceeds (tools begun.step.args.tool).maxRetries.toNat).mp
            (show left < _ by omega)
        refine ⟨retryable,?_,?_⟩
        · simp only [retryable,Bool.true_and,decide_eq_true_eq] at kept
          omega
        · rw [remaining]
          exact timesOut
      · have allowed := ((exceeds 0).mp (show left < _ by omega)).1
        omega

variable {start : Rat}

-- The step of the loop, and with it the whole loop: within the budget as long
-- as no step overruns what it finds left.
theorem steps_within_iff {steps : List PlanStep} {iterations : Nat}
    (within : iterations ≤ budget.maxIterations) :
    iterations + ((begunSteps db surroundings tools budget context start steps iterations
        progress).map (toolDispatches db surroundings tools context)).sum ≤ budget.maxIterations ↔
      ∀ begun ∈ begunSteps db surroundings tools budget context start steps iterations progress,
        ¬ begun.Overruns db surroundings tools budget context := by
  induction steps generalizing iterations progress with
  | nil => simpa [begunSteps] using within
  | cons step rest ih =>
      unfold begunSteps
      dsimp only
      split
      · simpa using within
      · split
        · simpa using within
        · rename_i room
          rw [List.map_cons,List.sum_cons,List.forall_mem_cons,
            overruns_iff (Int.not_le.mp room)]
          generalize dispatched : toolDispatches db surroundings tools context
            ⟨step,iterations,{progress with taken := progress.taken + 1}⟩ = count
          dsimp only
          split
          · rename_i result after called
            have counted := @executeTool_counts _ _ _ _ _ _
              ⟨step,iterations,{progress with taken := progress.taken + 1}⟩ _ called
            rw [dispatched] at counted
            split
            · simp
            · by_cases overrun : budget.maxIterations < iterations + count
              · refine iff_of_false ?_ fun each => each.1 overrun
                omega
              · have later := @ih after (iterations + result.attempts)
                  (by rw [counted]; omega)
                rw [← later,counted]
                constructor
                · intro total
                  exact ⟨overrun,by omega⟩
                · intro parts
                  omega
          · simp

-- The calls of a run are those of the steps it has begun, attempt by attempt.
structure Counted (db : Db) (surroundings : Surroundings) (tools : ToolRegistry)
    (context : AgentRequestContext) (begun : List BegunStep) (calls : List ToolCall) : Prop where
  steps : calls.map (·.1) = begun.map (·.step)
  attempts : calls.map (·.2.attempts) = begun.map (toolDispatches db surroundings tools context)

def callsMade : Except (String × List ToolCall) (List ToolCall) → List ToolCall
  | .ok calls => calls
  | .error (_,calls) => calls

theorem executeSteps_counted {steps : List PlanStep} {iterations : Nat} {calls : List ToolCall}
    {outcome : Except (String × List ToolCall) (List ToolCall)}
    (ran : (executeSteps tools budget context.auth context.clock start steps iterations calls).under
      db surroundings progress = (.ok outcome,after)) :
    ∃ made, callsMade outcome = calls ++ made ∧
      Counted db surroundings tools context
        (begunSteps db surroundings tools budget context start steps iterations progress) made := by
  induction steps generalizing progress iterations calls with
  | nil =>
      cases ran
      exact ⟨[],by simp [callsMade],rfl,rfl⟩
  | cons step rest ih =>
      obtain ⟨now,between,read,ran⟩ := under_bind_ok.mp ran
      rw [under_perfCounter] at read
      cases read
      unfold begunSteps
      dsimp only
      split at ran
      · rename_i late
        cases ran
        rw [if_pos late]
        exact ⟨[],by simp [callsMade],rfl,rfl⟩
      · rename_i early
        rw [if_neg early]
        split at ran
        · rename_i spent
          cases ran
          rw [if_pos spent]
          exact ⟨[],by simp [callsMade],rfl,rfl⟩
        · rename_i room
          obtain ⟨result,last,called,ran⟩ := under_bind_ok.mp ran
          have counted := @executeTool_counts _ _ _ _ _ _
            ⟨step,iterations,{progress with taken := progress.taken + 1}⟩ _ called
          rw [if_neg room,called]
          dsimp only
          split at ran
          · rename_i denied
            cases ran
            rw [if_pos denied]
            exact ⟨[(step,result)],rfl,rfl,by simp [counted]⟩
          · rename_i kept
            obtain ⟨made,all,same⟩ := ih ran
            rw [if_neg kept]
            refine ⟨(step,result) :: made,by rw [all]; simp,?_,?_⟩
            · simp [same.steps]
            · simp [same.attempts,counted]

def reportedTrace : Except AgentRunResult Investigation → List ToolTraceEntry
  | .error early => early.toolTrace
  | .ok found => found.calls.map traceEntry

theorem investigate_counted {entities : EntityResolution} {plan : Plan}
    {outcome : Except AgentRunResult Investigation}
    (prepared : prepare question context budget entities = .ok plan)
    (ran : (investigate tools question context model budget start entities).under db surroundings
      progress = (.ok outcome,after)) :
    ∃ calls, Counted db surroundings tools context
        (begunSteps db surroundings tools budget context start plan.steps 0 progress) calls ∧
      reportedTrace outcome = calls.map traceEntry := by
  unfold investigate at ran
  rw [prepared] at ran
  obtain ⟨loop,_,executed,ran⟩ := under_bind_ok.mp ran
  obtain ⟨made,all,counted⟩ := executeSteps_counted executed
  refine ⟨made,counted,?_⟩
  split at ran
  · cases ran
    exact congrArg (List.map traceEntry) all
  · rename_i calls
    have same : calls = made := all
    dsimp only at ran
    have assessed := assess_facts context model budget plan (buildEvidencePack question plan.intent
      entities (calls.map (·.2)) context.datasetSnapshotTime context.auth.accountScope) calls
    split at ran
    · rename_i refused
      cases ran
      rw [refused] at assessed
      rw [← same]
      exact assessed.2.1
    · cases ran
      exact congrArg (List.map traceEntry) same

theorem run_counted {result : AgentRunResult}
    (ran : (runAgent tools question context model budget).under db surroundings progress =
      (.ok result,after)) :
    ∃ calls, result.toolTrace = calls.map traceEntry ∧
      Counted db surroundings tools context
        (runSteps tools question context budget db surroundings progress) calls := by
  obtain ⟨_,_,read,ran⟩ := under_bind_ok.mp ran
  rw [under_perfCounter] at read
  cases read
  obtain ⟨entities,_,resolved,ran⟩ := under_bind_ok.mp ran
  rw [under_querying] at resolved
  obtain ⟨named,same⟩ := Prod.mk.inj resolved
  subst same
  obtain ⟨outcome,between,staged,ran⟩ := under_bind_ok.mp ran
  have reported : result.toolTrace = reportedTrace outcome := by
    cases outcome with
    | error early =>
        obtain ⟨⟨_,same⟩,_⟩ := terminal_ok ran
        rw [same]
        rfl
    | ok found =>
        obtain ⟨ending,answering,⟨_,same⟩,_⟩ := answer_cases ran
        rw [same]
        generalize after.sent = requests at answering
        cases answering <;> rfl
  unfold runSteps
  rw [named]
  dsimp only
  split
  · rename_i early refused
    have facts := prepare_facts question context budget entities
    rw [refused] at facts
    unfold investigate at staged
    rw [refused] at staged
    cases staged
    exact ⟨[],reported.trans facts.2.1,rfl,rfl⟩
  · rename_i plan prepared
    obtain ⟨calls,counted,kept⟩ := investigate_counted prepared staged
    exact ⟨calls,reported.trans kept,counted⟩

theorem iteration_budget_iff (tools : ToolRegistry) (question : String)
    (context : AgentRequestContext) (budget : AgentBudget) (db : Db) (surroundings : Surroundings)
    (progress : Progress) :
    runDispatches tools question context budget db surroundings progress ≤ budget.maxIterations ↔
      0 ≤ budget.maxIterations ∧
        ∀ begun ∈ runSteps tools question context budget db surroundings progress,
          ¬ begun.Overruns db surroundings tools budget context := by
  by_cases negative : budget.maxIterations < 0
  · apply iff_of_false
    · omega
    · intro holds
      omega
  · have within : ((0 : Nat) : Int) ≤ budget.maxIterations := by omega
    have idle : ((0 : Nat) : Int) ≤ budget.maxIterations ↔
        0 ≤ budget.maxIterations ∧ ∀ begun ∈ ([] : List BegunStep),
          ¬ begun.Overruns db surroundings tools budget context := by simp
    unfold runDispatches runSteps
    split
    · exact idle
    · split
      · exact idle
      · rename_i plan _
        rw [← steps_within_iff within]
        simpa using fun _ => within

-- Every tool may be tried again, and every attempt takes too long.
def retryingRegistry : ToolRegistry := fun name => {toolRegistry name with retryable := true}

def lateSurroundings : Surroundings := ⟨fun reading => 11 * reading,fun _ => .ok strayReply⟩

omit [Host] in
theorem retries_overrun : let _ := asciiHost [] []
    runDispatches retryingRegistry "cancel AB-1 AB-2" adminRequest {maxIterations := 1} deliveredDb
        lateSurroundings {} = 3 ∧
      ¬ (runDispatches retryingRegistry "cancel AB-1 AB-2" adminRequest {maxIterations := 1}
        deliveredDb lateSurroundings {} : Int) ≤ ({maxIterations := 1} : AgentBudget).maxIterations := by
  intro _
  have three : runDispatches retryingRegistry "cancel AB-1 AB-2" adminRequest {maxIterations := 1}
      deliveredDb lateSurroundings {} = 3 := by
    have dispatched : ((begunSteps deliveredDb lateSurroundings retryingRegistry {maxIterations := 1}
        adminRequest (lateSurroundings.readings 0) cancelPlan.steps 0 {taken := 1}).map
          (toolDispatches deliveredDb lateSurroundings retryingRegistry adminRequest)).sum = 3 := by
      decide +kernel
    unfold runDispatches runSteps
    rw [cancel_resolved]
    dsimp only
    rw [cancel_prepared rfl]
    exact dispatched
  exact ⟨three,by rw [three]; decide⟩

end Dispatches

end ParcelPilot
