import ParcelPilot.ModelBudgets

namespace ParcelPilot

-- A run up to the end of its tool loop, or an earlier end.
structure Gathered where
  start : Rat
  entities : EntityResolution
  outcome : Except AgentRunResult (Plan × Except (String × List ToolCall) (List ToolCall))

def Gathered.calls (gathered : Gathered) : List ToolCall :=
  match gathered.outcome with
  | .error _ => []
  | .ok (_,.error (_,calls)) => calls
  | .ok (_,.ok calls) => calls

section Gathering

variable [Host]

def gathering (tools : ToolRegistry) (question : String) (context : AgentRequestContext)
    (budget : AgentBudget) : Agent Gathered := do
  let start ← perfCounter
  let entities ← querying (resolveEntities question context.auth context.clock)
  match prepare question context budget entities with
  | .error early => pure ⟨start,entities,.error early⟩
  | .ok plan => do
      let loop ← executeSteps tools budget context.auth context.clock start plan.steps 0 []
      pure ⟨start,entities,.ok (plan,loop)⟩

def gatheredPack (question : String) (context : AgentRequestContext) (entities : EntityResolution)
    (plan : Plan) (calls : List ToolCall) : EvidencePack :=
  buildEvidencePack question plan.intent entities (calls.map (·.2)) context.datasetSnapshotTime
    context.auth.accountScope

-- The rest of the run, by the estimate its cost is gated on.
def conclude (estimate : Int → Int → Option Rat) (question : String)
    (context : AgentRequestContext) (model : String) (budget : AgentBudget) (gathered : Gathered) :
    Agent AgentRunResult :=
  match gathered.outcome with
  | .error early => terminal gathered.start early
  | .ok (plan,.error (reason,calls)) => terminal gathered.start
      {(ended context .failed reason (executedTrace ++ [.failed])).withCalls calls with
        intent := some plan.intent}
  | .ok (plan,.ok calls) =>
      let pack := gatheredPack question context gathered.entities plan calls
      match assessPriced estimate context budget plan pack calls with
      | .error early => terminal gathered.start early
      | .ok trustState => answer context model budget gathered.start ⟨plan,calls,pack,trustState⟩

variable {db : Db} {tools : ToolRegistry} {question model : String}
  {context : AgentRequestContext} {budget : AgentBudget} {surroundings : Surroundings}
  {progress : Progress} {estimate : Int → Int → Option Rat}

theorem runAgent_gathered : runAgent tools question context model budget =
    gathering tools question context budget >>=
      conclude (estimateWorstCaseCostUsd model) question context model budget := by
  unfold runAgent gathering
  simp only [bind_assoc]
  refine congrArg (perfCounter >>= ·) (funext fun start => congrArg (_ >>= ·)
    (funext fun entities => ?_))
  unfold investigate
  cases prepare question context budget entities with
  | error early => rfl
  | ok plan =>
      simp only [bind_assoc]
      refine congrArg (_ >>= ·) (funext fun loop => ?_)
      rcases loop with ⟨reason,calls⟩ | calls
      · rfl
      · rw [pure_bind]
        unfold conclude gatheredPack assess
        dsimp only
        rcases assessPriced _ context budget plan _ calls with early | trustState <;> rfl

theorem conclude_total (gathered : Gathered) : ∃ result after,
    (conclude estimate question context model budget gathered).under db surroundings progress =
      (.ok result,after) := by
  unfold conclude
  split
  · exact terminal_total _ _
  · exact terminal_total _ _
  · dsimp only
    split
    · exact terminal_total _ _
    · exact answer_total _ _

theorem gathering_silent {gathered : Gathered} {after : Progress}
    (reached : (gathering tools question context budget).under db surroundings progress =
      (.ok gathered,after)) : after.sent = progress.sent := by
  have offline : Fallible.Uses AgentOp.Offline (gathering tools question context budget) := by
    refine Fallible.uses_bind offline_perfCounter fun start => ?_
    refine Fallible.uses_bind (offline_querying _) fun entities => ?_
    split
    · exact Fallible.uses_pure _
    · exact Fallible.uses_bind (offline_executeSteps _ _ _ _ _ _ _ _) fun loop =>
        Fallible.uses_pure _
  have silent : ((gathering tools question context budget).under db surroundings progress).2.sent =
      progress.sent := offline_silent offline progress
  rw [reached] at silent
  exact silent

end Gathering

end ParcelPilot
