import ParcelPilot.Database

namespace ParcelPilot

-- app/llm/types.py, as far as the agent builds and reads it
structure LLMMessage where
  role : String
  content : String
deriving DecidableEq,Repr

structure LLMRequest where
  messages : List LLMMessage
  model : String
  maxOutputTokens : Int := 1024
  temperature : Rat := 0
  timeoutSeconds : Rat := 30
  maxRetries : Int := 2
  promptVersion : Option String := none
deriving DecidableEq,Repr

structure CostEstimate where
  inputCostUsd : Rat
  outputCostUsd : Rat
deriving DecidableEq,Repr

def CostEstimate.totalCostUsd (cost : CostEstimate) : Rat := cost.inputCostUsd + cost.outputCostUsd

structure LLMResponse where
  content : String
  cost : CostEstimate
deriving DecidableEq,Repr

-- What a provider raised: `type(exc).__name__` and `str(exc)`.
structure ProviderError where
  name : String
  message : String
deriving DecidableEq,Repr

-- Everything a request to the agent does to the world outside it.
inductive AgentOp where
  | select (query : Select)
  | perfCounter
  | sleep (seconds : Rat)
  | complete (request : LLMRequest)

def AgentOp.Answer : AgentOp → Type
  | .select query => query.Answer
  | .perfCounter => Rat
  | .sleep _ => Unit
  | .complete _ => Except ProviderError LLMResponse

abbrev Agent := Fallible PyError AgentOp AgentOp.Answer

def querying (query : Query α) : Agent α := Fallible.embed .select (fun _ answer => answer) query

def perfCounter : Agent Rat := Fallible.ask AgentOp.perfCounter
def sleepFor (seconds : Rat) : Agent Unit := Fallible.ask (AgentOp.sleep seconds)

-- `provider.complete(request, context)`
def complete (request : LLMRequest) : Agent (Except ProviderError LLMResponse) :=
  Fallible.ask (AgentOp.complete request)

-- What a run meets: the readings of the performance counter in the order they
-- are taken, and a provider that may answer by everything it was sent so far.
structure Surroundings where
  readings : Nat → Rat
  provider : List LLMRequest → Except ProviderError LLMResponse

structure Progress where
  taken : Nat := 0
  sent : List LLMRequest := []
deriving DecidableEq,Repr

-- One operation against a database that nobody changes meanwhile.
def agentStep [Host] (db : Db) (surroundings : Surroundings) :
    (op : AgentOp) → Progress → op.Answer × Progress
  | .select query,progress => (db.answer query,progress)
  | .perfCounter,progress =>
      (surroundings.readings progress.taken,{progress with taken := progress.taken + 1})
  | .sleep _,progress => ((),progress)
  | .complete request,progress =>
      (surroundings.provider (progress.sent ++ [request]),
        {progress with sent := progress.sent ++ [request]})

-- What a script makes of a database and its surroundings.
def Agent.under [Host] (script : Agent α) (db : Db) (surroundings : Surroundings)
    (progress : Progress) : Except PyError α × Progress :=
  Fallible.perform (agentStep db surroundings) script progress

section Runs

open Fallible

variable [Host] {db one two : Db} {surroundings : Surroundings} {progress : Progress}

@[simp] theorem under_pure (value : α) :
    Agent.under (pure value) db surroundings progress = (.ok value,progress) := rfl

@[simp] theorem under_perfCounter :
    perfCounter.under db surroundings progress = (.ok (surroundings.readings progress.taken),
      {progress with taken := progress.taken + 1}) := rfl

@[simp] theorem under_complete (request : LLMRequest) :
    (complete request).under db surroundings progress =
      (.ok (surroundings.provider (progress.sent ++ [request])),
        {progress with sent := progress.sent ++ [request]}) := rfl

@[simp] theorem under_querying (query : Query α) :
    (querying query).under db surroundings progress = (query.on db,progress) :=
  perform_embed (fun _ _ => rfl) query

theorem under_bind_ok {script : Agent α} {rest : α → Agent β} {value : β} {after : Progress} :
    (script >>= rest).under db surroundings progress = (.ok value,after) ↔
      ∃ middle between, script.under db surroundings progress = (.ok middle,between) ∧
        (rest middle).under db surroundings between = (.ok value,after) := perform_bind_ok

-- Two databases that make no difference to a script.
def Unmoved (one two : Db) (script : Agent α) : Prop :=
  ∀ surroundings, Coincide (agentStep one surroundings) (agentStep two surroundings) script

theorem unmoved_pure (value : α) : Unmoved one two (pure value) := fun _ => coincide_pure value

theorem unmoved_perfCounter : Unmoved one two perfCounter := fun _ _ => rfl

theorem unmoved_sleepFor (seconds : Rat) : Unmoved one two (sleepFor seconds) := fun _ _ => rfl

theorem unmoved_complete (request : LLMRequest) : Unmoved one two (complete request) :=
  fun _ _ => rfl

theorem unmoved_querying {query : Query α} (same : Alike one.answer two.answer query) :
    Unmoved one two (querying query) :=
  fun _ => coincide_embed (fun _ _ => rfl) (fun _ _ => rfl) (fun _ => same)

theorem unmoved_bind {script : Agent α} {rest : α → Agent β} (left : Unmoved one two script)
    (right : ∀ value, Unmoved one two (rest value)) : Unmoved one two (script >>= rest) :=
  fun surroundings => coincide_bind (left surroundings) fun value _ => right value surroundings

theorem unmoved_attempt {script : Agent α} (same : Unmoved one two script) :
    Unmoved one two (attempt script) := fun surroundings => coincide_attempt (same surroundings)

end Runs

end ParcelPilot
