import ParcelPilot.Handlers
import ParcelPilot.Orchestrator
import ParcelPilot.RadarRoutes

namespace ParcelPilot

-- An agent script whose counter and provider are these; what it reads stays open.
def Agent.handle (surroundings : Surroundings) :
    (op : AgentOp) → Progress → Script Select Select.Answer (op.Answer × Progress)
  | .select query,progress => .exec query fun answer => .ret (answer,progress)
  | .perfCounter,progress =>
      .ret (surroundings.readings progress.taken,{progress with taken := progress.taken + 1})
  | .sleep _,progress => .ret ((),progress)
  | .complete request,progress =>
      .ret (surroundings.provider (progress.sent ++ [request]),
        {progress with sent := progress.sent ++ [request]})

def Agent.asking (surroundings : Surroundings) (script : Agent α) : Query α :=
  ExceptT.mk (Script.interpret (Agent.handle surroundings) (ExceptT.run script) {} >>=
    fun result => .ret result.1)

-- app/api/schemas.py
structure ChatRequest where
  question : String
  questionLength : 1 ≤ question.length ∧ question.length ≤ 2000

structure ChatResponse where
  result : AgentRunResult
  viewedAs : DemoUser
  datasetSnapshot : DateTime

inductive Body where
  | chat (response : ChatResponse)
  | radar (response : RadarResponse)
  | alert (alert : AlertCandidate)
  | action (response : ActionResponse)
  | detail (text : String)

structure HttpResponse where
  statusCode : Nat
  body : Body

-- app/api/error_handlers.py, and the framework's own handler of HTTPException
def PyError.response : PyError → HttpResponse
  | .httpException statusCode detail => ⟨statusCode,.detail detail⟩
  | .notAuthorized reason => ⟨403,.detail (PyError.notAuthorized reason).message⟩
  | .unknownEntity entityType entityId =>
      ⟨404,.detail (PyError.unknownEntity entityType entityId).message⟩
  | .invalidFilter reason => ⟨400,.detail (PyError.invalidFilter reason).message⟩
  | _ => ⟨500,.detail "an internal error occurred; it has been logged"⟩

def respond : Except PyError Body → HttpResponse
  | .ok body => ⟨200,body⟩
  | .error error => error.response

-- What the `meta` table holds under "snapshot_time" when the database is built. A
-- text that is no aware time is there with what the ValueError says of it.
inductive SnapshotRow where
  | noTable
  | noRow
  | unreadable (message : String)
  | aware (snapshot : DateTime)

-- What a deployment fixes: its files, its environment, and whether the optional
-- `llm` extra is installed.
structure Deployment where
  demoUsers : List (String × DemoUser)
  databasePresent : Bool
  snapshotTime : SnapshotRow
  registry : Registry
  anthropicApiKey : Option String
  parcelpilotModel : Option String
  llmExtra : Bool

inductive Endpoint where
  | chat (body : ChatRequest)
  | runRadar (body : RadarRequest)
  | getAlert (alertId : String)
  | prepare (body : PrepareEscalationRequest)
  | confirm (body : ConfirmActionRequest)
  | execute (body : ExecuteActionRequest)
  | getAction (actionId : String)

-- A request with what it meets on its way besides the database: the ids drawn for
-- it, the readings of the performance counter, the provider.
structure Request where
  endpoint : Endpoint
  xDemoUser : Option String
  requestId : String
  traceId : String
  uuidHex : String
  surroundings : Surroundings

section Routes

variable [Host]

-- app/api/deps.py
def Deployment.getCurrentUser (service : Deployment) (xDemoUser : Option String) : Except PyError DemoUser :=
  let slug := xDemoUser.getD "ops_admin"
  match service.demoUsers.lookup slug with
  | none => .error (.httpException 400 ("unknown demo identity: " ++ Host.reprStr slug))
  | some user => .ok user

def Deployment.getConn (service : Deployment) : Except PyError Unit :=
  if service.databasePresent then .ok ()
  else .error (.httpException 503 "database not available - run scripts/ingest_sources.py first")

def Deployment.getClock (service : Deployment) : Except PyError SnapshotClock :=
  match service.snapshotTime with
  | .noTable => .error (.operationalError "no such table: meta")
  | .noRow => .error (.httpException 503 "dataset snapshot time not found")
  | .unreadable message => .error (.valueError message)
  | .aware snapshot => .ok ⟨snapshot⟩

-- `bool(os.environ.get("ANTHROPIC_API_KEY"))`
def Deployment.live (service : Deployment) : Bool :=
  service.anthropicApiKey.getD "" != ""

-- The model of the provider that app/llm/factory.py builds; what it answers is among
-- the surroundings of a request.
def Deployment.getProvider (service : Deployment) : Except PyError String :=
  if service.live then
    if service.llmExtra then .ok (service.parcelpilotModel.getD "claude-sonnet-4-5")
    else .error (.importError
      "AnthropicProvider requires the 'llm' extra: pip install -e '.[llm]'")
  else .ok "mock-model"

-- app/api/routes/chat.py
def chat (body : ChatRequest) (request : Request) (user : DemoUser) (clock : SnapshotClock)
    (model : String) : Query ChatResponse := do
  let context : AgentRequestContext :=
    ⟨request.requestId,request.traceId,user.id,user.toAuthContext,clock.now⟩
  let result ← Agent.asking request.surroundings
    (runAgent toolRegistry body.question context model {})
  pure ⟨result,user,clock.now⟩

def Request.latencyMs (request : Request) : Rat :=
  (request.surroundings.readings 1 - request.surroundings.readings 0) * 1000

-- The dependencies in the order they are resolved, then the route.
def serve (service : Deployment) (request : Request) : Action Body := do
  let user ← raising (service.getCurrentUser request.xDemoUser)
  raising service.getConn
  match request.endpoint with
  | .getAction actionId => Body.action <$> getActionRoute actionId user
  | .prepare body => do
      let clock ← raising service.getClock
      Body.action <$> prepareRoute body user clock request.requestId service.registry request.uuidHex
  | .confirm body => do
      let clock ← raising service.getClock
      Body.action <$> confirmRoute body user clock
  | .execute body => do
      let clock ← raising service.getClock
      Body.action <$> executeRoute body user clock
  | .chat body => do
      let clock ← raising service.getClock
      let model ← raising service.getProvider
      Body.chat <$> reading (chat body request user clock model)
  | .runRadar body => do
      let clock ← raising service.getClock
      Body.radar <$> reading (runRadar body user clock service.registry request.latencyMs)
  | .getAlert alertId => do
      let clock ← raising service.getClock
      Body.alert <$> reading (getAlert alertId user clock service.registry)

def Request.script (service : Deployment) (request : Request) : Script Stmt Stmt.Answer HttpResponse := do
  let result ← (serve service request).run
  pure (respond result)

-- A request by itself.
def Request.alone (service : Deployment) (request : Request) (db : Db) : HttpResponse × Db :=
  (request.script service).run Db.exec db

end Routes

end ParcelPilot
