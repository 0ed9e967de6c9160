import ParcelPilot.ActionSerial
import ParcelPilot.Service

namespace ParcelPilot

open Fallible Interleaving

-- Everything an agent does but a look at the actions table.
def AgentOp.Elsewhere : AgentOp → Prop
  | .select query => query.Elsewhere
  | _ => True

abbrev RunsElsewhere (script : Agent α) : Prop := Uses AgentOp.Elsewhere script

section Agents

variable {auth : AuthContext} {clock : SnapshotClock}

theorem runsElsewhere_perfCounter : RunsElsewhere perfCounter := uses_ask trivial

theorem runsElsewhere_querying {query : Query α} (elsewhere : ReadsElsewhere query) :
    RunsElsewhere (querying query) := by
  have inside : ∀ query : Select, query.Elsewhere → AgentOp.Elsewhere (.select query) :=
    fun _ asked => asked
  exact Script.uses_embed_of inside elsewhere

theorem runsElsewhere_measured {query : Query α} (elsewhere : ReadsElsewhere query) :
    RunsElsewhere (measured (querying query)) := by
  refine uses_bind runsElsewhere_perfCounter fun start => ?_
  refine uses_bind (runsElsewhere_querying elsewhere) fun value => ?_
  exact uses_bind runsElsewhere_perfCounter fun finish => uses_pure _

variable [Host]

theorem runsElsewhere_dispatch (request : ToolRequest) :
    RunsElsewhere (dispatch auth clock request) := by
  cases request with
  | searchDocuments request =>
      refine uses_bind ?_ fun _ => uses_pure _
      exact uses_bind (runsElsewhere_measured (elsewhere_searchDocuments _ _ _)) fun _ => uses_pure _
  | lookupStructuredData request =>
      refine uses_bind ?_ fun _ => uses_pure _
      exact uses_bind (runsElsewhere_measured (elsewhere_lookUp _)) fun _ => uses_pure _
  | calculateSupportOutcome request =>
      refine uses_bind ?_ fun _ => uses_pure _
      exact uses_bind (runsElsewhere_measured (elsewhere_calculate _)) fun _ => uses_pure _
  | detectIssues request =>
      refine uses_bind ?_ fun _ => uses_pure _
      exact uses_bind (runsElsewhere_measured (elsewhere_runOperationsRadar _ _)) fun _ => uses_pure _

theorem runsElsewhere_attemptLoop {work : Agent ToolOutput} (inside : RunsElsewhere work)
    (name : ToolName) (spec : ToolSpec) (left attempt : Nat) :
    RunsElsewhere (attemptLoop name spec work left attempt) := by
  have once (attempt : Nat) : RunsElsewhere (attemptOnce name spec work attempt) := by
    refine uses_bind runsElsewhere_perfCounter fun start => ?_
    refine uses_bind (uses_attempt inside) fun outcome => ?_
    exact uses_bind runsElsewhere_perfCounter fun finish => uses_pure _
  induction left generalizing attempt with
  | zero => exact once attempt
  | succ left ih =>
      refine uses_bind (once attempt) fun result => ?_
      split
      · exact uses_bind (uses_ask trivial) fun _ => ih (attempt + 1)
      · exact uses_pure _

theorem runsElsewhere_executeTool (tools : ToolRegistry) (request : ToolRequest) :
    RunsElsewhere (executeTool tools request auth clock) := by
  unfold executeTool
  dsimp only
  split
  · exact uses_throw _
  · exact runsElsewhere_attemptLoop (runsElsewhere_dispatch request) _ _ _ _

theorem runsElsewhere_executeSteps (tools : ToolRegistry) (budget : AgentBudget) (start : Rat)
    (steps : List PlanStep) (iterations : Nat) (calls : List ToolCall) :
    RunsElsewhere (executeSteps tools budget auth clock start steps iterations calls) := by
  induction steps generalizing iterations calls with
  | nil => exact uses_pure _
  | cons step rest ih =>
      refine uses_bind runsElsewhere_perfCounter fun now => ?_
      split
      · exact uses_pure _
      · split
        · exact uses_pure _
        · refine uses_bind (runsElsewhere_executeTool tools step.args) fun result => ?_
          split
          · exact uses_pure _
          · exact ih _ _

omit [Host] in
theorem runsElsewhere_terminal (start : Rat) (result : AgentRunResult) :
    RunsElsewhere (terminal start result) :=
  uses_bind runsElsewhere_perfCounter fun _ => uses_pure _

theorem runsElsewhere_answer (context : AgentRequestContext) (model : String) (budget : AgentBudget)
    (start : Rat) (found : Investigation) :
    RunsElsewhere (answer context model budget start found) := by
  refine uses_bind (uses_ask trivial) fun reply => ?_
  split
  · exact runsElsewhere_terminal _ _
  · dsimp only
    split
    · exact runsElsewhere_terminal _ _
    · split
      · exact runsElsewhere_terminal _ _
      · refine uses_bind (uses_ask trivial) fun again => ?_
        split
        · exact runsElsewhere_terminal _ _
        · split <;> exact runsElsewhere_terminal _ _

theorem runsElsewhere_runAgent (tools : ToolRegistry) (question : String)
    (context : AgentRequestContext) (model : String) (budget : AgentBudget) :
    RunsElsewhere (runAgent tools question context model budget) := by
  refine uses_bind runsElsewhere_perfCounter fun start => ?_
  refine uses_bind (runsElsewhere_querying (elsewhere_resolveEntities _)) fun entities => ?_
  refine uses_bind ?_ fun outcome => ?_
  · unfold investigate
    split
    · exact uses_pure _
    · refine uses_bind (runsElsewhere_executeSteps _ _ _ _ _ _) fun loop => ?_
      split
      · exact uses_pure _
      · dsimp only
        split <;> exact uses_pure _
  · split
    · exact runsElsewhere_terminal _ _
    · exact runsElsewhere_answer _ _ _ _ _

omit [Host] in
theorem elsewhere_asking (surroundings : Surroundings) {script : Agent α}
    (elsewhere : RunsElsewhere script) : ReadsElsewhere (script.asking surroundings) := by
  refine Script.uses_bind (Script.uses_interpret ?_ elsewhere _) fun _ => trivial
  intro op progress inside
  cases op with
  | select query => exact ⟨inside,fun _ => trivial⟩
  | perfCounter => trivial
  | sleep seconds => trivial
  | complete request => trivial

theorem asking_on (surroundings : Surroundings) (script : Agent α) (db : Db) :
    (script.asking surroundings).on db = (script.under db surroundings {}).1 := by
  have handled : ∀ op progress, (Agent.handle surroundings op progress).answered db.answer =
      agentStep db surroundings op progress := by
    intro op progress
    cases op <;> rfl
  have run := Script.answered_interpret handled script.run {}
  exact (Script.answered_bind _ _ _).trans (congrArg (·.1) run)

theorem elsewhere_chat {body : ChatRequest} {user : DemoUser} {model : String} {query : Query ChatResponse}
    (asked : chat body request user clock model = query) : ReadsElsewhere query := by
  have runs := runsElsewhere_runAgent toolRegistry body.question
    ⟨request.requestId,request.traceId,user.id,user.toAuthContext,clock.now⟩ model {}
  subst asked
  unfold chat
  dsimp only
  -- The run stays closed: what it asks for is all that matters here.
  generalize runAgent toolRegistry body.question
    ⟨request.requestId,request.traceId,user.id,user.toAuthContext,clock.now⟩ model {} = run at runs ⊢
  exact uses_bind (elsewhere_asking _ runs) fun _ => uses_pure _

end Agents

section Requests

variable [Host] {service : Deployment} {request : Request}

-- The call behind a request to one of the action endpoints, once its dependencies
-- are met, and the user it is answered to.
def Request.actionCall (service : Deployment) (request : Request) : Option (ActionCall × DemoUser) :=
  match service.getCurrentUser request.xDemoUser,service.getConn,request.endpoint,service.getClock with
  | .ok user,.ok _,.getAction actionId,_ => some (.getActionRoute actionId user,user)
  | .ok user,.ok _,.prepare body,.ok clock =>
      some (.prepareRoute body user clock request.requestId service.registry request.uuidHex,user)
  | .ok user,.ok _,.confirm body,.ok clock => some (.confirmRoute body user clock,user)
  | .ok user,.ok _,.execute body,.ok clock => some (.executeRoute body user clock,user)
  | _,_,_,_ => none

def answered (user : DemoUser) (result : Except PyError ActionOutcome) : HttpResponse :=
  respond (result.map fun outcome => .action ⟨outcome,user⟩)

omit [Host] in
theorem route_answers (action : Action ActionOutcome) (user : DemoUser) :
    ((Body.action <$> (do
      let outcome ← action
      pure ⟨outcome,user⟩ : Action ActionResponse)).run >>= fun result => pure (respond result)) =
      (action.run >>= fun result => .ret (answered user result)) := by
  rw [ExceptT.run_map,ExceptT.run_bind,map_eq_pure_bind,bind_assoc,bind_assoc]
  congr 1
  funext result
  cases result <;> rfl

theorem script_of_call {call : ActionCall} {user : DemoUser}
    (calls : request.actionCall service = some (call,user)) :
    request.script service = (call.script >>= fun result => .ret (answered user result)) := by
  unfold Request.actionCall at calls
  split at calls
  · rename_i _ _ _ _ known conn asked
    cases calls
    unfold Request.script serve
    rw [known,conn,asked,script_getActionRoute]
    exact route_answers _ _
  · rename_i _ _ _ _ _ known conn asked ticking
    cases calls
    unfold Request.script serve
    rw [known,conn,asked,script_prepareRoute,ticking]
    exact route_answers _ _
  · rename_i _ _ _ _ _ known conn asked ticking
    cases calls
    unfold Request.script serve
    rw [known,conn,asked,script_confirmRoute,ticking]
    exact route_answers _ _
  · rename_i user _ body clock known conn asked ticking
    cases calls
    unfold Request.script serve
    rw [known,conn,asked,script_executeRoute,ticking]
    have answers := route_answers (do
      requireOwnerOrAdmin body.actionId user
      executeAction body.actionId clock) user
    rw [bind_assoc] at answers
    exact answers
  · cases calls

-- A script that asks nothing of the actions table, and makes an answer of what it
-- was told.
def OnlyReads (script : Script Stmt Stmt.Answer HttpResponse) : Prop :=
  ∃ (α : Type) (query : Query α) (wrap : Except PyError α → HttpResponse), ReadsElsewhere query ∧
    script = (Script.embed Stmt.query (fun _ answer => answer) query.run >>=
      fun result => .ret (wrap result))

omit [Host] in
theorem onlyReads_ret (response : HttpResponse) : OnlyReads (.ret response) :=
  ⟨Unit,pure (),fun _ => response,uses_pure _,rfl⟩

omit [Host] in
theorem onlyReads_reading {query : Query α} (elsewhere : ReadsElsewhere query) (wrap : α → Body) :
    OnlyReads ((wrap <$> reading query).run >>= fun result => pure (respond result)) := by
  refine ⟨α,query,fun result => respond (result.map wrap),elsewhere,?_⟩
  rw [ExceptT.run_map,map_eq_pure_bind,bind_assoc]
  rfl

omit [Host] in
theorem raising_then (value : α) (rest : α → Action β) : (raising (.ok value) >>= rest) = rest value :=
  rfl

omit [Host] in
theorem raising_stops (error : PyError) (rest : α → Action β) :
    (raising (.error error) >>= rest) = raising (.error error) := rfl

theorem script_reads (other : request.actionCall service = none) :
    OnlyReads (request.script service) := by
  unfold Request.actionCall at other
  unfold Request.script serve
  cases known : service.getCurrentUser request.xDemoUser with
  | error error => exact onlyReads_ret _
  | ok user =>
      cases conn : service.getConn with
      | error error => exact onlyReads_ret _
      | ok _ =>
          cases ticking : service.getClock with
          | error error =>
              cases asked : request.endpoint with
              | getAction actionId => simp [known,conn,asked] at other
              | _ => exact onlyReads_ret _
          | ok clock =>
              simp only [raising_then]
              cases asked : request.endpoint with
              | chat body =>
                  dsimp only
                  cases providing : service.getProvider with
                  | error error =>
                      rw [raising_stops]
                      exact onlyReads_ret _
                  | ok model =>
                      rw [raising_then]
                      generalize answered : chat body request user clock model = query
                      exact onlyReads_reading (elsewhere_chat answered) .chat
              | runRadar body => exact onlyReads_reading (elsewhere_runRadar body user _) .radar
              | getAlert alertId => exact onlyReads_reading (elsewhere_getAlert alertId user) .alert
              | _ => simp [known,conn,asked,ticking] at other

omit [Host] in
theorem onlyReads_determined [Host] {script : Script Stmt Stmt.Answer HttpResponse}
    (reads : OnlyReads script) (db : Db) :
    (∀ later, OnlyActionsChange db later → (script.run Db.exec later).1 = (script.run Db.exec db).1) ∧
      Determined Later Db.exec Eq (script.run Db.exec db).1 script db := by
  obtain ⟨α,query,wrap,elsewhere,rfl⟩ := reads
  have ran (db : Db) : (Script.embed Stmt.query (fun _ answer => answer) query.run >>=
      fun result => .ret (wrap result)).run Db.exec db = (wrap (query.on db),db) := by
    have read : (Script.embed Stmt.query (fun _ answer => answer) query.run).run Db.exec db =
        (query.on db,db) := alone_reading query
    rw [Script.run_bind,read]
    rfl
  refine ⟨fun later same => ?_,?_⟩
  · rw [ran later,ran db,on_elsewhere same elsewhere]
  · rw [ran db]
    exact @determined_reads Stmt Stmt.Answer Db _ _ Later Db.exec Eq _ db db _ _ Stmt.query
      (fun _ answer => answer) db.answer Select.Elsewhere later_trans reads_alike query.run elsewhere
      (fun result => .ret (wrap result)) rfl (later_refl db)

end Requests

section System

variable [Host]

-- The whole service: any number of requests under way, statement by statement.
def serviceSystem (service : Deployment) : System Stmt Stmt.Answer Db Request HttpResponse where
  step := Db.exec
  script := Request.script service
  admits _ := True
  outside _ _ := False

-- Responses that differ at most in how a late call is told where the action stands.
inductive SameResponse (told : HttpResponse) : HttpResponse → Prop where
  | same : SameResponse told told
  | late {record : Option ActionRecord} {one two : String} {user : DemoUser}
      (stands : told = ⟨200,.action ⟨refused record "wrong_state" two,user⟩⟩) :
      SameResponse told ⟨200,.action ⟨refused record "wrong_state" one,user⟩⟩

def Responds (response told : HttpResponse) : Prop := SameResponse told response

omit [Host] in
theorem answered_agrees (user : DemoUser) (answer told : Except PyError ActionOutcome)
    (agrees : Agrees answer told) : Responds (answered user answer) (answered user told) := by
  cases agrees with
  | same => exact .same
  | late stands =>
      subst stands
      exact .late rfl

-- Requests that count are those that reach the action workflow.
def Request.acts (service : Deployment) (request : Request) : Prop :=
  (request.actionCall service).isSome = true

theorem not_acts {service : Deployment} {request : Request} (reads : ¬ request.acts service) :
    request.actionCall service = none := by simpa [Request.acts] using reads

theorem service_atomic (service : Deployment) :
    Atomic (serviceSystem service) (Request.acts service) Later Responds where
  refl := later_refl
  trans := later_trans
  closed := False.elim
  moves := by
    intro request _ acts db
    obtain ⟨⟨call,user⟩,calls⟩ := Option.isSome_iff_exists.mp acts
    change Later db ((request.script service).run Db.exec db).2
    rw [script_of_call calls,Script.run_bind]
    exact call_later call db
  awaits := by
    intro request _ acts db
    obtain ⟨⟨call,user⟩,calls⟩ := Option.isSome_iff_exists.mp acts
    have waits := awaits_map (answered_agrees user) (call_waits call db)
    have alone : (fun s => (answered user (call.script.run Db.exec s).1,(call.script.run Db.exec s).2)) =
        (request.script service).run Db.exec := by
      funext s
      rw [script_of_call calls,Script.run_bind]
      rfl
    rw [alone,← script_of_call calls] at waits
    exact waits
  reads := by
    intro request _ reads db
    exact (onlyReads_determined (script_reads (not_acts reads)) db).2

variable {service : Deployment} {start : Db}
  {config later : Config Stmt Stmt.Answer Db Request HttpResponse}

-- Any interleaving of requests, statement by statement, from any database, is the
-- action calls one at a time, in the order of statements of their own, with every
-- other request answered from a database on the way.
theorem service_linearizable (path : Reached (serviceSystem service) start config)
    (steps : Relation.ReflTransGen (Step (serviceSystem service)) config later) :
    ∃ points more,
      Linearized (serviceSystem service) (Request.acts service) Later Responds start config points ∧
      Linearized (serviceSystem service) (Request.acts service) Later Responds start later
        (more ++ points) :=
  linearizable (service_atomic service) path steps

theorem reading_alone {query : Query α} {wrap : α → Body} {request : Request}
    (served : serve service request = wrap <$> reading query) (db : Db) :
    request.alone service db = (respond ((query.on db).map wrap),db) := by
  have ran : (serve service request).on db = ((query.on db).map wrap,db) := by
    rw [served,map_eq_pure_bind,alone_bind,alone_reading]
    cases query.on db <;> rfl
  have responded : request.alone service db =
      (respond ((serve service request).on db).1,((serve service request).on db).2) :=
    Script.run_bind _ _ _ _
  rw [responded,ran]

theorem chat_served {request : Request} {body : ChatRequest} {user : DemoUser} {clock : SnapshotClock}
    {model : String} (asked : request.endpoint = .chat body)
    (known : service.getCurrentUser request.xDemoUser = .ok user) (conn : service.getConn = .ok ())
    (ticking : service.getClock = .ok clock) (providing : service.getProvider = .ok model) :
    serve service request = Body.chat <$> reading (chat body request user clock model) := by
  unfold serve
  simp only [known,conn,asked,ticking,providing,raising_then]

theorem chat_alone {request : Request} {body : ChatRequest} {user : DemoUser} {clock : SnapshotClock}
    {model : String} (asked : request.endpoint = .chat body)
    (known : service.getCurrentUser request.xDemoUser = .ok user) (conn : service.getConn = .ok ())
    (ticking : service.getClock = .ok clock) (providing : service.getProvider = .ok model) (db : Db) :
    (request.alone service db).1 =
      respond (((runAgent toolRegistry body.question
        ⟨request.requestId,request.traceId,user.id,user.toAuthContext,clock.now⟩ model {}).under
          db request.surroundings {}).1.map fun result => .chat ⟨result,user,clock.now⟩) := by
  have served := chat_served asked known conn ticking providing
  rw [reading_alone served]
  unfold chat
  rw [on_bind,asking_on]
  cases ((runAgent toolRegistry body.question
    ⟨request.requestId,request.traceId,user.id,user.toAuthContext,clock.now⟩ model {}).under
      db request.surroundings {}).1 <;> rfl

-- A deployment with one identity, and requests of its user.
def outageService : Deployment where
  demoUsers := [("support_agent",supportUser)]
  databasePresent := true
  snapshotTime := .aware snapshotClock.now
  registry := {}
  anthropicApiKey := none
  parcelpilotModel := none
  llmExtra := false

def outageRequest (endpoint : Endpoint) : Request where
  endpoint := endpoint
  xDemoUser := some "support_agent"
  requestId := "REQ-1"
  traceId := "TRACE-1"
  uuidHex := "0123456789abcdef0123456789abcdef"
  surroundings := ⟨fun _ => 0,fun _ => .error ⟨"LLMUnavailable","no provider"⟩⟩

omit [Host] in
theorem outage_ticketId : 1 ≤ "TKT-104".length ∧ "TKT-104".length ≤ 64 := by decide

omit [Host] in
theorem outage_reason : 1 ≤ "customer blocked".length ∧ "customer blocked".length ≤ 500 := by decide

def outagePrepare : Request :=
  outageRequest (.prepare ⟨"TKT-104","customer blocked",outage_ticketId,outage_reason⟩)

def outageConfirming : Request :=
  outageRequest (.confirm ⟨"ACT-0123456789ab",outageDigest,outage_id,outage_digest⟩)

def outageChat : Request := outageRequest (.chat ⟨"What is the SLA of TKT-104?",by decide⟩)

-- Two confirmations that both find the action waiting, and then both write.
omit [Host] in
theorem race_linearizable : let _ := routeHost
    ∃ config, Reached (serviceSystem outageService) targetedDb config ∧ config.threads.length = 3 ∧
      (∀ thread ∈ config.threads, ∃ answer, thread.rest = .ret answer) ∧
      ∃ points more,
        Linearized (serviceSystem outageService) (Request.acts outageService) Later Responds
          targetedDb config points ∧
        Linearized (serviceSystem outageService) (Request.acts outageService) Later Responds
          targetedDb config (more ++ points) := by
  intro _
  obtain ⟨log,prepared⟩ := @reached_alone Stmt Stmt.Answer Db Request _ (serviceSystem outageService)
    targetedDb ⟨targetedDb,[],[]⟩ outagePrepare .initial trivial
  have issue := fun config => @Step.issue Stmt Stmt.Answer Db Request _
    (serviceSystem outageService) config outageConfirming trivial
  have issued := (prepared.step (issue _)).step (issue _)
  have read := (issued.step (.operation (i := 1) rfl)).step (.operation (i := 2) rfl)
  obtain ⟨_,first⟩ := reached_finish (i := 1) read rfl
  obtain ⟨_,second⟩ := reached_finish (i := 2) first rfl
  refine ⟨_,second,rfl,?_,service_linearizable second .refl⟩
  intro thread member
  simp only [List.set,List.nil_append,List.cons_append,List.mem_cons,List.not_mem_nil,or_false]
    at member
  rcases member with rfl | rfl | rfl <;> exact ⟨_,rfl⟩

theorem isolated_response (path : Reached (serviceSystem service) start config) :
    OnlyActionsChange start config.store ∧
    ∀ (i : Nat) request response, ¬ request.acts service →
      config.threads[i]? = some ⟨request,.ret response⟩ →
      response = (request.alone service start).1 := by
  obtain ⟨points,progressing⟩ := reached_progressing (service_atomic service) path
  refine ⟨progressing.passed.elsewhere,?_⟩
  intro i request response reads finished
  obtain ⟨seen,passed,told⟩ := (progressing_linearized progressing).aside i request response reads finished
  rw [told]
  exact (onlyReads_determined (script_reads (not_acts reads)) start).1 seen passed.elsewhere

theorem reads_isolated (path : Reached (serviceSystem service) start config) :
    OnlyActionsChange start config.store ∧
    (∀ (i : Nat) request response, ¬ request.acts service →
      config.threads[i]? = some ⟨request,.ret response⟩ →
      response = (request.alone service start).1) ∧
    ∀ (i : Nat) request response body user clock model, request.endpoint = .chat body →
      service.getCurrentUser request.xDemoUser = .ok user → service.getConn = .ok () →
      service.getClock = .ok clock → service.getProvider = .ok model →
      config.threads[i]? = some ⟨request,.ret response⟩ →
      response = respond (((runAgent toolRegistry body.question
        ⟨request.requestId,request.traceId,user.id,user.toAuthContext,clock.now⟩ model {}).under
          start request.surroundings {}).1.map fun result => .chat ⟨result,user,clock.now⟩) := by
  obtain ⟨elsewhere,isolated⟩ := isolated_response path
  refine ⟨elsewhere,isolated,?_⟩
  intro i request response body user clock model asked known conn ticking providing finished
  have reads : ¬ request.acts service := by
    simp [Request.acts,Request.actionCall,asked]
  rw [isolated i request response reads finished]
  exact chat_alone asked known conn ticking providing start

-- A chat under way while an action is prepared.
omit [Host] in
theorem chat_isolated : let _ := routeHost
    ∃ config response, Reached (serviceSystem outageService) targetedDb config ∧
      config.threads[1]? = some ⟨outageChat,.ret response⟩ ∧
      OnlyActionsChange targetedDb config.store ∧
      response = (outageChat.alone outageService targetedDb).1 := by
  intro _
  obtain ⟨log,prepared⟩ := @reached_alone Stmt Stmt.Answer Db Request _ (serviceSystem outageService)
    targetedDb ⟨targetedDb,[],[]⟩ outagePrepare .initial trivial
  obtain ⟨log,chatted⟩ := @reached_alone Stmt Stmt.Answer Db Request _ (serviceSystem outageService)
    targetedDb _ outageChat prepared trivial
  have isolated := reads_isolated chatted
  refine ⟨_,_,chatted,rfl,isolated.1,?_⟩
  exact isolated.2.1 1 outageChat _ (by simp [Request.acts,Request.actionCall,outageChat,outageRequest]) rfl

end System

end ParcelPilot
