import ParcelPilot.ServiceRuns

namespace ParcelPilot

open Fallible Interleaving

section Writes

variable [Host] {db : Db} {actionId payloadHash ticketId reason userId requestId uuidHex : String}
  {auth : AuthContext} {clock : SnapshotClock} {registry : Registry}

theorem prepare_writes :
    ((prepareEscalation ticketId reason auth clock userId requestId registry uuidHex).on db).2 = db ∨
    ∃ ticket outcome evidence expiresAt actions,
      (getTicket ticketId auth clock.tz).on db = .ok ticket ∧
      clock.now.plusMinutes actionExpiryMinutes = .ok expiresAt ∧
      db.actions.insert (escalationRecord ticket ticketId reason outcome evidence userId requestId
        uuidHex clock.now expiresAt) = some actions ∧
      ((prepareEscalation ticketId reason auth clock userId requestId registry uuidHex).on db).2 =
        {db with actions := actions} := by
  unfold prepareEscalation
  rw [alone_then (by rw [alone_reading,on_attempt])]
  cases read : (getTicket ticketId auth clock.tz).on db with
  | error error => cases error <;> exact .inl rfl
  | ok ticket =>
      dsimp only
      split
      · exact .inl rfl
      · cases calculated : (calculateSla ticketId auth clock registry).on db with
        | error error =>
            rw [alone_raised (by rw [alone_reading,calculated])]
            exact .inl rfl
        | ok decision =>
            rw [alone_then (by rw [alone_reading,calculated])]
            cases decision.result with
            | none => exact .inl rfl
            | some outcome =>
                dsimp only
                split
                · cases expiry : clock.now.plusMinutes actionExpiryMinutes with
                  | error error =>
                      rw [alone_raised (alone_raising _)]
                      exact .inl rfl
                  | ok expiresAt =>
                      rw [alone_then (alone_raising _)]
                      rcases @insertAction_exit _ db (escalationRecord ticket ticketId reason outcome
                        decision.evidence userId requestId uuidHex clock.now expiresAt) with
                        ⟨error,failed⟩ | ⟨actions,inserted,ran⟩
                      · rw [alone_raised failed]
                        exact .inl rfl
                      · rw [alone_then ran]
                        exact .inr ⟨ticket,outcome,decision.evidence,expiresAt,actions,rfl,rfl,inserted,rfl⟩
                · exact .inl rfl

-- A confirmation whose action is still in its window.
inductive ConfirmInTime (db : Db) (actionId payloadHash userId : String) (auth : AuthContext)
    (clock : SnapshotClock) : Except PyError ActionOutcome × Db → Prop where
  | unchanged {result : Except PyError ActionOutcome}
      (plain : ∀ outcome, result = .ok outcome →
        outcome.success = false ∧ outcome.errorCode ≠ some "expired") :
      ConfirmInTime db actionId payloadHash userId auth clock (result,db)
  | confirmed {record : ActionRecord} (found : db.actions.row actionId = some record)
      (pending : record.status = .pendingConfirmation) (owner : record.userId = userId)
      (signed : payloadHash = record.payloadHash) :
      ConfirmInTime db actionId payloadHash userId auth clock (.ok (accepted (record.confirmed clock.now)),
        {db with actions := savedActions db.actions (record.confirmed clock.now) .pendingConfirmation})

theorem confirm_inTime
    (inTime : ∀ record, db.actions.row actionId = some record → ¬ record.expiresAt < clock.now) :
    ConfirmInTime db actionId payloadHash userId auth clock
      ((confirmAction actionId payloadHash auth clock userId).on db) := by
  have refusal : ∀ (record : Option ActionRecord) (code message : String), code ≠ "expired" →
      ConfirmInTime db actionId payloadHash userId auth clock
        (.ok (refused record code message),db) := by
    intro record code message plain
    refine .unchanged fun outcome same => ?_
    cases same
    exact ⟨rfl,fun expired => plain (Option.some.inj expired)⟩
  have raised : ∀ error : PyError,
      ConfirmInTime db actionId payloadHash userId auth clock (.error error,db) :=
    fun error => .unchanged fun outcome same => by cases same
  unfold confirmAction
  rw [alone_then (getAction_alone actionId)]
  cases found : db.actions.row actionId with
  | none => exact refusal _ _ _ (by decide)
  | some record =>
      dsimp only
      split
      · exact refusal _ _ _ (by decide)
      · rename_i waiting
        have pending : record.status = .pendingConfirmation := not_not.mp waiting
        rw [if_neg (inTime record found)]
        split
        · exact refusal _ _ _ (by decide)
        · rename_i owner
          split
          · exact refusal _ _ _ (by decide)
          · rename_i signed
            rw [alone_then (by rw [alone_reading,on_attempt])]
            cases (getTicket record.target auth clock.tz).on db with
            | error error => cases error <;> first | exact refusal _ _ _ (by decide) | exact raised _
            | ok ticket =>
                dsimp only
                split
                · exact refusal _ _ _ (by decide)
                · rw [alone_then (save_alone (record.confirmed clock.now) found pending rfl)]
                  exact .confirmed found pending (not_not.mp owner) (not_not.mp signed)

theorem confirm_succeeds {record : ActionRecord} {ticket : Ticket}
    (found : db.actions.row actionId = some record) (pending : record.status = .pendingConfirmation)
    (inTime : ¬ record.expiresAt < clock.now)
    (read : (getTicket record.target auth clock.tz).on db = .ok ticket)
    (same : ticket.status.value = record.proposedChange.previousStatus) :
    (confirmAction actionId record.payloadHash auth clock record.userId).on db =
      (.ok (accepted (record.confirmed clock.now)),
        {db with actions := savedActions db.actions (record.confirmed clock.now) .pendingConfirmation}) := by
  unfold confirmAction
  rw [alone_then (getAction_alone actionId),found]
  dsimp only
  rw [if_neg (not_not.mpr pending),if_neg inTime,if_neg (not_not.mpr rfl),if_neg (not_not.mpr rfl),
    alone_then (by rw [alone_reading,on_attempt,read])]
  dsimp only
  rw [if_neg (not_not.mpr same),
    alone_then (save_alone (record.confirmed clock.now) found pending rfl)]
  rfl

theorem execute_succeeds {record : ActionRecord} (found : db.actions.row actionId = some record)
    (ready : record.status = .confirmed) :
    (executeAction actionId clock).on db = (.ok (accepted (record.executed clock.now)),
      {db with actions := savedActions db.actions (record.executed clock.now) .confirmed}) := by
  unfold executeAction
  rw [alone_then (getAction_alone actionId),found]
  dsimp only
  rw [if_neg (by rw [ready]; decide),if_neg (not_not.mpr ready),
    alone_then (save_alone (record.executed clock.now) found ready rfl)]
  rfl

theorem guarded_succeeds {user : DemoUser} (clock : SnapshotClock) {record : ActionRecord}
    (found : db.actions.row actionId = some record) (ready : record.status = .confirmed)
    (owns : mayAccess user record = true) :
    (do
      requireOwnerOrAdmin actionId user
      executeAction actionId clock : Action ActionOutcome).on db =
      (.ok (accepted (record.executed clock.now)),
        {db with actions := savedActions db.actions (record.executed clock.now) .confirmed}) := by
  unfold requireOwnerOrAdmin
  rw [bind_assoc,alone_then (getAction_alone _),found]
  dsimp only
  rw [if_pos owns,pure_bind,execute_succeeds found ready]

end Writes

theorem plusMinutes_instant {d later : DateTime} {n : Int} (within : d.plusMinutes n = .ok later) :
    later.instant = d.instant + n * microsPerMinute := by
  unfold DateTime.plusMinutes timedelta at within
  dsimp only at within
  split at within
  · cases within
  · split at within
    · cases within
    · simp only [Except.bind,DateTime.shift] at within
      split at within
      · cases within
        simp only [DateTime.instant]
        omega
      · cases within

section Invariant

variable [Host] {service : Deployment} {start db : Db}

-- An action that the identity that prepared it can still take to its end: it is in
-- its window, and its ticket is as it was.
structure Preparer (service : Deployment) (start : Db) (row : ActionRecord) (header : Option String)
    (user : DemoUser) (clock : SnapshotClock) (ticket : Ticket) : Prop where
  known : service.getCurrentUser header = .ok user
  conn : service.getConn = .ok ()
  ticking : service.getClock = .ok clock
  owner : user.id = row.userId
  inTime : ¬ row.expiresAt < clock.now
  seen : (getTicket row.target user.toAuthContext clock.tz).on start = .ok ticket
  same : ticket.status.value = row.proposedChange.previousStatus

structure Alive (service : Deployment) (start : Db) (row : ActionRecord) : Prop where
  status : row.status = .pendingConfirmation ∨ row.status = .confirmed ∨ row.status = .executed
  named : ∃ uuidHex, row.actionId = newActionId uuidHex
  bound : row.Bound
  prepared : ∃ header user clock ticket, Preparer service start row header user clock ticket

structure Orderly (service : Deployment) (start db : Db) : Prop where
  elsewhere : OnlyActionsChange start db
  alive : ∀ actionId row, db.actions.row actionId = some row → Alive service start row

theorem alive_moves {old new : ActionRecord} (alive : Alive service start old) (moves : old.Moves new)
    (forward : new.status ≠ .expired) : Alive service start new := by
  obtain ⟨status,named,bound,header,user,clock,ticket,prepared⟩ := alive
  obtain ⟨known,conn,ticking,owner,inTime,seen,same⟩ := prepared
  cases moves with
  | confirm pending now =>
      exact ⟨.inr (.inl rfl),named,bound,header,user,clock,ticket,known,conn,ticking,owner,inTime,seen,same⟩
  | expire pending => exact absurd rfl forward
  | execute ready now =>
      exact ⟨.inr (.inr rfl),named,bound,header,user,clock,ticket,known,conn,ticking,owner,inTime,seen,same⟩

theorem orderly_saved {actionId : String} {record new : ActionRecord} (orderly : Orderly service start db)
    (found : db.actions.row actionId = some record) (same : new.actionId = record.actionId)
    (moves : record.Moves new) (forward : new.status ≠ .expired) :
    Orderly service start {db with actions := savedActions db.actions new record.status} := by
  refine ⟨onlyActions_trans orderly.elsewhere rfl,fun wanted row present => ?_⟩
  rw [savedActions_row] at present
  obtain ⟨old,stored,changed⟩ := Option.map_eq_some_iff.mp present
  by_cases here : old.isAt new.actionId record.status = true
  · rw [if_pos here] at changed
    simp only [ActionRecord.isAt,Bool.and_eq_true,decide_eq_true_eq] at here
    have key : wanted = actionId := by
      rw [← Table.row_key stored,here.1,same,Table.row_key found]
    rw [key,found] at stored
    cases Option.some.inj stored
    rw [ActionRecord.moves_overwrite moves] at changed
    rw [← changed]
    exact alive_moves (orderly.alive actionId record found) moves forward
  · rw [if_neg here] at changed
    rw [← changed]
    exact orderly.alive wanted old stored

theorem orderly_confirm {actionId payloadHash userId : String} {auth : AuthContext} {clock : SnapshotClock}
    (orderly : Orderly service start db) (ticking : service.getClock = .ok clock) :
    ConfirmInTime db actionId payloadHash userId auth clock
      ((confirmAction actionId payloadHash auth clock userId).on db) := by
  refine confirm_inTime fun record found => ?_
  obtain ⟨_,_,_,_,_,clock',_,prepared⟩ := orderly.alive actionId record found
  cases Except.ok.inj (ticking.symm.trans prepared.ticking)
  exact prepared.inTime

theorem confirmed_orderly {actionId payloadHash userId : String} {auth : AuthContext}
    {clock : SnapshotClock} (orderly : Orderly service start db) (ticking : service.getClock = .ok clock) :
    Orderly service start ((confirmAction actionId payloadHash auth clock userId).on db).2 := by
  have ends := @orderly_confirm _ _ _ _ actionId payloadHash userId auth clock orderly ticking
  revert ends
  generalize (confirmAction actionId payloadHash auth clock userId).on db = ran
  intro ends
  cases ends with
  | unchanged plain => exact orderly
  | confirmed found pending owner signed =>
      rw [← pending]
      exact orderly_saved orderly found rfl (.confirm pending clock.now) (by simp [ActionRecord.confirmed])

theorem executed_orderly {actionId : String} {clock : SnapshotClock} (orderly : Orderly service start db) :
    Orderly service start ((executeAction actionId clock).on db).2 := by
  have exits := @execute_exit _ db actionId clock
  revert exits
  generalize (executeAction actionId clock).on db = ran
  intro exits
  cases exits with
  | refused record errorCode errorMessage => exact orderly
  | repeated found done => exact orderly
  | executed found ready now =>
      rw [← ready]
      exact orderly_saved orderly found rfl (.execute ready now) (by simp [ActionRecord.executed])

theorem guarded_orderly {actionId : String} {user : DemoUser} {clock : SnapshotClock}
    (orderly : Orderly service start db) : Orderly service start ((do
      requireOwnerOrAdmin actionId user
      executeAction actionId clock : Action ActionOutcome).on db).2 := by
  unfold requireOwnerOrAdmin
  rw [bind_assoc,alone_then (getAction_alone actionId)]
  cases db.actions.row actionId with
  | none => exact orderly
  | some record =>
      dsimp only
      split
      · exact executed_orderly orderly
      · exact orderly

theorem prepared_orderly {ticketId reason requestId uuidHex : String} {header : Option String}
    {user : DemoUser} {clock : SnapshotClock} {registry : Registry} (orderly : Orderly service start db)
    (known : service.getCurrentUser header = .ok user) (conn : service.getConn = .ok ())
    (ticking : service.getClock = .ok clock) :
    Orderly service start ((prepareEscalation ticketId reason user.toAuthContext clock user.id requestId
      registry uuidHex).on db).2 := by
  rcases @prepare_writes _ db ticketId reason user.id requestId uuidHex user.toAuthContext clock registry
    with same | ⟨ticket,outcome,evidence,expiresAt,actions,read,expiry,inserted,ran⟩
  · rw [same]
    exact orderly
  · rw [ran]
    refine ⟨onlyActions_trans orderly.elsewhere rfl,fun actionId row found => ?_⟩
    rw [Table.insert_row inserted] at found
    split at found
    · cases Option.some.inj found
      refine ⟨.inl rfl,⟨uuidHex,rfl⟩,rfl,header,user,clock,ticket,known,conn,ticking,rfl,?_,?_,rfl⟩
      · have later := plusMinutes_instant expiry
        change ¬ expiresAt.instant < clock.now.instant
        simp only [actionExpiryMinutes,microsPerMinute] at later
        omega
      · exact (on_elsewhere orderly.elsewhere (elsewhere_getTicket ticketId)).symm.trans read
    · exact orderly.alive actionId row found

theorem acted_orderly {request : Request} (acts : request.acts service)
    (orderly : Orderly service start db) : Orderly service start (request.alone service db).2 := by
  obtain ⟨⟨call,user⟩,calls⟩ := Option.isSome_iff_exists.mp acts
  have ran : (request.alone service db).2 = (call.script.run Db.exec db).2 := by
    unfold Request.alone
    rw [script_of_call calls,Script.run_bind]
    rfl
  rw [ran]
  unfold Request.actionCall at calls
  split at calls
  · cases calls
    rw [script_getActionRoute]
    exact (congrArg (Orderly service start) getOwned_alone).mpr orderly
  · rename_i known conn asked ticking
    cases calls
    rw [script_prepareRoute]
    exact prepared_orderly orderly known conn ticking
  · rename_i ticking
    cases calls
    rw [script_confirmRoute]
    exact confirmed_orderly orderly ticking
  · cases calls
    rw [script_executeRoute]
    exact guarded_orderly orderly
  · cases calls

theorem initial_orderly (empty : start.actions = Table.empty) : Orderly service start start := by
  refine ⟨rfl,fun actionId row found => ?_⟩
  rw [empty] at found
  cases found

variable {config : Config Stmt Stmt.Answer Db Request HttpResponse}

theorem reached_orderly (empty : start.actions = Table.empty)
    (path : Reached (serviceSystem service) start config) : Orderly service start config.store := by
  apply reached_invariant (service_atomic service) (initial_orderly empty) _ path
  intro request store _ acts orderly
  exact acted_orderly acts orderly

theorem points_orderly (empty : start.actions = Table.empty)
    {points : List (Event Stmt Db Request)} {store : Db}
    (serial : Serial (serviceSystem service) start points store)
    (acts : ∀ point ∈ points, point.call.acts service) :
    ∀ point ∈ points, Orderly service start point.before :=
  serial_points (initial_orderly empty) (fun point member => acted_orderly (acts point member)) serial

omit [Host] in
theorem response_detail (error : PyError) : ∃ text, error.response.body = .detail text := by
  cases error <;> exact ⟨_,rfl⟩

theorem served_dependencies {request : Request} (clocked : ∀ actionId, request.endpoint ≠ .getAction actionId)
    (told : ∀ text, (request.alone service db).1.body ≠ .detail text) :
    ∃ user clock, service.getCurrentUser request.xDemoUser = .ok user ∧ service.getConn = .ok () ∧
      service.getClock = .ok clock := by
  unfold Request.alone Request.script serve at told
  have stopped (error : PyError) : ∃ text, (respond (.error error)).body = .detail text :=
    response_detail error
  cases known : service.getCurrentUser request.xDemoUser with
  | error error =>
      rw [known] at told
      obtain ⟨text,detail⟩ := stopped error
      exact absurd detail (told text)
  | ok user =>
      cases conn : service.getConn with
      | error error =>
          rw [known,conn] at told
          obtain ⟨text,detail⟩ := stopped error
          exact absurd detail (told text)
      | ok _ =>
          cases ticking : service.getClock with
          | ok clock => exact ⟨user,clock,rfl,rfl,rfl⟩
          | error error =>
              rw [known,conn,ticking] at told
              obtain ⟨text,detail⟩ := stopped error
              cases asked : request.endpoint with
              | getAction actionId => exact absurd asked (clocked actionId)
              | _ =>
                  rw [asked] at told
                  exact absurd detail (told text)

theorem alone_call {request : Request} {call : ActionCall} {user : DemoUser}
    (calls : request.actionCall service = some (call,user)) (db : Db) :
    request.alone service db =
      (answered user (call.script.run Db.exec db).1,(call.script.run Db.exec db).2) := by
  unfold Request.alone
  rw [script_of_call calls,Script.run_bind]
  rfl

theorem confirm_served {request : Request} {body : ConfirmActionRequest}
    (asked : request.endpoint = .confirm body) :
    (¬ request.acts service ∧ ∃ error : PyError, request.script service = .ret error.response) ∨
    ∃ user clock, service.getClock = .ok clock ∧
      request.actionCall service = some (.confirmRoute body user clock,user) := by
  unfold Request.acts Request.actionCall Request.script serve
  rw [asked]
  cases service.getCurrentUser request.xDemoUser with
  | error error => exact .inl ⟨by simp,error,rfl⟩
  | ok user =>
      cases service.getConn with
      | error error => exact .inl ⟨by simp,error,rfl⟩
      | ok _ =>
          cases service.getClock with
          | error error => exact .inl ⟨by simp,error,rfl⟩
          | ok clock => exact .inr ⟨user,clock,rfl,rfl⟩

omit [Host] in
theorem inTime_told {actionId payloadHash userId : String} {auth : AuthContext} {clock : SnapshotClock}
    {ran : Except PyError ActionOutcome × Db} {caller viewer : DemoUser} {outcome : ActionOutcome}
    (ends : ConfirmInTime db actionId payloadHash userId auth clock ran)
    (told : answered caller ran.1 = ⟨200,.action ⟨outcome,viewer⟩⟩) :
    outcome.errorCode ≠ some "expired" := by
  cases ends with
  | @unchanged result plain =>
      cases result with
      | error error =>
          obtain ⟨text,detail⟩ := response_detail error
          have same := congrArg HttpResponse.body told
          rw [show (answered caller (.error error)).body = .detail text from detail] at same
          cases same
      | ok answer =>
          cases told
          exact (plain _ rfl).2
  | confirmed found pending owner signed =>
      cases told
      simp [accepted]

omit [Host] in
theorem responds_cases {told : HttpResponse} {outcome : ActionOutcome} {user : DemoUser}
    (responds : Responds ⟨200,.action ⟨outcome,user⟩⟩ told) :
    told = ⟨200,.action ⟨outcome,user⟩⟩ ∨
      ∃ record message, outcome = refused record "wrong_state" message := by
  unfold Responds at responds
  generalize given : (⟨200,.action ⟨outcome,user⟩⟩ : HttpResponse) = response at responds
  cases responds with
  | same => exact .inl rfl
  | late stands =>
      cases given
      exact .inr ⟨_,_,rfl⟩

theorem call_caller {request : Request} {call : ActionCall} {user : DemoUser}
    (calls : request.actionCall service = some (call,user)) :
    service.getCurrentUser request.xDemoUser = .ok user := by
  unfold Request.actionCall at calls
  split at calls <;> cases calls <;> assumption

variable {i : Nat} {request : Request} {body : ConfirmActionRequest} {outcome : ActionOutcome}
  {viewer : DemoUser}

theorem confirm_point (empty : start.actions = Table.empty)
    (path : Reached (serviceSystem service) start config) (asked : request.endpoint = .confirm body)
    (finished : config.threads[i]? = some ⟨request,.ret ⟨200,.action ⟨outcome,viewer⟩⟩⟩) :
    ∃ seen caller clock ran, service.getCurrentUser request.xDemoUser = .ok caller ∧
      ConfirmInTime seen body.actionId body.payloadHash caller.id caller.toAuthContext clock ran ∧
      Later ran.2 config.store ∧
      (answered caller ran.1 = ⟨200,.action ⟨outcome,viewer⟩⟩ ∨
        ∃ record message, outcome = refused record "wrong_state" message) := by
  obtain ⟨points,progressing⟩ := reached_progressing (service_atomic service) path
  have linearized := progressing_linearized progressing
  rcases confirm_served asked with ⟨stopped,error,script⟩ | ⟨caller,clock,ticking,calls⟩
  · obtain ⟨seen,_,told⟩ := linearized.aside i request _ stopped finished
    obtain ⟨text,detail⟩ := response_detail error
    have same := congrArg HttpResponse.body told
    change _ = ((request.script service).run Db.exec seen).1.body at same
    rw [script,Script.run_ret,detail] at same
    cases same
  · have acts : request.acts service := by simp [Request.acts,calls]
    obtain ⟨point,member,_,rfl,told⟩ := linearized.answered i request _ acts finished
    have issued := fun other present => (linearized.issued other present).1
    have orderly := points_orderly empty linearized.serial issued point member
    have passed := serial_after (service_atomic service)
      (fun other present => ⟨trivial,issued other present⟩) linearized.serial point member
    have alone := alone_call calls point.before
    rw [script_confirmRoute] at alone
    refine ⟨point.before,caller,clock,_,call_caller calls,orderly_confirm orderly ticking,?_,?_⟩
    · rw [show (((serviceSystem service).script point.call).run (serviceSystem service).step
        point.before).2 = _ from congrArg (·.2) alone] at passed
      exact passed
    · rcases responds_cases told with same | late
      · exact .inl ((congrArg (·.1) alone).symm.trans same)
      · exact .inr late

-- The clock of a deployment stands still, so the window of an action never closes:
-- no row expires, and no confirmation is told that it has.
theorem service_never_expires (empty : start.actions = Table.empty)
    (path : Reached (serviceSystem service) start config) :
    (∀ row ∈ config.store.actions.rows, row.status ≠ .expired) ∧
    ∀ (i : Nat) request body outcome user, request.endpoint = .confirm body →
      config.threads[i]? = some ⟨request,.ret ⟨200,.action ⟨outcome,user⟩⟩⟩ →
      outcome.errorCode ≠ some "expired" := by
  have orderly := reached_orderly empty path
  refine ⟨fun row member expired => ?_,?_⟩
  · have alive := orderly.alive row.actionId row (Table.row_eq_some.mpr ⟨member,rfl⟩)
    rcases alive.status with pending | confirmed | executed <;> simp_all
  · intro i request body outcome user asked finished
    obtain ⟨seen,caller,clock,ran,_,ends,_,same | ⟨record,message,rfl⟩⟩ :=
      confirm_point empty path asked finished
    · exact inTime_told ends same
    · simp [refused]

omit [Host] in
theorem saved_row {actionId : String} {record new : ActionRecord}
    (found : db.actions.row actionId = some record) (same : new.actionId = record.actionId)
    (moves : record.Moves new) :
    (savedActions db.actions new record.status).row actionId = some new := by
  rw [savedActions_row,found]
  simp [ActionRecord.isAt,same,ActionRecord.moves_overwrite moves]

omit [Host] in
theorem newActionId_length (uuidHex : String) :
    1 ≤ (newActionId uuidHex).length ∧ (newActionId uuidHex).length ≤ 64 := by
  have length : (newActionId uuidHex).length = 4 + (uuidHex.toList.take 12).length := by
    simp only [newActionId,Py.truncate,String.length_append,String.length_ofList]
    rfl
  have short := List.length_take_le 12 uuidHex.toList
  omega

-- The answers that lead an action on when its preparer asks, undisturbed.
def Confirms (service : Deployment) (db : Db) (row : ActionRecord) (header : Option String)
    (user : DemoUser) (clock : SnapshotClock) (body : ConfirmActionRequest) : Prop :=
  ∀ request : Request, request.xDemoUser = header → request.endpoint = .confirm body →
    request.alone service db = (⟨200,.action ⟨accepted (row.confirmed clock.now),user⟩⟩,
      {db with actions := savedActions db.actions (row.confirmed clock.now) .pendingConfirmation})

def Executes (service : Deployment) (db : Db) (row : ActionRecord) (header : Option String)
    (user : DemoUser) (clock : SnapshotClock) (body : ExecuteActionRequest) : Prop :=
  ∀ request : Request, request.xDemoUser = header → request.endpoint = .execute body →
    request.alone service db = (⟨200,.action ⟨accepted (row.executed clock.now),user⟩⟩,
      {db with actions := savedActions db.actions (row.executed clock.now) .confirmed})

variable {row : ActionRecord} {header : Option String} {user : DemoUser} {clock : SnapshotClock}
  {ticket : Ticket}

theorem preparer_confirms (orderly : Orderly service start db)
    (found : db.actions.row row.actionId = some row) (pending : row.status = .pendingConfirmation)
    (prepared : Preparer service start row header user clock ticket) (body : ConfirmActionRequest)
    (actionId : body.actionId = row.actionId) (payloadHash : body.payloadHash = row.payloadHash) :
    Confirms service db row header user clock body := by
  intro request sent asked
  have calls : request.actionCall service = some (.confirmRoute body user clock,user) := by
    simp [Request.actionCall,sent,asked,prepared.known,prepared.conn,prepared.ticking]
  have read := (on_elsewhere orderly.elsewhere (elsewhere_getTicket row.target)).trans prepared.seen
  rw [alone_call calls,script_confirmRoute,actionId,payloadHash,prepared.owner]
  have ran : (confirmAction row.actionId row.payloadHash user.toAuthContext clock row.userId).run.run
      Db.exec db = _ := confirm_succeeds found pending prepared.inTime read prepared.same
  rw [ran]
  rfl

theorem preparer_executes (found : db.actions.row row.actionId = some row)
    (ready : row.status = .confirmed)
    (prepared : Preparer service start row header user clock ticket) (body : ExecuteActionRequest)
    (actionId : body.actionId = row.actionId) : Executes service db row header user clock body := by
  intro request sent asked
  have calls : request.actionCall service = some (.executeRoute body user clock,user) := by
    simp [Request.actionCall,sent,asked,prepared.known,prepared.conn,prepared.ticking]
  have owns : mayAccess user row = true := by simp [mayAccess,prepared.owner]
  have ran := guarded_succeeds clock found ready owns
  unfold Action.on perform at ran
  rw [alone_call calls,script_executeRoute,actionId,ran]
  rfl

theorem reached_request (path : Reached (serviceSystem service) start config) (request : Request) :
    ∃ log, Reached (serviceSystem service) start ⟨(request.alone service config.store).2,
      config.threads ++ [⟨request,.ret (request.alone service config.store).1⟩],log⟩ :=
  reached_alone path trivial

-- A digest of the right length, right for the payload of the outage.
@[reducible] def digestHost : Host := {asciiHost [] [] with sha256Hex := fun _ => outageDigest}

omit [Host] in
theorem outage_prepared : ((@Request.alone digestHost outageService outagePrepare targetedDb).2.actions.row
    "ACT-0123456789ab").map (·.status) = some .pendingConfirmation := by decide +kernel

omit [Host] in
theorem outage_pending : let _ := digestHost
    ∃ config row, Reached (serviceSystem outageService) targetedDb config ∧
      row ∈ config.store.actions.rows ∧ row.status = .pendingConfirmation := by
  intro _
  obtain ⟨row,present,pending⟩ := Option.map_eq_some_iff.mp outage_prepared
  obtain ⟨log,prepared⟩ := @reached_request digestHost outageService targetedDb
    ⟨targetedDb,[],[]⟩ .initial outagePrepare
  exact ⟨_,row,prepared,(Table.row_eq_some.mp present).1,pending⟩

omit [Host] in
theorem outage_never_expires : let _ := digestHost
    ∃ config row, Reached (serviceSystem outageService) targetedDb config ∧
      row ∈ config.store.actions.rows ∧ row.status ≠ .expired := by
  intro _
  obtain ⟨config,row,path,stored,_⟩ := outage_pending
  exact ⟨config,row,path,stored,(service_never_expires rfl path).1 row stored⟩

-- An action that the identity that prepared it can take to its end from here.
def Completable (service : Deployment) (db : Db) (row : ActionRecord) : Prop :=
  ∃ header user clock, ∃ confirming : ConfirmActionRequest, ∃ executing : ExecuteActionRequest,
    service.getCurrentUser header = .ok user ∧ user.id = row.userId ∧
    (row.status = .pendingConfirmation →
      Confirms service db row header user clock confirming ∧
      Executes service
        {db with actions := savedActions db.actions (row.confirmed clock.now) .pendingConfirmation}
        (row.confirmed clock.now) header user clock executing) ∧
    (row.status = .confirmed → Executes service db row header user clock executing) ∧
    (row.status = .pendingConfirmation ∨ row.status = .confirmed ∨ row.status = .executed)

theorem orderly_completable (digest : ∀ text : String, (Host.sha256Hex text).length = 64)
    (orderly : Orderly service start db) (found : db.actions.row row.actionId = some row) :
    Completable service db row := by
  obtain ⟨status,⟨uuidHex,named⟩,bound,header,user,clock,ticket,prepared⟩ :=
    orderly.alive row.actionId row found
  have actionLength : 1 ≤ row.actionId.length ∧ row.actionId.length ≤ 64 := by
    rw [named]
    exact newActionId_length uuidHex
  have hashLength : 1 ≤ row.payloadHash.length ∧ row.payloadHash.length ≤ 128 := by
    rw [show row.payloadHash = payloadHash row.actionType row.target row.proposedChange from bound]
    unfold payloadHash
    rw [digest]
    decide
  refine ⟨header,user,clock,⟨row.actionId,row.payloadHash,actionLength,hashLength⟩,
    ⟨row.actionId,actionLength⟩,prepared.known,prepared.owner,?_,?_,status⟩
  · intro pending
    refine ⟨preparer_confirms orderly found pending prepared _ rfl rfl,?_⟩
    have later : Preparer service start (row.confirmed clock.now) header user clock ticket :=
      ⟨prepared.known,prepared.conn,prepared.ticking,prepared.owner,prepared.inTime,prepared.seen,
        prepared.same⟩
    apply preparer_executes _ rfl later _ rfl
    rw [← pending]
    exact saved_row found rfl (.confirm pending clock.now)
  · exact fun ready => preparer_executes found ready prepared _ rfl

-- From every reachable state each action that was prepared can be taken to its end
-- by the identity that prepared it: nothing is ever stuck half way.
theorem actions_complete (digest : ∀ text : String, (Host.sha256Hex text).length = 64)
    (empty : start.actions = Table.empty) (path : Reached (serviceSystem service) start config)
    (stored : row ∈ config.store.actions.rows) : Completable service config.store row :=
  orderly_completable digest (reached_orderly empty path) (Table.row_eq_some.mpr ⟨stored,rfl⟩)

omit [Host] in
theorem outage_completes : let _ := digestHost
    ∃ (config : Config Stmt Stmt.Answer Db Request HttpResponse) (row : ActionRecord) (header : Option String)
      (user : DemoUser) (clock : SnapshotClock) (confirming : ConfirmActionRequest),
      Reached (serviceSystem outageService) targetedDb config ∧ row ∈ config.store.actions.rows ∧
      Confirms outageService config.store row header user clock confirming := by
  intro _
  obtain ⟨config,row,path,stored,pending⟩ := outage_pending
  obtain ⟨header,user,clock,confirming,_,_,_,confirms,_⟩ :=
    actions_complete (fun _ => (by decide : outageDigest.length = 64)) rfl path stored
  exact ⟨config,row,header,user,clock,confirming,path,stored,(confirms pending).1⟩

end Invariant

end ParcelPilot
