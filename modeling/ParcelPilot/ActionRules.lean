import ParcelPilot.ActionHistory

namespace ParcelPilot

open Interleaving

-- Rules for the scripts of the workflow, under any protocol.
section Rules

variable [Host] {admits : ActionCall → Prop} {P : Protocol (actionSystem admits)} {i : Nat}
  {call : ActionCall} {db : Db} {log : List ActionEvent}
  {post : Except PyError β → Db → List ActionEvent → Prop}

-- From here on, whatever the others do, the thread keeps the protocol.
abbrev Runs (P : Protocol (actionSystem admits)) (i : Nat) (call : ActionCall) (action : Action β)
    (post : Except PyError β → Db → List ActionEvent → Prop) (db : Db) (log : List ActionEvent) : Prop :=
  P.Holds i call action.run post db log

-- A statement of this thread that keeps the protocol here.
def Bears (P : Protocol (actionSystem admits)) (i : Nat) (call : ActionCall) (stmt : Stmt) (db : Db)
    (log : List ActionEvent) : Prop :=
  P.inv (Db.exec stmt db).2 (⟨i,call,stmt,db⟩ :: log) ∧
    P.onward db log (Db.exec stmt db).2 (⟨i,call,stmt,db⟩ :: log)

-- A protocol that nobody breaks by reading.
def Reads (P : Protocol (actionSystem admits)) : Prop :=
  ∀ i call select db log, P.inv db log → Bears P i call (.query select) db log

theorem runs_statement {stmt : Stmt} {rest : stmt.Answer → Action β}
    (each : ∀ s l, P.onward db log s l → P.inv s l → Bears P i call stmt s l ∧
      Runs P i call (rest (Db.exec stmt s).1) post (Db.exec stmt s).2 (⟨i,call,stmt,s⟩ :: l)) :
    Runs P i call (statement stmt >>= rest) post db log := by
  intro s l moved valid
  obtain ⟨⟨kept,onward⟩,after⟩ := each s l moved valid
  exact ⟨kept,onward,after⟩

theorem runs_result {value : β}
    (holds : ∀ s l, P.onward db log s l → P.inv s l → post (.ok value) s l) :
    Runs P i call (pure value) post db log := holds

theorem runs_error {error : PyError} (raised : ∀ error s l, post (.error error) s l) :
    Runs P i call (throw error) post db log := fun s l _ _ => raised error s l

theorem runs_reading {query : Query α} {rest : α → Action β} (reads : Reads P)
    (valid : P.inv db log) (raised : ∀ error s l, post (.error error) s l)
    (each : ∀ value s l, P.onward db log s l → P.inv s l → Runs P i call (rest value) post s l) :
    Runs P i call (reading query >>= rest) post db log := by
  unfold Runs
  rw [ExceptT.run_bind]
  refine Protocol.holds_bind ?_ valid
  refine Protocol.holds_imp (Protocol.holds_reads ?_ query.run) ?_
  · exact fun op s l kept => reads i call op s l kept
  · intro result s l moved kept _
    cases result with
    | ok value => exact each value s l moved kept
    | error error => exact fun s' l' _ _ => raised error s' l'

theorem runs_raising {result : Except PyError α} {rest : α → Action β}
    (raised : ∀ error s l, post (.error error) s l)
    (each : ∀ value, Runs P i call (rest value) post db log) :
    Runs P i call (raising result >>= rest) post db log := by
  cases result with
  | ok value => exact each value
  | error error => exact fun s l _ _ => raised error s l

theorem runs_getAction {actionId : String} {rest : Option ActionRecord → Action β} (reads : Reads P)
    (each : ∀ s l, P.onward db log s l → P.inv s l →
      Runs P i call (rest (s.actions.row actionId)) post s
        (⟨i,call,.query (.action actionId),s⟩ :: l)) :
    Runs P i call (getAction actionId >>= rest) post db log :=
  runs_statement fun s l moved valid => ⟨reads i call _ s l valid,each s l moved valid⟩

def ticketAnswer (ticketId : String) (auth : AuthContext) (tz : Int) :
    Option TicketRow → Except PyError Ticket
  | none => .error (.unknownEntity "ticket" ticketId)
  | some row =>
      if auth.allowsAccount row.accountId then .ok (row.toTicket tz)
      else .error (cannotAccess auth "ticket" ticketId)

omit [Host] in
theorem reading_getTicket {ticketId : String} {auth : AuthContext} {tz : Int}
    (rest : Except PyError Ticket → Action β) :
    (reading (Fallible.attempt (getTicket ticketId auth tz)) >>= rest).run =
      .exec (.query (.ticket ticketId))
        (fun answer => (rest (ticketAnswer ticketId auth tz answer)).run) := by
  refine congrArg (Script.exec (Stmt.query (.ticket ticketId))) (funext fun answer => ?_)
  cases (answer : Option TicketRow) with
  | none => rfl
  | some row =>
      change ((reading (Fallible.attempt (do
        checkScope auth row.accountId "ticket" ticketId
        pure (row.toTicket tz)))) >>= rest).run = _
      simp only [ticketAnswer,checkScope]
      split <;> rfl

omit [Host] in
theorem ticketAnswer_ok {ticketId : String} {auth : AuthContext} {tz : Int} {ticket : Ticket}
    {answer : Option TicketRow} (read : ticketAnswer ticketId auth tz answer = .ok ticket) :
    ∃ row, answer = some row ∧ auth.allowsAccount row.accountId = true ∧ row.toTicket tz = ticket := by
  cases answer with
  | none => cases read
  | some row =>
      by_cases allowed : auth.allowsAccount row.accountId = true
      · exact ⟨row,rfl,allowed,by simpa [ticketAnswer,allowed] using read⟩
      · simp [ticketAnswer,allowed] at read

theorem runs_getTicket {ticketId : String} {auth : AuthContext} {tz : Int}
    {rest : Except PyError Ticket → Action β} (reads : Reads P)
    (each : ∀ s l, P.onward db log s l → P.inv s l →
      Runs P i call (rest (ticketAnswer ticketId auth tz (s.tickets.row ticketId))) post s
        (⟨i,call,.query (.ticket ticketId),s⟩ :: l)) :
    Runs P i call (reading (Fallible.attempt (getTicket ticketId auth tz)) >>= rest) post db log := by
  unfold Runs
  rw [reading_getTicket]
  intro s l moved valid
  obtain ⟨kept,onward⟩ := reads i call (.ticket ticketId) s l valid
  exact ⟨kept,onward,each s l moved valid⟩

-- Nothing is promised of the result here.
def anything : Except PyError β → Db → List ActionEvent → Prop := fun _ _ _ => True

theorem prepare_runs {ticketId reason userId requestId uuidHex : String} {auth : AuthContext}
    {clock : SnapshotClock} {registry : Registry} (reads : Reads P) (valid : P.inv db log)
    (inserts : ∀ ticket outcome evidence now expiresAt s l, P.inv s l → Bears P i call
      (.insertAction (escalationRecord ticket ticketId reason outcome evidence userId requestId
        uuidHex now expiresAt)) s l) :
    Runs P i call (prepareEscalation ticketId reason auth clock userId requestId registry uuidHex)
      anything db log := by
  refine runs_reading reads valid (fun _ _ _ => trivial) fun found s l _ valid => ?_
  split
  · exact runs_result fun _ _ _ _ => trivial
  · exact runs_result fun _ _ _ _ => trivial
  · exact runs_error fun _ _ _ => trivial
  · split
    · exact runs_result fun _ _ _ _ => trivial
    · refine runs_reading reads valid (fun _ _ _ => trivial) fun sla s l _ valid => ?_
      split
      · exact runs_result fun _ _ _ _ => trivial
      · split
        · refine runs_raising (fun _ _ _ => trivial) fun expiresAt => ?_
          unfold insertAction
          rw [bind_assoc]
          refine runs_statement fun s l moved valid => ⟨inserts _ _ _ _ _ s l valid,?_⟩
          generalize (Db.exec (.insertAction _) s).1 = accepts
          cases accepts with
          | true => exact runs_result fun _ _ _ _ => trivial
          | false => exact runs_error fun _ _ _ => trivial
        · exact runs_result fun _ _ _ _ => trivial

theorem guarded_runs {actionId : String} {user : DemoUser} {action : Action β} (reads : Reads P)
    (raised : ∀ error s l, post (.error error) s l)
    (each : ∀ s l record, P.inv s l → s.actions.row actionId = some record →
      mayAccess user record = true →
      Runs P i call action post s (⟨i,call,.query (.action actionId),s⟩ :: l)) :
    Runs P i call (do requireOwnerOrAdmin actionId user; action) post db log := by
  unfold requireOwnerOrAdmin
  rw [bind_assoc]
  refine runs_getAction reads fun s l _ valid => ?_
  cases read : s.actions.row actionId with
  | none => exact runs_error raised
  | some record =>
      dsimp only
      split
      · rename_i allowed
        exact each s l record valid read allowed
      · exact runs_error raised

theorem getOwned_runs {actionId : String} {user : DemoUser} (reads : Reads P) :
    Runs P i call (getOwnedActionOr404 actionId user) anything db log := by
  refine runs_getAction reads fun s l _ _ => ?_
  cases s.actions.row actionId with
  | none => exact runs_error fun _ _ _ => trivial
  | some record =>
      dsimp only
      split
      · exact runs_result fun _ _ _ _ => trivial
      · exact runs_error fun _ _ _ => trivial

end Rules

section Routes

variable [Host] {admits : ActionCall → Prop}

theorem system_script (call : ActionCall) : (actionSystem admits).script call = call.script := rfl

theorem script_prepareRoute (body : PrepareEscalationRequest) (user : DemoUser) (clock : SnapshotClock)
    (requestId : String) (registry : Registry) (uuidHex : String) :
    (ActionCall.prepareRoute body user clock requestId registry uuidHex).script =
      (prepareEscalation body.ticketId body.reason user.toAuthContext clock user.id requestId registry
        uuidHex).run := by
  simp only [ActionCall.script,ActionCall.outcomeOf,prepareRoute,bind_assoc,pure_bind,bind_pure]

theorem script_confirmRoute (body : ConfirmActionRequest) (user : DemoUser) (clock : SnapshotClock) :
    (ActionCall.confirmRoute body user clock).script =
      (confirmAction body.actionId body.payloadHash user.toAuthContext clock user.id).run := by
  simp only [ActionCall.script,ActionCall.outcomeOf,confirmRoute,bind_assoc,pure_bind,bind_pure]

theorem script_executeRoute (body : ExecuteActionRequest) (user : DemoUser) (clock : SnapshotClock) :
    (ActionCall.executeRoute body user clock).script = (do
      requireOwnerOrAdmin body.actionId user
      executeAction body.actionId clock : Action ActionOutcome).run := by
  simp only [ActionCall.script,ActionCall.outcomeOf,executeRoute,bind_assoc,pure_bind,bind_pure]

theorem script_getActionRoute (actionId : String) (user : DemoUser) :
    (ActionCall.getActionRoute actionId user).script = (getOwnedActionOr404 actionId user).run := by
  simp only [ActionCall.script,ActionCall.outcomeOf,getActionRoute,bind_assoc,pure_bind,bind_pure]

end Routes

end ParcelPilot
