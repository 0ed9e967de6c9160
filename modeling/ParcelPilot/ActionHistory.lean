import ParcelPilot.ActionRoutes
import ParcelPilot.Interleaving

namespace ParcelPilot

namespace ActionRecord

def proposal (record : ActionRecord) : ActionRecord := {record with
  status := .pendingConfirmation, confirmedAt := none, executedAt := none, failureReason := none}

-- The lifecycle, one edge at a time.
inductive Moves (old : ActionRecord) : ActionRecord → Prop where
  | confirm (pending : old.status = .pendingConfirmation) (now : DateTime) :
      Moves old (old.confirmed now)
  | expire (pending : old.status = .pendingConfirmation) : Moves old old.expired
  | execute (confirmed : old.status = .confirmed) (now : DateTime) : Moves old (old.executed now)

abbrev Evolves : ActionRecord → ActionRecord → Prop := Relation.ReflTransGen Moves

structure Stamped (row : ActionRecord) : Prop where
  status : row.status = .pendingConfirmation ∨ row.status = .confirmed ∨ row.status = .executed ∨
    row.status = .expired
  confirmedAt : row.confirmedAt.isSome = true ↔ row.status = .confirmed ∨ row.status = .executed
  executedAt : row.executedAt.isSome = true ↔ row.status = .executed
  failureReason : row.failureReason.isSome = true ↔ row.status = .expired

structure Preserved (old new : ActionRecord) : Prop where
  proposal : new.proposal = old.proposal
  confirmedAt : ∀ time, old.confirmedAt = some time → new.confirmedAt = some time
  executedAt : ∀ time, old.executedAt = some time → new.executedAt = some time
  failureReason : ∀ text, old.failureReason = some text → new.failureReason = some text

def rank : ActionStatus → Nat
  | .pendingConfirmation => 0
  | .executed => 2
  | _ => 1

variable {old new row record : ActionRecord}

theorem moves_proposal (moves : old.Moves new) : new.proposal = old.proposal := by
  cases moves <;> rfl

theorem moves_overwrite (moves : row.Moves record) : row.overwrite record = record := by
  cases moves <;> rfl

theorem moves_rank (moves : old.Moves new) : rank old.status < rank new.status := by
  cases moves with
  | confirm pending now => simp [pending,confirmed,rank]
  | expire pending => simp [pending,expired,rank]
  | execute ready now => simp [ready,executed,rank]

theorem moves_stamped (stamped : old.Stamped) (moves : old.Moves new) : new.Stamped := by
  obtain ⟨_,confirmedAt,executedAt,failureReason⟩ := stamped
  cases moves with
  | confirm pending now =>
      simp only [pending] at executedAt failureReason
      exact ⟨by simp [confirmed],by simp [confirmed],by simpa [confirmed] using executedAt,
        by simpa [confirmed] using failureReason⟩
  | expire pending =>
      simp only [pending] at confirmedAt executedAt
      exact ⟨by simp [expired],by simpa [expired] using confirmedAt,
        by simpa [expired] using executedAt,by simp [expired]⟩
  | execute ready now =>
      simp only [ready] at confirmedAt failureReason
      exact ⟨by simp [executed],by simpa [executed] using confirmedAt,by simp [executed],
        by simpa [executed] using failureReason⟩

theorem moves_preserved (stamped : old.Stamped) (moves : old.Moves new) : old.Preserved new := by
  refine ⟨moves_proposal moves,?_,?_,?_⟩
  · intro time set
    cases moves with
    | confirm pending now =>
        have bears := stamped.confirmedAt.mp (by rw [set]; rfl)
        simp [pending] at bears
    | expire pending => exact set
    | execute ready now => exact set
  · intro time set
    cases moves with
    | confirm pending now => exact set
    | expire pending => exact set
    | execute ready now =>
        have bears := stamped.executedAt.mp (by rw [set]; rfl)
        simp [ready] at bears
  · intro text set
    cases moves with
    | confirm pending now => exact set
    | expire pending =>
        have bears := stamped.failureReason.mp (by rw [set]; rfl)
        simp [pending] at bears
    | execute ready now => exact set

theorem preserved_refl (row : ActionRecord) : row.Preserved row :=
  ⟨rfl,fun _ set => set,fun _ set => set,fun _ set => set⟩

theorem preserved_trans {middle : ActionRecord} (one : old.Preserved middle)
    (two : middle.Preserved new) : old.Preserved new :=
  ⟨two.proposal.trans one.proposal,fun _ set => two.confirmedAt _ (one.confirmedAt _ set),
    fun _ set => two.executedAt _ (one.executedAt _ set),
    fun _ set => two.failureReason _ (one.failureReason _ set)⟩

theorem evolves_preserved (stamped : old.Stamped) (evolves : old.Evolves new) :
    new.Stamped ∧ old.Preserved new := by
  induction evolves with
  | refl => exact ⟨stamped,preserved_refl old⟩
  | tail _ moves ih =>
      exact ⟨moves_stamped ih.1 moves,preserved_trans ih.2 (moves_preserved ih.1 moves)⟩

theorem evolves_rank (evolves : old.Evolves new) : old = new ∨ rank old.status < rank new.status := by
  induction evolves with
  | refl => exact .inl rfl
  | tail _ moves ih =>
      have later := moves_rank moves
      rcases ih with rfl | earlier
      · exact .inr later
      · exact .inr (by omega)

theorem evolves_same_status (evolves : old.Evolves new) (same : new.status = old.status) :
    old = new := by
  rcases evolves_rank evolves with equal | less
  · exact equal
  · rw [same] at less
    omega

end ActionRecord

-- Anything that may be called: the three functions by themselves, and the routes.
inductive ActionCall where
  | prepareEscalation (ticketId reason : String) (auth : AuthContext) (clock : SnapshotClock)
      (userId requestId : String) (registry : Registry) (uuidHex : String)
  | confirmAction (actionId payloadHash : String) (auth : AuthContext) (clock : SnapshotClock)
      (userId : String)
  | executeAction (actionId : String) (clock : SnapshotClock)
  | prepareRoute (body : PrepareEscalationRequest) (user : DemoUser) (clock : SnapshotClock)
      (requestId : String) (registry : Registry) (uuidHex : String)
  | confirmRoute (body : ConfirmActionRequest) (user : DemoUser) (clock : SnapshotClock)
  | executeRoute (body : ExecuteActionRequest) (user : DemoUser) (clock : SnapshotClock)
  | getActionRoute (actionId : String) (user : DemoUser)

namespace ActionCall

def outcomeOf (route : Action ActionResponse) : Action ActionOutcome := do
  let response ← route
  pure response.outcome

def script [Host] : ActionCall → Script Stmt Stmt.Answer (Except PyError ActionOutcome)
  | .prepareEscalation ticketId reason auth clock userId requestId registry uuidHex =>
      (ParcelPilot.prepareEscalation ticketId reason auth clock userId requestId registry uuidHex).run
  | .confirmAction actionId payloadHash auth clock userId =>
      (ParcelPilot.confirmAction actionId payloadHash auth clock userId).run
  | .executeAction actionId clock => (ParcelPilot.executeAction actionId clock).run
  | .prepareRoute body user clock requestId registry uuidHex =>
      (outcomeOf (ParcelPilot.prepareRoute body user clock requestId registry uuidHex)).run
  | .confirmRoute body user clock => (outcomeOf (ParcelPilot.confirmRoute body user clock)).run
  | .executeRoute body user clock => (outcomeOf (ParcelPilot.executeRoute body user clock)).run
  | .getActionRoute actionId user => (outcomeOf (ParcelPilot.getActionRoute actionId user)).run

def isRoute : ActionCall → Prop
  | .prepareEscalation .. | .confirmAction .. | .executeAction .. => False
  | .prepareRoute .. | .confirmRoute .. | .executeRoute .. | .getActionRoute .. => True

def preparer : ActionCall → Option String
  | .prepareEscalation _ _ _ _ userId _ _ _ => some userId
  | .prepareRoute _ user _ _ _ _ => some user.id
  | _ => none

structure ConfirmCall where
  actionId : String
  payloadHash : String
  auth : AuthContext
  clock : SnapshotClock
  userId : String

def confirmCall : ActionCall → Option ConfirmCall
  | .confirmAction actionId payloadHash auth clock userId =>
      some ⟨actionId,payloadHash,auth,clock,userId⟩
  | .confirmRoute body user clock =>
      some ⟨body.actionId,body.payloadHash,user.toAuthContext,clock,user.id⟩
  | _ => none

-- Who may be behind an execution: anybody calling the function, the preparer or
-- an administrator through the route.
def mayExecute (record : ActionRecord) : ActionCall → Prop
  | .executeAction actionId _ => actionId = record.actionId
  | .executeRoute body user _ =>
      body.actionId = record.actionId ∧ (user.role = .operationsAdmin ∨ user.id = record.userId)
  | _ => False

theorem executeRoute_of_mayExecute {call : ActionCall} {record : ActionRecord}
    (route : call.isRoute) (permitted : call.mayExecute record) :
    ∃ body user clock, call = .executeRoute body user clock ∧ body.actionId = record.actionId ∧
      (user.id = record.userId ∨ user.role = .operationsAdmin) := by
  cases call with
  | executeRoute body user clock => exact ⟨body,user,clock,rfl,permitted.1,permitted.2.symm⟩
  | executeAction => exact route.elim
  | prepareEscalation => exact permitted.elim
  | confirmAction => exact permitted.elim
  | prepareRoute => exact permitted.elim
  | confirmRoute => exact permitted.elim
  | getActionRoute => exact permitted.elim

end ActionCall

abbrev ActionEvent := Interleaving.Event Stmt Db ActionCall

def Stmt.lands (actionId : String) (db : Db) : Stmt → Bool
  | .query _ => false
  | .insertAction record => record.actionId = actionId && (db.actions.row actionId).isNone
  | .saveActionIfStatus record expectedStatus =>
      record.actionId = actionId && (db.actions.row actionId).any (·.status = expectedStatus)

def landed (actionId : String) (event : ActionEvent) : Bool := event.op.lands actionId event.before

section Effects

variable [Host] {db : Db} {stmt : Stmt} {actionId : String} {record row : ActionRecord}
  {expectedStatus : ActionStatus}

theorem exec_unmoved (quiet : stmt.lands actionId db = false) :
    (Db.exec stmt db).2.actions.row actionId = db.actions.row actionId := by
  cases stmt with
  | query select => rfl
  | insertAction record =>
      simp only [Db.exec]
      cases inserted : db.actions.insert record with
      | none => rfl
      | some actions =>
          have fresh := Table.insert_fresh inserted
          by_cases same : record.actionId = actionId
          · subst same
            simp [Stmt.lands,fresh] at quiet
          · simp only [Table.insert_row inserted,same,if_false]
  | saveActionIfStatus record expectedStatus =>
      simp only [Db.exec,savedActions_row]
      cases found : db.actions.row actionId with
      | none => rfl
      | some row =>
          have key := Table.row_key found
          have untouched : row.isAt record.actionId expectedStatus = false := by
            by_contra touched
            simp only [ActionRecord.isAt,Bool.not_eq_false,Bool.and_eq_true,decide_eq_true_eq] at touched
            simp [Stmt.lands,found,touched.2,← touched.1,key] at quiet
          simp [untouched]

theorem exec_inserted (fresh : db.actions.row record.actionId = none) :
    (Db.exec (.insertAction record) db).2.actions.row record.actionId = some record := by
  obtain ⟨actions,inserted⟩ := Table.insert_of_fresh fresh
  simp only [Db.exec,inserted,Table.insert_row inserted,if_true]

theorem exec_saved (found : db.actions.row record.actionId = some row)
    (status : row.status = expectedStatus) :
    (Db.exec (.saveActionIfStatus record expectedStatus) db).2.actions.row record.actionId =
      some (row.overwrite record) := by
  have key := Table.row_key found
  simp [Db.exec,savedActions_row,found,ActionRecord.isAt,key,status]

end Effects

def setsTo (status : ActionStatus) (event : ActionEvent) : Bool :=
  match event.op with
  | .saveActionIfStatus record _ => record.status = status
  | _ => false

def Inserts (event : ActionEvent) (row : ActionRecord) : Prop :=
  ∃ record, event.op = .insertAction record ∧ record.proposal = row.proposal

def Sets (status : ActionStatus) (event : ActionEvent) (row : ActionRecord) : Prop :=
  ∃ record expectedStatus, event.op = .saveActionIfStatus record expectedStatus ∧
    record.status = status ∧ record.proposal = row.proposal

-- What brought a row to where it stands: the landed events, newest first.
inductive Story : Option ActionRecord → List ActionEvent → Prop where
  | absent : Story none []
  | prepared {row : ActionRecord} {first : ActionEvent} (status : row.status = .pendingConfirmation)
      (inserts : Inserts first row) : Story (some row) [first]
  | confirmed {row : ActionRecord} {second first : ActionEvent} (status : row.status = .confirmed)
      (confirms : Sets .confirmed second row) (inserts : Inserts first row) :
      Story (some row) [second,first]
  | expired {row : ActionRecord} {second first : ActionEvent} (status : row.status = .expired)
      (expires : Sets .expired second row) (inserts : Inserts first row) :
      Story (some row) [second,first]
  | executed {row : ActionRecord} {third second first : ActionEvent} (status : row.status = .executed)
      (executes : Sets .executed third row) (confirms : Sets .confirmed second row)
      (inserts : Inserts first row) : Story (some row) [third,second,first]

theorem story_moves {old new : ActionRecord} {event : ActionEvent} {past : List ActionEvent}
    {expectedStatus : ActionStatus} (story : Story (some old) past) (moves : old.Moves new)
    (op : event.op = .saveActionIfStatus new expectedStatus) : Story (some new) (event :: past) := by
  have same := ActionRecord.moves_proposal moves
  have inserts : ∀ {first}, Inserts first old → Inserts first new :=
    fun ⟨record,insert,proposal⟩ => ⟨record,insert,proposal.trans same.symm⟩
  have sets : ∀ {status first}, Sets status first old → Sets status first new :=
    fun ⟨record,expected,save,status,proposal⟩ =>
      ⟨record,expected,save,status,proposal.trans same.symm⟩
  have here : Sets new.status event new := ⟨new,_,op,rfl,rfl⟩
  cases moves with
  | confirm pending now =>
      cases story with
      | prepared status first => exact .confirmed rfl here (inserts first)
      | confirmed status => simp [pending] at status
      | expired status => simp [pending] at status
      | executed status => simp [pending] at status
  | expire pending =>
      cases story with
      | prepared status first => exact .expired rfl here (inserts first)
      | confirmed status => simp [pending] at status
      | expired status => simp [pending] at status
      | executed status => simp [pending] at status
  | execute ready now =>
      cases story with
      | prepared status => simp [ready] at status
      | confirmed status confirms first => exact .executed rfl here (sets confirms) (inserts first)
      | expired status => simp [ready] at status
      | executed status => simp [ready] at status

theorem story_sets_once {row : Option ActionRecord} {past : List ActionEvent} (story : Story row past)
    (status : ActionStatus) : (past.filter (setsTo status)).length ≤ 1 := by
  have inserted : ∀ {event row}, Inserts event row → setsTo status event = false :=
    fun ⟨_,op,_⟩ => by simp [setsTo,op]
  have set : ∀ {other event row}, Sets other event row → setsTo status event = decide (other = status) :=
    fun ⟨_,_,op,same,_⟩ => by simp [setsTo,op,same]
  cases story with
  | absent => simp
  | prepared _ first => simp [inserted first]
  | confirmed _ second first => by_cases here : ActionStatus.confirmed = status <;>
      simp [inserted first,set second,here]
  | expired _ second first => by_cases here : ActionStatus.expired = status <;>
      simp [inserted first,set second,here]
  | executed _ third second first =>
      cases status <;> simp [inserted first,set second,set third]

-- The read of the target that a confirmation relied on.
def TicketSeen (caller : ActionCall.ConfirmCall) (record : ActionRecord) (event seen : ActionEvent) :
    Prop :=
  seen.thread = event.thread ∧ seen.op = .query (.ticket record.target) ∧
    ∃ row, seen.before.tickets.row record.target = some row ∧
      caller.auth.allowsAccount row.accountId = true ∧
      row.status.value = record.proposedChange.previousStatus

-- What had been checked before a confirmation was written.
def ConfirmChecked (record : ActionRecord) (event : ActionEvent) (older : List ActionEvent) : Prop :=
  ∃ caller, event.call.confirmCall = some caller ∧ caller.actionId = record.actionId ∧
    caller.userId = record.userId ∧ caller.payloadHash = record.payloadHash ∧
    caller.clock.now ≤ record.expiresAt ∧ ∃ seen ∈ older, TicketSeen caller record event seen

-- What every write to the actions table has behind it.
def Warranted (event : ActionEvent) (older : List ActionEvent) : Prop :=
  match event.op with
  | .query _ => True
  | .insertAction record => record.status = .pendingConfirmation ∧ record.Stamped ∧
      event.call.preparer = some record.userId
  | .saveActionIfStatus record expectedStatus =>
      (∀ row, event.before.actions.row record.actionId = some row → row.status = expectedStatus →
        row.Moves record) ∧
      (record.status = .confirmed → ConfirmChecked record event older) ∧
      (record.status = .executed → event.call.mayExecute record)

def AllWarranted : List ActionEvent → Prop
  | [] => True
  | event :: older => Warranted event older ∧ AllWarranted older

theorem warranted_at {newer older : List ActionEvent} {event : ActionEvent}
    (all : AllWarranted (newer ++ event :: older)) : Warranted event older := by
  induction newer with
  | nil => exact all.1
  | cons first rest ih => exact ih all.2

structure HistoryValid (db : Db) (log : List ActionEvent) : Prop where
  stamped : ∀ actionId row, db.actions.row actionId = some row → row.Stamped
  story : ∀ actionId, Story (db.actions.row actionId) (log.filter (landed actionId))
  warranted : AllWarranted log

def Onward (db : Db) (log : List ActionEvent) (later : Db) (longer : List ActionEvent) : Prop :=
  log <:+ longer ∧ ∀ actionId row, db.actions.row actionId = some row →
    ∃ after, later.actions.row actionId = some after ∧ row.Evolves after

theorem onward_refl (db : Db) (log : List ActionEvent) : Onward db log db log :=
  ⟨List.suffix_refl _,fun _ row found => ⟨row,found,.refl⟩⟩

theorem onward_trans {one two three : Db} {log longer longest : List ActionEvent}
    (first : Onward one log two longer) (second : Onward two longer three longest) :
    Onward one log three longest := by
  refine ⟨first.1.trans second.1,fun actionId row found => ?_⟩
  obtain ⟨middle,present,early⟩ := first.2 actionId row found
  obtain ⟨after,still,late⟩ := second.2 actionId middle present
  exact ⟨after,still,early.trans late⟩

-- How one step of anything may treat one row.
inductive RowStep : Option ActionRecord → Option ActionRecord → Prop where
  | same (row : Option ActionRecord) : RowStep row row
  | inserted {row : ActionRecord} (status : row.status = .pendingConfirmation)
      (stamped : row.Stamped) : RowStep none (some row)
  | moved {old new : ActionRecord} (moves : old.Moves new) : RowStep (some old) (some new)

theorem rowStep_stamped {before after : Option ActionRecord} {row : ActionRecord}
    (step : RowStep before after) (stamped : ∀ old, before = some old → old.Stamped)
    (found : after = some row) : row.Stamped := by
  cases step with
  | same => exact stamped row found
  | inserted status fresh =>
      cases Option.some.inj found
      exact fresh
  | moved moves =>
      cases Option.some.inj found
      exact ActionRecord.moves_stamped (stamped _ rfl) moves

theorem rowStep_evolves {before after : Option ActionRecord} {row : ActionRecord}
    (step : RowStep before after) (found : before = some row) :
    ∃ later, after = some later ∧ row.Evolves later := by
  cases step with
  | same => exact ⟨row,found,.refl⟩
  | inserted status fresh => cases found
  | moved moves =>
      cases Option.some.inj found
      exact ⟨_,rfl,.single moves⟩

section Statements

variable [Host] {db : Db} {log : List ActionEvent} {i : Nat} {call : ActionCall} {stmt : Stmt}

theorem saved_step {record : ActionRecord} {expectedStatus : ActionStatus}
    (moves : ∀ row, db.actions.row record.actionId = some row → row.status = expectedStatus →
      row.Moves record) (actionId : String) :
    RowStep (db.actions.row actionId)
      ((Db.exec (.saveActionIfStatus record expectedStatus) db).2.actions.row actionId) := by
  cases lands : (Stmt.saveActionIfStatus record expectedStatus).lands actionId db with
  | false =>
      rw [exec_unmoved lands]
      exact .same _
  | true =>
      simp only [Stmt.lands,Bool.and_eq_true,decide_eq_true_eq,Option.any_eq_true] at lands
      obtain ⟨rfl,row,found,status⟩ := lands
      rw [exec_saved found status,found,ActionRecord.moves_overwrite (moves row found status)]
      exact .moved (moves row found status)

theorem row_step (warranted : Warranted ⟨i,call,stmt,db⟩ log) (actionId : String) :
    RowStep (db.actions.row actionId) ((Db.exec stmt db).2.actions.row actionId) := by
  cases stmt with
  | query select => exact .same _
  | insertAction record =>
      cases lands : (Stmt.insertAction record).lands actionId db with
      | false =>
          rw [exec_unmoved lands]
          exact .same _
      | true =>
          simp only [Stmt.lands,Bool.and_eq_true,decide_eq_true_eq,Option.isNone_iff_eq_none] at lands
          obtain ⟨rfl,fresh⟩ := lands
          rw [exec_inserted fresh,fresh]
          exact .inserted warranted.1 warranted.2.1
  | saveActionIfStatus record expectedStatus => exact saved_step warranted.1 actionId

theorem statement_story (warranted : Warranted ⟨i,call,stmt,db⟩ log) (actionId : String)
    (story : Story (db.actions.row actionId) (log.filter (landed actionId))) :
    Story ((Db.exec stmt db).2.actions.row actionId)
      ((⟨i,call,stmt,db⟩ :: log : List ActionEvent).filter (landed actionId)) := by
  cases lands : stmt.lands actionId db with
  | false =>
      rw [exec_unmoved lands,List.filter_cons_of_neg (by simp [landed,lands])]
      exact story
  | true =>
      rw [List.filter_cons_of_pos (by simp [landed,lands])]
      cases stmt with
      | query select => cases lands
      | insertAction record =>
          simp only [Stmt.lands,Bool.and_eq_true,decide_eq_true_eq,Option.isNone_iff_eq_none] at lands
          obtain ⟨rfl,fresh⟩ := lands
          rw [fresh] at story
          rw [exec_inserted fresh]
          generalize log.filter (landed record.actionId) = past at story
          cases story
          exact .prepared warranted.1 ⟨record,rfl,rfl⟩
      | saveActionIfStatus record expectedStatus =>
          simp only [Stmt.lands,Bool.and_eq_true,decide_eq_true_eq,Option.any_eq_true] at lands
          obtain ⟨rfl,row,found,status⟩ := lands
          have moves := warranted.1 row found status
          rw [exec_saved found status,ActionRecord.moves_overwrite moves]
          rw [found] at story
          exact story_moves story moves rfl

theorem statement_valid (valid : HistoryValid db log) (warranted : Warranted ⟨i,call,stmt,db⟩ log) :
    HistoryValid (Db.exec stmt db).2 (⟨i,call,stmt,db⟩ :: log) ∧
      Onward db log (Db.exec stmt db).2 (⟨i,call,stmt,db⟩ :: log) := by
  refine ⟨⟨?_,?_,warranted,valid.warranted⟩,List.suffix_cons _ _,?_⟩
  · intro actionId row found
    exact rowStep_stamped (row_step warranted actionId) (valid.stamped actionId) found
  · intro actionId
    exact statement_story warranted actionId (valid.story actionId)
  · intro actionId row found
    exact rowStep_evolves (row_step warranted actionId) found

end Statements

theorem initial_valid {start : Db} (empty : start.actions = Table.empty) : HistoryValid start [] := by
  refine ⟨fun actionId row found => ?_,fun actionId => ?_,trivial⟩
  · rw [empty] at found
    cases found
  · rw [empty]
    exact .absent

section Systems

variable [Host]

-- The system of the claims: calls of the admitted kinds, and outsiders who may
-- change anything except the actions table.
def actionSystem (admits : ActionCall → Prop) :
    Interleaving.System Stmt Stmt.Answer Db ActionCall (Except PyError ActionOutcome) where
  step := Db.exec
  script := ActionCall.script
  admits := admits
  outside db later := later.actions = db.actions

def actionProtocol (admits : ActionCall → Prop) : Interleaving.Protocol (actionSystem admits) where
  inv := HistoryValid
  onward := Onward
  refl := onward_refl
  trans := onward_trans
  outside := by
    intro db later log valid same
    refine ⟨⟨?_,?_,valid.warranted⟩,List.suffix_refl _,?_⟩
    · intro actionId row found
      rw [same] at found
      exact valid.stamped actionId row found
    · intro actionId
      rw [same]
      exact valid.story actionId
    · intro actionId row found
      rw [same]
      exact ⟨row,found,.refl⟩

end Systems

end ParcelPilot
