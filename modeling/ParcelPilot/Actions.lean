import ParcelPilot.Sla

namespace ParcelPilot

-- Every statement the action workflow issues; each is one atomic step.
inductive Stmt where
  | query (select : Select)
  | insertAction (record : ActionRecord)
  | saveActionIfStatus (record : ActionRecord) (expectedStatus : ActionStatus)

def Stmt.Answer : Stmt → Type
  | .query select => select.Answer
  -- whether the row was accepted
  | .insertAction _ => Bool
  -- whether `rowcount == 1`
  | .saveActionIfStatus .. => Bool

-- What the conditional UPDATE sets.
def ActionRecord.overwrite (row record : ActionRecord) : ActionRecord := {row with
  status := record.status, confirmedAt := record.confirmedAt, executedAt := record.executedAt
  failureReason := record.failureReason}

def ActionRecord.isAt (row : ActionRecord) (actionId : String) (status : ActionStatus) : Bool :=
  row.actionId = actionId && row.status = status

theorem ActionRecord.overwrite_actionId (row record : ActionRecord) :
    (row.overwrite record).actionId = row.actionId := rfl

-- UPDATE actions SET ... WHERE action_id = ? AND status = ?
def savedActions (actions : Table ActionRecord.actionId) (record : ActionRecord)
    (expectedStatus : ActionStatus) : Table ActionRecord.actionId :=
  actions.update (·.isAt record.actionId expectedStatus) (·.overwrite record)
    (·.overwrite_actionId record)

theorem savedActions_row (actions : Table ActionRecord.actionId) (record : ActionRecord)
    (expectedStatus : ActionStatus) (actionId : String) :
    (savedActions actions record expectedStatus).row actionId =
      (actions.row actionId).map fun row =>
        if row.isAt record.actionId expectedStatus then row.overwrite record else row :=
  Table.update_row _ _ _ _ _

def Db.exec [Host] : (stmt : Stmt) → Db → stmt.Answer × Db
  | .query select,db => (db.answer select,db)
  | .insertAction record,db =>
      match db.actions.insert record with
      | none => (false,db)
      | some actions => (true,{db with actions := actions})
  | .saveActionIfStatus record expectedStatus,db =>
      (db.actions.rows.any (·.isAt record.actionId expectedStatus),
        {db with actions := savedActions db.actions record expectedStatus})

abbrev Action := Fallible PyError Stmt Stmt.Answer

def statement (stmt : Stmt) : Action stmt.Answer := Fallible.ask stmt

def reading (query : Query α) : Action α := Fallible.embed .query (fun _ answer => answer) query

def raising : Except PyError α → Action α
  | .ok value => pure value
  | .error error => throw error

-- app/actions/models.py
structure ActionOutcome where
  success : Bool
  record : Option ActionRecord := none
  errorCode : Option String := none
  errorMessage : Option String := none
deriving DecidableEq

def accepted (record : ActionRecord) : ActionOutcome where
  success := true
  record := some record

def refused (record : Option ActionRecord) (errorCode errorMessage : String) : ActionOutcome where
  success := false
  record := record
  errorCode := some errorCode
  errorMessage := some errorMessage

-- app/actions/store.py
def insertAction (record : ActionRecord) : Action Unit := do
  match ← statement (.insertAction record) with
  | true => pure ()
  | false => throw (.integrityError "UNIQUE constraint failed: actions.action_id")

def getAction (actionId : String) : Action (Option ActionRecord) :=
  statement (.query (.action actionId))

def saveActionIfStatus (record : ActionRecord) (expectedStatus : ActionStatus) : Action Bool :=
  statement (.saveActionIfStatus record expectedStatus)

-- app/actions/workflow.py
def actionExpiryMinutes : Int := 15

-- the three `model_copy(update=...)`
def ActionRecord.expired (record : ActionRecord) : ActionRecord :=
  {record with status := .expired, failureReason := some "confirmation window expired"}

def ActionRecord.confirmed (record : ActionRecord) (now : DateTime) : ActionRecord :=
  {record with status := .confirmed, confirmedAt := some now}

def ActionRecord.executed (record : ActionRecord) (now : DateTime) : ActionRecord :=
  {record with status := .executed, executedAt := some now}

section Workflow

variable [Host]

-- `json.dumps({...}, sort_keys=True)`
def payloadJson (actionType : ActionType) (target : String) (change : ProposedChange) : String :=
  "\x7b\"action_type\": " ++ Py.jsonString actionType.value ++
  ", \"proposed_change\": \x7b\"new_priority\": " ++ Py.jsonString change.newPriority ++
  ", \"previous_status\": " ++ Py.jsonString change.previousStatus ++
  ", \"severity\": " ++ Py.jsonString change.severity ++
  ", \"sla_breached\": " ++ (if change.slaBreached then "true" else "false") ++
  "\x7d, \"target\": " ++ Py.jsonString target ++ "\x7d"

def payloadHash (actionType : ActionType) (target : String) (change : ProposedChange) : String :=
  Host.sha256Hex (payloadJson actionType target change)

-- `f"ACT-{uuid.uuid4().hex[:12]}"`
def newActionId (uuidHex : String) : String := "ACT-" ++ Py.truncate 12 uuidHex

-- `severity is not Severity.P1 and not breached`, negated
def SlaOutcome.escalates (outcome : SlaOutcome) : Bool :=
  outcome.severity = .p1 || outcome.breached = some true

def escalationRecord (ticket : Ticket) (ticketId reason : String) (outcome : SlaOutcome)
    (slaEvidence : List EvidenceRef) (userId requestId uuidHex : String) (now expiresAt : DateTime) :
    ActionRecord :=
  let change : ProposedChange :=
    ⟨"escalated",ticket.status.value,outcome.severity.value,outcome.breached = some true⟩
  { actionId := newActionId uuidHex
    requestId := requestId
    userId := userId
    actionType := .prepareEscalation
    target := ticketId
    proposedChange := change
    reason := reason
    evidence := citeStructured "tickets" ticketId :: slaEvidence
    risk := if outcome.severity = .p1 then "high" else "medium"
    payloadHash := payloadHash .prepareEscalation ticketId change
    status := .pendingConfirmation
    preparedAt := now
    expiresAt := expiresAt
    confirmedAt := none
    executedAt := none
    idempotencyKey := newActionId uuidHex
    failureReason := none }

def prepareEscalation (ticketId reason : String) (auth : AuthContext) (clock : SnapshotClock)
    (userId requestId : String) (registry : Registry) (uuidHex : String) : Action ActionOutcome := do
  match ← reading (Fallible.attempt (getTicket ticketId auth clock.tz)) with
  | .error (.notAuthorized why) =>
      pure (refused none "not_authorized" (PyError.notAuthorized why).message)
  | .error (.unknownEntity entityType entityId) =>
      pure (refused none "not_found" (PyError.unknownEntity entityType entityId).message)
  | .error error => throw error
  | .ok ticket =>
      if ticket.status ≠ .open_ then
        pure (refused none "invalid_target_state" ("ticket " ++ ticketId ++ " is " ++
          ticket.status.value ++ ", not open - nothing to escalate"))
      else
        let slaResult ← reading (calculateSla ticketId auth clock registry)
        match slaResult.result with
        | none =>
            pure (refused none "cannot_determine_eligibility" ("severity for " ++ ticketId ++
              " could not be determined confidently enough to justify escalation"))
        | some outcome =>
            if outcome.escalates then
              let expiresAt ← raising (clock.now.plusMinutes actionExpiryMinutes)
              let record := escalationRecord ticket ticketId reason outcome slaResult.evidence userId
                requestId uuidHex clock.now expiresAt
              insertAction record
              pure (accepted record)
            else
              pure (refused none "not_escalation_eligible" (ticketId ++ " is " ++
                outcome.severity.value ++ " and not SLA-breached - does not meet " ++
                "the deterministic escalation bar (P1 or breached)"))

-- Another call moved the row in between: report where it stands now.
def wrongStateOutcome (actionId verb : String) : Action ActionOutcome := do
  match ← getAction actionId with
  | none => throw .assertionError
  | some current =>
      pure (refused (some current) "wrong_state" ("action " ++ actionId ++ " is " ++
        current.status.value ++ " - cannot " ++ verb ++
        " (a concurrent request already changed its state)"))

def confirmAction (actionId payloadHash : String) (auth : AuthContext) (clock : SnapshotClock)
    (userId : String) : Action ActionOutcome := do
  match ← getAction actionId with
  | none => pure (refused none "not_found" ("no action " ++ actionId))
  | some record =>
      if record.status ≠ .pendingConfirmation then
        pure (refused (some record) "wrong_state" ("action " ++ actionId ++ " is " ++
          record.status.value ++ ", not PENDING_CONFIRMATION - cannot confirm"))
      else if record.expiresAt < clock.now then
        if ← saveActionIfStatus record.expired .pendingConfirmation then
          pure (refused (some record.expired) "expired" "action expired before confirmation")
        else wrongStateOutcome actionId "confirm"
      else if record.userId ≠ userId then
        pure (refused (some record) "wrong_user" "only the user who prepared this action may confirm it")
      else if payloadHash ≠ record.payloadHash then
        pure (refused (some record) "payload_mismatch"
          "the confirmed payload does not match what was prepared - refusing")
      else
        match ← reading (Fallible.attempt (getTicket record.target auth clock.tz)) with
        | .error (.notAuthorized why) =>
            pure (refused (some record) "not_authorized" (PyError.notAuthorized why).message)
        | .error (.unknownEntity entityType entityId) =>
            pure (refused (some record) "target_invalid"
              (PyError.unknownEntity entityType entityId).message)
        | .error error => throw error
        | .ok ticket =>
            if ticket.status.value ≠ record.proposedChange.previousStatus then
              pure (refused (some record) "target_state_changed" ("ticket " ++ record.target ++
                "'s status changed since this action was prepared"))
            else
              if ← saveActionIfStatus (record.confirmed clock.now) .pendingConfirmation then
                pure (accepted (record.confirmed clock.now))
              else wrongStateOutcome actionId "confirm"

def executeAction (actionId : String) (clock : SnapshotClock) : Action ActionOutcome := do
  match ← getAction actionId with
  | none => pure (refused none "not_found" ("no action " ++ actionId))
  | some record =>
      -- idempotent no-op
      if record.status = .executed then pure (accepted record)
      else if record.status ≠ .confirmed then
        pure (refused (some record) "wrong_state" ("action " ++ actionId ++ " is " ++
          record.status.value ++ ", not CONFIRMED"))
      else
        if ← saveActionIfStatus (record.executed clock.now) .confirmed then
          pure (accepted (record.executed clock.now))
        else
          match ← getAction actionId with
          | none => throw .assertionError
          | some current => pure (accepted current)

end Workflow

-- One call on its own, from first statement to last.
def Action.on [Host] (action : Action α) (db : Db) : Except PyError α × Db :=
  Fallible.perform Db.exec action db

section Alone

variable [Host] {db : Db}

@[simp] theorem alone_pure (value : α) : Action.on (pure value : Action α) db = (.ok value,db) := rfl

@[simp] theorem alone_throw (error : PyError) :
    Action.on (throw error : Action α) db = (.error error,db) := rfl

@[simp] theorem alone_statement (stmt : Stmt) :
    (statement stmt).on db = (.ok (Db.exec stmt db).1,(Db.exec stmt db).2) := rfl

@[simp] theorem alone_reading (query : Query α) : (reading query).on db = (query.on db,db) :=
  Fallible.perform_embed (fun _ _ => rfl) query

@[simp] theorem alone_raising (result : Except PyError α) :
    (raising result).on db = (result,db) := by
  cases result <;> rfl

theorem alone_bind (action : Action α) (rest : α → Action β) :
    (action >>= rest).on db = match action.on db with
      | (.ok value,after) => (rest value).on after
      | (.error error,after) => (.error error,after) := by
  unfold Action.on
  rw [Fallible.perform_bind]
  rcases Fallible.perform Db.exec action db with ⟨_ | _,_⟩ <;> rfl

theorem alone_then {action : Action α} {rest : α → Action β} (first : action.on db = (.ok value,after)) :
    (action >>= rest).on db = (rest value).on after := by
  rw [alone_bind,first]

theorem alone_raised {action : Action α} {rest : α → Action β}
    (first : action.on db = (.error error,after)) : (action >>= rest).on db = (.error error,after) := by
  rw [alone_bind,first]

theorem getAction_alone (actionId : String) :
    (getAction actionId).on db = (.ok (db.actions.row actionId),db) := rfl

theorem saveActionIfStatus_alone (record : ActionRecord) (expectedStatus : ActionStatus) :
    (saveActionIfStatus record expectedStatus).on db =
      (.ok (db.actions.rows.any (·.isAt record.actionId expectedStatus)),
        {db with actions := savedActions db.actions record expectedStatus}) := rfl

theorem insertAction_alone (db : Db) (record : ActionRecord)
    (fresh : db.actions.row record.actionId = none) :
    ∃ after, (insertAction record).on db = (.ok (),after) := by
  obtain ⟨actions,inserted⟩ := Table.insert_of_fresh fresh
  refine ⟨{db with actions := actions},?_⟩
  unfold insertAction
  rw [alone_then (alone_statement _)]
  simp only [Db.exec,inserted]
  rfl

theorem insertAction_taken (db : Db) (record : ActionRecord)
    (taken : db.actions.row record.actionId ≠ none) :
    (insertAction record).on db =
      (.error (.integrityError "UNIQUE constraint failed: actions.action_id"),db) := by
  have refusal : db.actions.insert record = none := by simp [Table.insert,taken]
  unfold insertAction
  rw [alone_then (alone_statement _)]
  simp only [Db.exec,refusal]
  rfl

theorem alone_ok {action : Action α} {rest : α → Action β}
    (ran : ((action >>= rest).on db).1 = .ok value) :
    ∃ middle after, action.on db = (.ok middle,after) ∧ ((rest middle).on after).1 = .ok value := by
  rw [alone_bind] at ran
  rcases first : action.on db with ⟨error | middle,after⟩
  · simp [first] at ran
  · exact ⟨middle,after,rfl,by simpa [first] using ran⟩

-- What a call can return, whatever the store.
def Ensures (action : Action α) (post : α → Prop) : Prop :=
  ∀ db value, (action.on db).1 = .ok value → post value

theorem ensures_pure {value : α} {post : α → Prop} (holds : post value) :
    Ensures (pure value : Action α) post := by
  intro db other ran
  cases ran
  exact holds

theorem ensures_throw {error : PyError} {post : α → Prop} :
    Ensures (throw error : Action α) post := by
  intro db other ran
  cases ran

theorem ensures_bind {action : Action α} {rest : α → Action β} {middle : α → Prop}
    {post : β → Prop} (first : Ensures action middle)
    (second : ∀ value, middle value → Ensures (rest value) post) : Ensures (action >>= rest) post := by
  intro db value ran
  obtain ⟨step,after,began,ended⟩ := alone_ok ran
  exact second step (first db step (by rw [began])) after value ended

theorem ensures_any (action : Action α) : Ensures action (fun _ => True) := fun _ _ _ => trivial

theorem ensures_getAction (actionId : String) :
    Ensures (getAction actionId) (fun found => ∀ record, found = some record →
      record.actionId = actionId) := by
  intro db found ran record hit
  rw [getAction_alone] at ran
  cases Except.ok.inj ran
  exact Table.row_key hit

end Alone

end ParcelPilot
