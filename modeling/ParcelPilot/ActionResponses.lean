import ParcelPilot.ActionLifecycle

namespace ParcelPilot

open Interleaving

namespace ActionRecord

variable {old new row record : ActionRecord}

theorem evolves_proposal (evolves : old.Evolves new) : new.proposal = old.proposal := by
  induction evolves with
  | refl => rfl
  | tail _ moves ih => exact (moves_proposal moves).trans ih

theorem evolves_left_pending (evolves : old.Evolves new) (left : old.status ≠ .pendingConfirmation) :
    new.status ≠ .pendingConfirmation := by
  intro pending
  rcases evolves_rank evolves with rfl | less
  · exact left pending
  · rw [pending] at less
    simp [rank] at less

theorem evolves_executed (evolves : old.Evolves new) (executed : old.status = .executed) :
    new = old := by
  rcases Relation.ReflTransGen.cases_head evolves with same | ⟨next,moves,_⟩
  · exact same.symm
  · cases moves with
    | confirm pending => simp [executed] at pending
    | expire pending => simp [executed] at pending
    | execute confirmed => simp [executed] at confirmed

theorem evolves_confirmed (evolves : old.Evolves new) (confirmed : old.status = .confirmed)
    (left : new.status ≠ .confirmed) : new.status = .executed := by
  rcases Relation.ReflTransGen.cases_head evolves with rfl | ⟨next,moves,later⟩
  · exact absurd confirmed left
  · cases moves with
    | confirm pending => simp [confirmed] at pending
    | expire pending => simp [confirmed] at pending
    | execute _ now => rw [evolves_executed later rfl]; rfl

end ActionRecord

def confirmations (actionId : String) (log : List ActionEvent) : List ActionEvent :=
  log.filter fun event => landed actionId event && setsTo .confirmed event

-- Whatever the table held at first, an action is confirmed once and then never
-- pending again.
structure ConfirmedOnce (db : Db) (log : List ActionEvent) : Prop where
  once : ∀ actionId, (confirmations actionId log).length ≤ 1
  left : ∀ actionId, confirmations actionId log ≠ [] →
    ∃ row, db.actions.row actionId = some row ∧ row.status ≠ .pendingConfirmation

section Protocols

variable [Host] {admits : ActionCall → Prop} {kept : ActionRecord → Prop} {i : Nat}
  {call : ActionCall} {db : Db} {log : List ActionEvent} {record : ActionRecord}
  {expectedStatus : ActionStatus}

-- The protocol of the responses; `kept` is anything else that every row keeps.
def responseProtocol (admits : ActionCall → Prop) (kept : ActionRecord → Prop) :
    Protocol (actionSystem admits) where
  inv db log := (∀ actionId row, db.actions.row actionId = some row → kept row) ∧ ConfirmedOnce db log
  onward := Onward
  refl := onward_refl
  trans := onward_trans
  outside := by
    intro db later log valid same
    have rows : later.actions = db.actions := same
    refine ⟨⟨?_,valid.2.once,?_⟩,List.suffix_refl _,?_⟩
    · rw [rows]
      exact valid.1
    · rw [rows]
      exact valid.2.left
    · intro actionId row found
      rw [rows]
      exact ⟨row,found,.refl⟩

theorem responses_read : Reads (responseProtocol admits kept) := by
  intro i call select db log valid
  have same (actionId : String) :
      confirmations actionId (⟨i,call,.query select,db⟩ :: log) = confirmations actionId log :=
    List.filter_cons_of_neg (by simp [setsTo])
  refine ⟨⟨valid.1,fun actionId => ?_,fun actionId => ?_⟩,List.suffix_cons _ _,
    fun _ row found => ⟨row,found,.refl⟩⟩
  · rw [same]
    exact valid.2.once actionId
  · rw [same]
    exact valid.2.left actionId

theorem inserted_row {actionId : String} {row : ActionRecord}
    (found : db.actions.row actionId = some row) :
    (Db.exec (.insertAction record) db).2.actions.row actionId = some row := by
  rw [exec_unmoved (by simp [Stmt.lands,found])]
  exact found

theorem insert_rows {actionId : String} {row : ActionRecord}
    (found : (Db.exec (.insertAction record) db).2.actions.row actionId = some row) :
    row = record ∨ db.actions.row actionId = some row := by
  cases lands : (Stmt.insertAction record).lands actionId db with
  | false =>
      rw [exec_unmoved lands] at found
      exact .inr found
  | true =>
      simp only [Stmt.lands,Bool.and_eq_true,decide_eq_true_eq,Option.isNone_iff_eq_none] at lands
      obtain ⟨rfl,fresh⟩ := lands
      rw [exec_inserted fresh] at found
      exact .inl (Option.some.inj found).symm

theorem responses_insert (proposed : kept record)
    (valid : (responseProtocol admits kept).inv db log) :
    Bears (responseProtocol admits kept) i call (.insertAction record) db log := by
  have same (actionId : String) :
      confirmations actionId (⟨i,call,.insertAction record,db⟩ :: log) = confirmations actionId log :=
    List.filter_cons_of_neg (by simp [setsTo])
  refine ⟨⟨?_,fun actionId => ?_,fun actionId some_ => ?_⟩,List.suffix_cons _ _,
    fun _ row found => ⟨row,inserted_row found,.refl⟩⟩
  · intro actionId row found
    rcases insert_rows found with rfl | old
    · exact proposed
    · exact valid.1 actionId row old
  · rw [same]
    exact valid.2.once actionId
  · rw [same] at some_
    obtain ⟨row,found,left⟩ := valid.2.left actionId some_
    exact ⟨row,inserted_row found,left⟩

theorem responses_save (closed : ∀ row record, kept row → kept (row.overwrite record))
    (moves : ∀ row, db.actions.row record.actionId = some row → row.status = expectedStatus →
      row.Moves record)
    (valid : (responseProtocol admits kept).inv db log) :
    Bears (responseProtocol admits kept) i call (.saveActionIfStatus record expectedStatus) db log := by
  have evolves {actionId : String} {row : ActionRecord} (found : db.actions.row actionId = some row) :=
    rowStep_evolves (saved_step moves actionId) found
  have onward : Onward db log (Db.exec (.saveActionIfStatus record expectedStatus) db).2
      (⟨i,call,.saveActionIfStatus record expectedStatus,db⟩ :: log) :=
    ⟨List.suffix_cons _ _,fun _ _ found => evolves found⟩
  refine ⟨⟨?_,?_⟩,onward⟩
  · intro actionId row found
    simp only [Db.exec,savedActions_row] at found
    obtain ⟨old,present,rfl⟩ := Option.map_eq_some_iff.mp found
    split
    · exact closed old record (valid.1 actionId old present)
    · exact valid.1 actionId old present
  · -- the first confirmation finds the row pending, and none has been before
    have first (actionId : String)
        (lands : landed actionId ⟨i,call,.saveActionIfStatus record expectedStatus,db⟩ = true)
        (sets : record.status = .confirmed) : confirmations actionId log = [] ∧
          ∃ row, (Db.exec (.saveActionIfStatus record expectedStatus) db).2.actions.row actionId =
            some row ∧ row.status ≠ .pendingConfirmation := by
      simp only [landed,Stmt.lands,Bool.and_eq_true,decide_eq_true_eq,Option.any_eq_true] at lands
      obtain ⟨rfl,row,found,status⟩ := lands
      have moved := moves row found status
      refine ⟨?_,record,?_,by simp [sets]⟩
      · by_contra some_
        obtain ⟨other,present,left⟩ := valid.2.left _ some_
        cases Option.some.inj (found.symm.trans present)
        cases moved with
        | confirm pending => exact left pending
        | expire pending => exact left pending
        | execute => cases sets
      · rw [exec_saved found status,ActionRecord.moves_overwrite moved]
    refine ⟨fun actionId => ?_,fun actionId some_ => ?_⟩
    · by_cases here : landed actionId ⟨i,call,.saveActionIfStatus record expectedStatus,db⟩ = true ∧
          record.status = .confirmed
      · rw [confirmations,List.filter_cons_of_pos (by simp [setsTo,here.1,here.2]),
          show log.filter _ = [] from (first actionId here.1 here.2).1]
        exact Nat.le_refl 1
      · rw [confirmations,List.filter_cons_of_neg (by simpa [setsTo] using here)]
        exact valid.2.once actionId
    · by_cases here : landed actionId ⟨i,call,.saveActionIfStatus record expectedStatus,db⟩ = true ∧
          record.status = .confirmed
      · exact (first actionId here.1 here.2).2
      · rw [confirmations,List.filter_cons_of_neg (by simpa [setsTo] using here)] at some_
        obtain ⟨row,found,left⟩ := valid.2.left actionId some_
        obtain ⟨after,present,later⟩ := evolves found
        exact ⟨after,present,ActionRecord.evolves_left_pending later left⟩

theorem save_lost {row : ActionRecord} (found : db.actions.row record.actionId = some row)
    (lost : (Db.exec (.saveActionIfStatus record expectedStatus) db).1 = false) :
    row.status ≠ expectedStatus ∧
      (Db.exec (.saveActionIfStatus record expectedStatus) db).2.actions.row record.actionId =
        some row := by
  obtain ⟨member,key⟩ := Table.row_eq_some.mp found
  have other : row.status ≠ expectedStatus := by
    intro status
    have met : (Db.exec (.saveActionIfStatus record expectedStatus) db).1 = true :=
      List.any_eq_true.mpr ⟨row,member,by simp [ActionRecord.isAt,key,status]⟩
    rw [lost] at met
    cases met
  refine ⟨other,?_⟩
  rw [exec_unmoved (by simp [Stmt.lands,found,other])]
  exact found

theorem save_won {row : ActionRecord} (found : db.actions.row record.actionId = some row)
    (won : (Db.exec (.saveActionIfStatus record expectedStatus) db).1 = true) :
    row.status = expectedStatus := by
  obtain ⟨other,member,here⟩ := List.any_eq_true.mp won
  simp only [ActionRecord.isAt,Bool.and_eq_true,decide_eq_true_eq] at here
  cases Option.some.inj (found.symm.trans (Table.row_eq_some.mpr ⟨member,here.1⟩))
  exact here.2

end Protocols

def ActionCall.executeTarget : ActionCall → Option String
  | .executeAction actionId _ => some actionId
  | .executeRoute body _ _ => some body.actionId
  | _ => none

-- A success is an update of this call that landed, and a refusal for the state
-- shows another state.
structure ConfirmTold (i : Nat) (call : ActionCall) (caller : ActionCall.ConfirmCall)
    (outcome : ActionOutcome) (db : Db) (log : List ActionEvent) : Prop where
  success : outcome.success = true →
    (∃ event ∈ confirmations caller.actionId log, event.thread = i ∧ event.call = call) ∧
    ∃ record row : ActionRecord, outcome.record = some (record.confirmed caller.clock.now) ∧
      record.payloadHash = caller.payloadHash ∧
      db.actions.row caller.actionId = some row ∧ row.proposal = record.proposal
  wrongState : outcome.errorCode = some "wrong_state" →
    ∃ record, outcome.record = some record ∧ record.status ≠ .pendingConfirmation

-- A success shows the row as it stands, and it stands at EXECUTED.
def ExecuteTold (actionId : String) (outcome : ActionOutcome) (db : Db) : Prop :=
  outcome.success = true → ∃ record, outcome.record = some record ∧ record.status = .executed ∧
    db.actions.row actionId = some record

def ConfirmResult (i : Nat) (call : ActionCall) (caller : ActionCall.ConfirmCall)
    (result : Except PyError ActionOutcome) (db : Db) (log : List ActionEvent) : Prop :=
  ∀ outcome, result = .ok outcome → ConfirmTold i call caller outcome db log

def ExecuteResult (actionId : String) (result : Except PyError ActionOutcome) (db : Db)
    (_ : List ActionEvent) : Prop :=
  ∀ outcome, result = .ok outcome → ExecuteTold actionId outcome db

section Calls

variable [Host] {admits : ActionCall → Prop} {kept : ActionRecord → Prop} {i : Nat}
  {call : ActionCall} {db : Db} {log : List ActionEvent}

omit [Host] in
theorem confirmResult_error {caller : ActionCall.ConfirmCall} (error : PyError) (s : Db)
    (l : List ActionEvent) : ConfirmResult i call caller (.error error) s l := by
  intro outcome result
  cases result

omit [Host] in
theorem executeResult_error {actionId : String} (error : PyError) (s : Db) (l : List ActionEvent) :
    ExecuteResult actionId (.error error) s l := by
  intro outcome result
  cases result

theorem told_refused {caller : ActionCall.ConfirmCall} {record : Option ActionRecord}
    {code message : String} (other : code ≠ "wrong_state") :
    Runs (responseProtocol admits kept) i call (pure (refused record code message))
      (ConfirmResult i call caller) db log := by
  refine runs_result fun s l _ _ outcome result => ?_
  cases result
  exact ⟨fun success => Bool.noConfusion success,fun named => absurd (Option.some.inj named) other⟩

theorem told_elsewhere {caller : ActionCall.ConfirmCall} {record : ActionRecord} {message : String}
    (left : record.status ≠ .pendingConfirmation) :
    Runs (responseProtocol admits kept) i call (pure (refused (some record) "wrong_state" message))
      (ConfirmResult i call caller) db log := by
  refine runs_result fun s l _ _ outcome result => ?_
  cases result
  exact ⟨fun success => Bool.noConfusion success,fun _ => ⟨record,rfl,left⟩⟩

theorem wrongState_told {caller : ActionCall.ConfirmCall} {row : ActionRecord} {verb : String}
    (found : db.actions.row caller.actionId = some row) (left : row.status ≠ .pendingConfirmation) :
    Runs (responseProtocol admits kept) i call (wrongStateOutcome caller.actionId verb)
      (ConfirmResult i call caller) db log := by
  refine runs_getAction responses_read fun s l moved _ => ?_
  obtain ⟨after,present,evolves⟩ := moved.2 _ row found
  rw [present]
  exact told_elsewhere (ActionRecord.evolves_left_pending evolves left)

-- A conditional UPDATE of a row read before: it finds the row as it was read, or
-- the row has left the state.
theorem save_told (closed : ∀ row record, kept row → kept (row.overwrite record))
    {caller : ActionCall.ConfirmCall} {record saved : ActionRecord} {outcome : ActionOutcome}
    (read : before.actions.row caller.actionId = some record)
    (pending : record.status = .pendingConfirmation) (moves : record.Moves saved)
    (since : Onward before past db log)
    (won : ∀ s l, landed caller.actionId ⟨i,call,.saveActionIfStatus saved .pendingConfirmation,s⟩ =
        true →
      (Db.exec (.saveActionIfStatus saved .pendingConfirmation) s).2.actions.row caller.actionId =
        some saved →
      Runs (responseProtocol admits kept) i call (pure outcome) (ConfirmResult i call caller)
        (Db.exec (.saveActionIfStatus saved .pendingConfirmation) s).2
        (⟨i,call,.saveActionIfStatus saved .pendingConfirmation,s⟩ :: l)) :
    Runs (responseProtocol admits kept) i call (do
      if ← saveActionIfStatus saved .pendingConfirmation then pure outcome
      else wrongStateOutcome caller.actionId "confirm") (ConfirmResult i call caller) db log := by
  have key : saved.actionId = caller.actionId := by
    rw [← Table.row_key read]
    exact congrArg (fun r => r.actionId) (ActionRecord.moves_proposal moves)
  refine runs_statement fun s l moved valid => ?_
  obtain ⟨row,found,evolves⟩ := (onward_trans since moved).2 _ record read
  rw [← key] at found
  have same (status : row.status = .pendingConfirmation) : record = row :=
    ActionRecord.evolves_same_status evolves (status.trans pending.symm)
  refine ⟨responses_save closed (fun other there status => ?_) valid,?_⟩
  · cases Option.some.inj (found.symm.trans there)
    rw [← same status]
    exact moves
  · cases ended : (Db.exec (.saveActionIfStatus saved .pendingConfirmation) s).1 with
    | false =>
        obtain ⟨left,still⟩ := save_lost found ended
        rw [key] at still
        exact wrongState_told still left
    | true =>
        have status := save_won found ended
        refine won s l ?_ ?_
        · rw [← key]
          exact saved_lands ended
        · rw [← key,exec_saved found status,← same status,ActionRecord.moves_overwrite moves]

theorem confirm_told (closed : ∀ row record, kept row → kept (row.overwrite record))
    (caller : ActionCall.ConfirmCall) :
    Runs (responseProtocol admits kept) i call
      (confirmAction caller.actionId caller.payloadHash caller.auth caller.clock caller.userId)
      (ConfirmResult i call caller) db log := by
  refine runs_getAction responses_read fun s₀ l₀ _ _ => ?_
  cases read : s₀.actions.row caller.actionId with
  | none => exact told_refused (by decide)
  | some record =>
      dsimp only
      split
      · rename_i elsewhere
        exact told_elsewhere elsewhere
      · rename_i notMoved
        have pending : record.status = .pendingConfirmation := not_not.mp notMoved
        split
        · exact save_told closed read pending (.expire pending) (onward_refl _ _)
            fun _ _ _ _ => told_refused (by decide)
        · split
          · exact told_refused (by decide)
          · split
            · exact told_refused (by decide)
            · rename_i samePayload
              refine runs_getTicket responses_read fun s₁ l₁ moved₁ _ => ?_
              split
              · exact told_refused (by decide)
              · exact told_refused (by decide)
              · exact runs_error confirmResult_error
              · split
                · exact told_refused (by decide)
                · have since : Onward s₀ _ s₁ (⟨i,call,.query (.ticket record.target),s₁⟩ :: l₁) :=
                    onward_trans moved₁ ⟨List.suffix_cons _ _,(onward_refl s₁ l₁).2⟩
                  refine save_told closed read pending (.confirm pending caller.clock.now) since ?_
                  intro s l lands stands
                  refine runs_result fun later longer moved _ outcome result => ?_
                  cases result
                  obtain ⟨row,present,evolves⟩ := moved.2 _ _ stands
                  refine ⟨fun _ => ⟨⟨⟨i,call,.saveActionIfStatus (record.confirmed caller.clock.now)
                    .pendingConfirmation,s⟩,?_,rfl,rfl⟩,record,row,rfl,(not_not.mp samePayload).symm,
                    present,?_⟩,fun named => by cases named⟩
                  · refine List.mem_filter.mpr ⟨moved.1.subset List.mem_cons_self,?_⟩
                    rw [lands]
                    rfl
                  · exact (ActionRecord.evolves_proposal evolves).trans
                      (ActionRecord.moves_proposal (.confirm pending caller.clock.now))

theorem executed_told {actionId : String} {record : ActionRecord}
    (stands : db.actions.row actionId = some record) (executed : record.status = .executed) :
    Runs (responseProtocol admits kept) i call (pure (accepted record)) (ExecuteResult actionId) db
      log := by
  refine runs_result fun s l moved _ outcome result _ => ?_
  cases result
  obtain ⟨after,present,evolves⟩ := moved.2 _ record stands
  rw [ActionRecord.evolves_executed evolves executed] at present
  exact ⟨record,rfl,executed,present⟩

theorem execute_told (closed : ∀ row record, kept row → kept (row.overwrite record))
    {actionId : String} {clock : SnapshotClock} :
    Runs (responseProtocol admits kept) i call (executeAction actionId clock) (ExecuteResult actionId)
      db log := by
  have unsaid {record : Option ActionRecord} {code message : String} {s : Db} {l : List ActionEvent} :
      Runs (responseProtocol admits kept) i call (pure (refused record code message))
        (ExecuteResult actionId) s l := by
    refine runs_result fun _ _ _ _ outcome result success => ?_
    cases result
    cases success
  refine runs_getAction responses_read fun s₀ l₀ _ _ => ?_
  cases read : s₀.actions.row actionId with
  | none => exact unsaid
  | some record =>
      have key : record.actionId = actionId := Table.row_key read
      subst key
      dsimp only
      split
      · rename_i executed
        exact executed_told read executed
      · split
        · exact unsaid
        · rename_i ready
          have confirmed : record.status = .confirmed := not_not.mp ready
          refine runs_statement fun s l moved valid => ?_
          obtain ⟨row,there,evolves⟩ := moved.2 _ record read
          have found : s.actions.row (record.executed clock.now).actionId = some row := there
          have same (status : row.status = .confirmed) : record = row :=
            ActionRecord.evolves_same_status evolves (status.trans confirmed.symm)
          refine ⟨responses_save closed (fun other there status => ?_) valid,?_⟩
          · cases Option.some.inj (found.symm.trans there)
            rw [← same status]
            exact .execute confirmed clock.now
          · cases ended : (Db.exec (.saveActionIfStatus (record.executed clock.now) .confirmed) s).1 with
            | true =>
                have status := save_won found ended
                refine executed_told ?_ rfl
                change (Db.exec (.saveActionIfStatus (record.executed clock.now) .confirmed)
                  s).2.actions.row (record.executed clock.now).actionId = _
                rw [exec_saved found status,← same status]
                rfl
            | false =>
                -- the row has left CONFIRMED, so it is EXECUTED, and stays so
                obtain ⟨left,still⟩ := save_lost found ended
                have executed := ActionRecord.evolves_confirmed evolves confirmed left
                refine runs_getAction responses_read fun s₂ l₂ moved₂ _ => ?_
                obtain ⟨after,present,later⟩ := moved₂.2 _ row still
                rw [show s₂.actions.row record.actionId = some after from present]
                refine executed_told present ?_
                rw [ActionRecord.evolves_executed later executed]
                exact executed

-- What each call says of itself once it is over.
def Told (i : Nat) (call : ActionCall) (result : Except PyError ActionOutcome) (db : Db)
    (log : List ActionEvent) : Prop :=
  (∀ caller, call.confirmCall = some caller → ConfirmResult i call caller result db log) ∧
    ∀ actionId, call.executeTarget = some actionId → ExecuteResult actionId result db log

theorem told_neither (confirms : call.confirmCall = none) (executes : call.executeTarget = none)
    {script : Script Stmt Stmt.Answer (Except PyError ActionOutcome)}
    (runs : (responseProtocol admits kept).Holds i call script anything db log) :
    (responseProtocol admits kept).Holds i call script (Told i call) db log := by
  refine Protocol.holds_imp runs fun result s l _ _ _ => ⟨fun caller named => ?_,fun id named => ?_⟩
  · rw [confirms] at named
    cases named
  · rw [executes] at named
    cases named

theorem told_confirm {caller : ActionCall.ConfirmCall} (confirms : call.confirmCall = some caller)
    (executes : call.executeTarget = none)
    {script : Script Stmt Stmt.Answer (Except PyError ActionOutcome)}
    (runs : (responseProtocol admits kept).Holds i call script (ConfirmResult i call caller) db log) :
    (responseProtocol admits kept).Holds i call script (Told i call) db log := by
  refine Protocol.holds_imp runs fun result s l _ _ told => ⟨fun other named => ?_,fun id named => ?_⟩
  · cases Option.some.inj (confirms.symm.trans named)
    exact told
  · rw [executes] at named
    cases named

theorem told_execute {actionId : String} (confirms : call.confirmCall = none)
    (executes : call.executeTarget = some actionId)
    {script : Script Stmt Stmt.Answer (Except PyError ActionOutcome)}
    (runs : (responseProtocol admits kept).Holds i call script (ExecuteResult actionId) db log) :
    (responseProtocol admits kept).Holds i call script (Told i call) db log := by
  refine Protocol.holds_imp runs fun result s l _ _ told => ⟨fun caller named => ?_,fun id named => ?_⟩
  · rw [confirms] at named
    cases named
  · cases Option.some.inj (executes.symm.trans named)
    exact told

structure Proposes (kept : ActionRecord → Prop) : Prop where
  closed : ∀ row record, kept row → kept (row.overwrite record)
  prepared : ∀ ticket ticketId reason outcome evidence userId requestId uuidHex now expiresAt,
    kept (escalationRecord ticket ticketId reason outcome evidence userId requestId uuidHex now
      expiresAt)

theorem told_sound (proposes : Proposes kept) : (responseProtocol admits kept).Sound Told := by
  refine ⟨fun {i call db log} _ valid => ?_⟩
  cases call with
  | prepareEscalation ticketId reason auth clock userId requestId registry uuidHex =>
      exact told_neither rfl rfl (prepare_runs responses_read valid fun _ _ _ _ _ _ _ valid =>
        responses_insert (proposes.prepared ..) valid)
  | confirmAction actionId payloadHash auth clock userId =>
      exact told_confirm rfl rfl (confirm_told proposes.closed
        ⟨actionId,payloadHash,auth,clock,userId⟩)
  | executeAction actionId clock =>
      exact told_execute rfl rfl (execute_told proposes.closed)
  | prepareRoute body user clock requestId registry uuidHex =>
      refine told_neither rfl rfl ?_
      rw [system_script,script_prepareRoute]
      exact prepare_runs responses_read valid fun _ _ _ _ _ _ _ valid =>
        responses_insert (proposes.prepared ..) valid
  | confirmRoute body user clock =>
      refine told_confirm rfl rfl ?_
      rw [system_script,script_confirmRoute]
      exact confirm_told proposes.closed
        ⟨body.actionId,body.payloadHash,user.toAuthContext,clock,user.id⟩
  | executeRoute body user clock =>
      refine told_execute rfl rfl ?_
      rw [system_script,script_executeRoute]
      exact guarded_runs responses_read executeResult_error fun _ _ _ _ _ _ =>
        execute_told proposes.closed
  | getActionRoute actionId user =>
      refine told_neither rfl rfl ?_
      rw [system_script,script_getActionRoute]
      exact getOwned_runs responses_read

end Calls

section Runs

variable [Host] {admits : ActionCall → Prop} {start : Db}
  {config : Config Stmt Stmt.Answer Db ActionCall (Except PyError ActionOutcome)}

theorem anything_proposes : Proposes (fun _ => True) := ⟨fun _ _ _ => trivial,fun _ _ _ _ _ _ _ _ _ _ => trivial⟩

theorem initial_responses {kept : ActionRecord → Prop} (rows : ∀ row ∈ start.actions.rows, kept row) :
    (responseProtocol admits kept).inv start [] :=
  ⟨fun _ row found => rows row (Table.row_eq_some.mp found).1,fun _ => Nat.zero_le _,
    fun _ some_ => absurd rfl some_⟩

theorem executed_stays {actionId : String} {record : ActionRecord}
    {later : Config Stmt Stmt.Answer Db ActionCall (Except PyError ActionOutcome)}
    (reached : Reached (actionSystem admits) start config)
    (steps : Relation.ReflTransGen (Step (actionSystem admits)) config later)
    (stands : config.store.actions.row actionId = some record) (executed : record.status = .executed) :
    later.store.actions.row actionId = some record := by
  obtain ⟨_,onward⟩ := Protocol.later_onward (told_sound anything_proposes)
    (initial_responses fun _ _ => trivial) reached steps
  obtain ⟨after,present,evolves⟩ := onward.2 actionId record stands
  rwa [ActionRecord.evolves_executed evolves executed] at present

theorem finished_told {kept : ActionRecord → Prop} (proposes : Proposes kept)
    (rows : ∀ row ∈ start.actions.rows, kept row)
    (reached : Reached (actionSystem admits) start config) {i : Nat}
    {thread : Thread Stmt Stmt.Answer ActionCall (Except PyError ActionOutcome)}
    (running : config.threads[i]? = some thread) (finished : thread.rest = .ret result) :
    Told i thread.call result config.store config.log := by
  obtain ⟨call,rest⟩ := thread
  cases finished
  exact Protocol.finished_goal (told_sound proposes) (initial_responses rows) reached running

-- Responses under any interleaving, whatever the table holds at first: who
-- confirmed, why a confirmation was refused, and what an execution answers with.
theorem responses_truthful (reached : Reached (actionSystem admits) start config) :
    (∀ (i : Nat) thread caller outcome, config.threads[i]? = some thread →
      thread.call.confirmCall = some caller → thread.rest = .ret (.ok outcome) →
      (outcome.success = true → ∃ event, confirmations caller.actionId config.log = [event] ∧
        event.thread = i ∧ event.call = thread.call) ∧
      (outcome.errorCode = some "wrong_state" →
        ∃ record, outcome.record = some record ∧ record.status ≠ .pendingConfirmation)) ∧
    (∀ (i : Nat) thread actionId outcome, config.threads[i]? = some thread →
      thread.call.executeTarget = some actionId → thread.rest = .ret (.ok outcome) →
      outcome.success = true → ∃ record, outcome.record = some record ∧ record.status = .executed ∧
        ∀ later, Relation.ReflTransGen (Step (actionSystem admits)) config later →
          later.store.actions.row actionId = some record) ∧
    ∀ (i j : Nat) one two actionId first second, config.threads[i]? = some one →
      config.threads[j]? = some two → one.call.executeTarget = some actionId →
      two.call.executeTarget = some actionId → one.rest = .ret (.ok first) →
      two.rest = .ret (.ok second) → first.success = true → second.success = true →
      ∃ record, first.record = some record ∧ second.record = some record := by
  have told {i : Nat} {thread : Thread Stmt Stmt.Answer ActionCall (Except PyError ActionOutcome)}
      {result : Except PyError ActionOutcome} (running : config.threads[i]? = some thread)
      (finished : thread.rest = .ret result) :=
    finished_told anything_proposes (fun _ _ => trivial) reached running finished
  refine ⟨?_,?_,?_⟩
  · intro i thread caller outcome running named finished
    have facts := (told running finished).1 caller named outcome rfl
    refine ⟨fun success => ?_,facts.wrongState⟩
    obtain ⟨⟨event,member,same,call⟩,_⟩ := facts.success success
    have valid := (Protocol.reached_holds (told_sound anything_proposes)
      (initial_responses fun _ _ => trivial) reached).1
    obtain ⟨only,single⟩ := List.length_eq_one_iff.mp
      (le_antisymm (valid.2.once caller.actionId) (List.length_pos_of_mem member))
    rw [single,List.mem_singleton] at member
    exact ⟨event,by rw [single,member],same,call⟩
  · intro i thread actionId outcome running named finished success
    obtain ⟨record,shown,executed,stands⟩ := (told running finished).2 actionId named outcome rfl success
    exact ⟨record,shown,executed,fun later steps => executed_stays reached steps stands executed⟩
  · intro i j one two actionId first second here there oneNamed twoNamed oneFinished twoFinished
      oneSuccess twoSuccess
    obtain ⟨record,shown,_,stands⟩ := (told here oneFinished).2 actionId oneNamed first rfl oneSuccess
    obtain ⟨other,also,_,same⟩ := (told there twoFinished).2 actionId twoNamed second rfl twoSuccess
    cases Option.some.inj (stands.symm.trans same)
    exact ⟨record,shown,also⟩

end Runs

-- Two executions of one confirmed action: both read it, the first one moves it,
-- and the second one loses and reads it again.
def raceRow : ActionRecord where
  actionId := "ACT-1"
  requestId := "REQ-1"
  userId := "support_agent"
  actionType := .prepareEscalation
  target := "TKT-104"
  proposedChange := ⟨"escalated","open","P1",false⟩
  reason := "customer blocked"
  evidence := []
  risk := "high"
  payloadHash := ""
  status := .confirmed
  preparedAt := .epoch
  expiresAt := .epoch
  confirmedAt := some .epoch
  executedAt := none
  idempotencyKey := "ACT-1"
  failureReason := none

def raceDb : Db := {Db.empty with actions := ⟨[raceRow],by decide⟩}

def winner : ActionCall := .executeAction "ACT-1" ⟨.epoch⟩

def loser : ActionCall := .executeAction "ACT-1" snapshotClock

theorem race_reached : let _ := asciiHost [] []
    ∃ config, Reached (actionSystem fun _ => True) raceDb config ∧
      config.threads = [⟨winner,.ret (.ok (accepted (raceRow.executed .epoch)))⟩,
        ⟨loser,.ret (.ok (accepted (raceRow.executed .epoch)))⟩] := by
  intro _
  have admitted (call : ActionCall) : (actionSystem fun _ => True).admits call := trivial
  have issued : Reached (actionSystem fun _ => True) raceDb _ :=
    (Reached.initial.step (.issue (admitted winner))).step (.issue (admitted loser))
  have read := (issued.step (.operation (i := 0) rfl)).step (.operation (i := 1) rfl)
  have raced := (read.step (.operation (i := 0) rfl)).step (.operation (i := 1) rfl)
  exact ⟨_,raced.step (.operation (i := 1) rfl),rfl⟩

theorem race_truthful : let _ := asciiHost [] []
    ∃ config, Reached (actionSystem fun _ => True) raceDb config ∧
      config.threads.map (·.call) = [winner,loser] ∧
      ∃ record, record.status = .executed ∧
        ∀ later, Relation.ReflTransGen (Step (actionSystem fun _ => True)) config later →
          later.store.actions.row "ACT-1" = some record := by
  intro _
  obtain ⟨config,reached,threads⟩ := race_reached
  obtain ⟨record,_,executed,stands⟩ := (responses_truthful reached).2.1 1
    ⟨loser,.ret (.ok (accepted (raceRow.executed .epoch)))⟩ "ACT-1" _ (by rw [threads]; rfl) rfl rfl rfl
  exact ⟨config,reached,by rw [threads]; rfl,record,executed,stands⟩

section Payloads

variable [Host] {admits : ActionCall → Prop} {start : Db}
  {config : Config Stmt Stmt.Answer Db ActionCall (Except PyError ActionOutcome)}

def ActionRecord.Bound (row : ActionRecord) : Prop :=
  row.payloadHash = ParcelPilot.payloadHash row.actionType row.target row.proposedChange

theorem bound_proposes : Proposes ActionRecord.Bound :=
  ⟨fun _ _ bound => bound,fun _ _ _ _ _ _ _ _ _ _ => rfl⟩

-- What was confirmed is what stands in the table from then on.
theorem payload_bound (bound : ∀ row ∈ start.actions.rows, row.Bound)
    (reached : Reached (actionSystem admits) start config) :
    (∀ row ∈ config.store.actions.rows, row.Bound) ∧
    ∀ (i : Nat) thread caller outcome, config.threads[i]? = some thread →
      thread.call.confirmCall = some caller → thread.rest = .ret (.ok outcome) →
      outcome.success = true →
      ∀ later, Relation.ReflTransGen (Step (actionSystem admits)) config later →
        ∃ row, later.store.actions.row caller.actionId = some row ∧
          caller.payloadHash = payloadHash row.actionType row.target row.proposedChange := by
  have valid {config : Config Stmt Stmt.Answer Db ActionCall (Except PyError ActionOutcome)}
      (reached : Reached (actionSystem admits) start config) :=
    (Protocol.reached_holds (told_sound bound_proposes) (initial_responses bound) reached).1.1
  refine ⟨fun row stored => valid reached _ row (Table.row_eq_some.mpr ⟨stored,rfl⟩),?_⟩
  intro i thread caller outcome running named finished success later steps
  have told := finished_told bound_proposes bound reached running finished
  obtain ⟨_,record,row,_,same,stands,proposed⟩ := (told.1 caller named outcome rfl).success success
  obtain ⟨path,onward⟩ := Protocol.later_onward (told_sound bound_proposes)
    (initial_responses bound) reached steps
  obtain ⟨after,present,evolves⟩ := onward.2 _ row stands
  refine ⟨after,present,?_⟩
  have kept : after.proposal = record.proposal := (ActionRecord.evolves_proposal evolves).trans proposed
  rw [← show after.payloadHash = _ from valid path _ after present,← same]
  exact (congrArg (fun r => r.payloadHash) kept).symm

end Payloads

theorem outage_id : 1 ≤ "ACT-0123456789ab".length ∧ "ACT-0123456789ab".length ≤ 64 := by decide

theorem outage_digest : 1 ≤ outageDigest.length ∧ outageDigest.length ≤ 128 := by decide

def outageConfirm : ActionCall :=
  .confirmRoute ⟨"ACT-0123456789ab",outageDigest,outage_id,outage_digest⟩ supportUser snapshotClock

def confirmedOutage : Except PyError ActionOutcome :=
  let _ := routeHost
  (outageConfirm.script.run Db.exec (inTurn (outageCalls.take 1) targetedDb)).1

theorem outage_confirms : ∃ outcome, confirmedOutage = .ok outcome ∧ outcome.success = true := by
  have succeeds : confirmedOutage.toOption.any (·.success) = true := by decide +kernel
  rcases returned : confirmedOutage with error | outcome
  · rw [returned] at succeeds
    cases succeeds
  · rw [returned] at succeeds
    exact ⟨outcome,rfl,succeeds⟩

theorem outage_payload_bound : let _ := routeHost
    ∃ config, Reached (actionSystem fun _ => True) targetedDb config ∧
      (∀ row ∈ config.store.actions.rows, row.Bound) ∧
      ∀ later, Relation.ReflTransGen (Step (actionSystem fun _ => True)) config later →
        ∃ row, later.store.actions.row "ACT-0123456789ab" = some row ∧
          outageDigest = payloadHash row.actionType row.target row.proposedChange := by
  intro _
  obtain ⟨prepared,reached,same⟩ := reached_inTurn (Reached.initial :
    Reached (actionSystem fun _ => True) targetedDb _) rfl (outageCalls.take 1) fun _ _ => trivial
  have admitted : (actionSystem fun _ => True).admits outageConfirm := trivial
  obtain ⟨log,path⟩ := reached_alone reached admitted
  obtain ⟨outcome,returned,success⟩ := outage_confirms
  have empty : ∀ row ∈ targetedDb.actions.rows, row.Bound := by
    intro row member
    cases member
  obtain ⟨rows,confirmed⟩ := payload_bound empty path
  refine ⟨_,path,rows,confirmed prepared.threads.length ⟨outageConfirm,.ret (.ok outcome)⟩ _ outcome
    ?_ rfl rfl success⟩
  rw [← returned,confirmedOutage,← same]
  simp only [List.getElem?_append_right,Nat.le_refl,Nat.sub_self,List.getElem?_cons_zero]
  rfl

end ParcelPilot
