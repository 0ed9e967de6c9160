import ParcelPilot.ActionResponses
import ParcelPilot.Linearization
import ParcelPilot.SteadyReads

namespace ParcelPilot

open Interleaving

theorem Table.update_none {ρ κ : Type} {key : ρ → κ} {table : Table key} {chosen : ρ → Bool}
    {change : ρ → ρ} {keeps : ∀ row, key (change row) = key row}
    (nowhere : ∀ row ∈ table.rows, chosen row = false) : table.update chosen change keeps = table := by
  obtain ⟨rows,unique⟩ := table
  have same : rows.map (fun row => if chosen row then change row else row) = rows := by
    refine (List.map_congr_left fun row member => ?_).trans (List.map_id rows)
    simp [nowhere row member]
  simp only [Table.update,same]

-- The database a statement later on may find: the other tables as they were, and
-- every row where it was or further along its lifecycle.
structure Later (db later : Db) : Prop where
  elsewhere : OnlyActionsChange db later
  rows : ∀ actionId row, db.actions.row actionId = some row →
    ∃ after, later.actions.row actionId = some after ∧ row.Evolves after

theorem later_refl (db : Db) : Later db db := ⟨rfl,fun _ row found => ⟨row,found,.refl⟩⟩

theorem onlyActions_trans {one two three : Db} (first : OnlyActionsChange one two)
    (second : OnlyActionsChange two three) : OnlyActionsChange one three := by
  unfold OnlyActionsChange at first second ⊢
  rw [← first,← second]

theorem later_trans {one two three : Db} (first : Later one two) (second : Later two three) :
    Later one three := by
  refine ⟨onlyActions_trans first.elsewhere second.elsewhere,fun actionId row found => ?_⟩
  obtain ⟨middle,present,early⟩ := first.rows actionId row found
  obtain ⟨after,still,late⟩ := second.rows actionId middle present
  exact ⟨after,still,early.trans late⟩

theorem later_exec [Host] {db : Db} {stmt : Stmt}
    (step : ∀ actionId, RowStep (db.actions.row actionId) ((Db.exec stmt db).2.actions.row actionId)) :
    Later db (Db.exec stmt db).2 := by
  refine ⟨?_,fun actionId row found => rowStep_evolves (step actionId) found⟩
  cases stmt with
  | query select => rfl
  | insertAction record =>
      unfold Db.exec
      dsimp only
      cases db.actions.insert record <;> rfl
  | saveActionIfStatus record expectedStatus => rfl

-- The same answer, but for the words in which a call that came too late is told
-- where the action stands.
inductive SameAnswer (told : Except PyError ActionOutcome) : Except PyError ActionOutcome → Prop where
  | same : SameAnswer told told
  | late {record : Option ActionRecord} {one two : String}
      (stands : told = .ok (refused record "wrong_state" two)) :
      SameAnswer told (.ok (refused record "wrong_state" one))

abbrev Agrees (answer told : Except PyError ActionOutcome) : Prop := SameAnswer told answer

section Rules

variable [Host] {db : Db} {alone : Db → Except PyError ActionOutcome × Db}

-- What is left of a call from here on, once it took effect.
abbrev Owes (told : Except PyError ActionOutcome) (action : Action ActionOutcome) (db : Db) : Prop :=
  Determined Later Db.exec Agrees told action.run db

-- What is left of a call that may still be counted as not begun.
abbrev Waits (alone : Db → Except PyError ActionOutcome × Db) (action : Action ActionOutcome)
    (db : Db) : Prop := Awaits Later Db.exec Agrees alone action.run db

-- Without a write from here on: what a run alone would answer, any run answers.
def Quiet (action : Action ActionOutcome) (db : Db) : Prop :=
  (action.on db).2 = db ∧ Owes (action.on db).1 action db

theorem quiet_pure (outcome : ActionOutcome) : Quiet (pure outcome) db := ⟨rfl,.same⟩

theorem quiet_throw (error : PyError) : Quiet (throw error) db := ⟨rfl,.same⟩

theorem reads_alike (select : Select) (s : Db) (elsewhere : select.Elsewhere) (later : Later db s) :
    (Db.exec (.query select) s).2 = s ∧ (Db.exec (.query select) s).1 = db.answer select :=
  ⟨rfl,answer_elsewhere later.elsewhere elsewhere⟩

theorem owes_reading {query : Query α} {rest : Except PyError α → Script Stmt Stmt.Answer _}
    {told : Except PyError ActionOutcome} (elsewhere : ReadsElsewhere query)
    (after : Determined Later Db.exec Agrees told (rest (query.on db)) db) :
    Determined Later Db.exec Agrees told
      (Script.embed Stmt.query (fun _ answer => answer) query.run >>= rest) db := by
  exact @determined_reads Stmt Stmt.Answer Db _ _ Later Db.exec Agrees told db db _ _ Stmt.query
    (fun _ answer => answer) db.answer Select.Elsewhere later_trans reads_alike query.run elsewhere rest
    after (later_refl db)

theorem delayed_reading {query : Query α} {rest : Except PyError α → Script Stmt Stmt.Answer _}
    (elsewhere : ReadsElsewhere query)
    (after : Awaits Later Db.exec Agrees alone (rest (query.on db)) db) :
    Awaits Later Db.exec Agrees alone
      (Script.embed Stmt.query (fun _ answer => answer) query.run >>= rest) db := by
  exact @awaits_reads Stmt Stmt.Answer Db _ _ Later Db.exec Agrees alone db db _ _ Stmt.query
    (fun _ answer => answer) db.answer Select.Elsewhere later_trans reads_alike query.run elsewhere rest
    after (later_refl db)

theorem quiet_reading {query : Query α} {rest : α → Action ActionOutcome}
    (elsewhere : ReadsElsewhere query)
    (after : ∀ value, query.on db = .ok value → Quiet (rest value) db) :
    Quiet (reading query >>= rest) db := by
  unfold Quiet Owes
  rw [alone_bind,alone_reading,ExceptT.run_bind]
  cases found : query.on db with
  | ok value =>
      obtain ⟨same,settled⟩ := after value found
      refine ⟨same,owes_reading elsewhere ?_⟩
      rw [found]
      exact settled
  | error error =>
      refine ⟨rfl,owes_reading elsewhere ?_⟩
      rw [found]
      exact .same

theorem waits_reading {query : Query α} {value : α} {rest : α → Action ActionOutcome}
    (elsewhere : ReadsElsewhere query) (found : query.on db = .ok value)
    (after : Waits alone (rest value) db) : Waits alone (reading query >>= rest) db := by
  unfold Waits
  rw [ExceptT.run_bind]
  refine delayed_reading elsewhere ?_
  rw [found]
  exact after

-- Wherever the call may still be counted as not begun, alone it would go this way.
abbrev Matches (alone : Db → Except PyError ActionOutcome × Db) (met : Db → Prop)
    (action : Action ActionOutcome) (db : Db) : Prop :=
  ∀ s, Later db s → met s → alone s = action.on s

abbrev Goes (alone : Db → Except PyError ActionOutcome × Db) (action : Action ActionOutcome)
    (db : Db) : Prop := Waits alone action db ∨ Quiet action db

theorem goes_pure (outcome : ActionOutcome) : Goes alone (pure outcome) db := .inr (quiet_pure _)

theorem goes_throw (error : PyError) : Goes alone (throw error) db := .inr (quiet_throw _)

theorem goes_reading {met : Db → Prop} {query : Query α} {rest : α → Action ActionOutcome}
    (elsewhere : ReadsElsewhere query) (whole : Matches alone met (reading query >>= rest) db)
    (each : ∀ value, Matches alone met (rest value) db → Goes alone (rest value) db) :
    Goes alone (reading query >>= rest) db := by
  cases found : query.on db with
  | error error =>
      refine .inr (quiet_reading elsewhere fun value ran => ?_)
      rw [found] at ran
      cases ran
  | ok value =>
      have after : Matches alone met (rest value) db := by
        intro s later meets
        rw [whole s later meets,alone_then]
        rw [alone_reading,on_elsewhere later.elsewhere elsewhere,found]
      rcases each value after with waits | quiet
      · exact .inl (waits_reading elsewhere found waits)
      · refine .inr (quiet_reading elsewhere fun other ran => ?_)
        cases Except.ok.inj (found.symm.trans ran)
        exact quiet

-- A first operation may be the point when nothing is written from it on.
theorem waits_first {action : Action ActionOutcome} {stmt : Stmt}
    {next : stmt.Answer → Script Stmt Stmt.Answer (Except PyError ActionOutcome)}
    (first : action.run = .exec stmt next) (whole : ∀ s, alone s = action.on s)
    (each : ∀ s, Goes alone action s) : Waits alone action db := by
  unfold Waits
  rw [first]
  intro s _
  rcases each s with waits | ⟨same,settled⟩
  · unfold Waits at waits
    rw [first] at waits
    exact waits s (later_refl s)
  · unfold Owes at settled
    rw [first] at settled
    obtain ⟨unchanged,rest⟩ := settled s (later_refl s)
    refine .inr ?_
    rw [whole s,same]
    exact ⟨unchanged,rest⟩

-- The read a call begins with: if nothing is written after it, it is the point.
theorem waits_getAction {actionId : String} {rest : Option ActionRecord → Action ActionOutcome}
    (whole : ∀ s, Later db s → alone s = (getAction actionId >>= rest).on s)
    (each : ∀ s, Later db s → Goes alone (rest (s.actions.row actionId)) s) :
    Waits alone (getAction actionId >>= rest) db := by
  intro s later
  rcases each s later with waits | ⟨same,settled⟩
  · exact .inl ⟨rfl,waits⟩
  · have ran : alone s = (rest (s.actions.row actionId)).on s := by
      rw [whole s later,alone_then (getAction_alone actionId)]
    refine .inr ?_
    rw [ran,same]
    exact ⟨rfl,settled⟩

-- A read may also be the point for what was found before it.
theorem waits_settled {actionId : String} {rest : Option ActionRecord → Action ActionOutcome}
    (settled : ∀ s, Later db s →
      s = (alone s).2 ∧ Owes (alone s).1 (rest (s.actions.row actionId)) (alone s).2) :
    Waits alone (getAction actionId >>= rest) db := fun s later => .inr (settled s later)

theorem saved_nothing {record row : ActionRecord} {expectedStatus : ActionStatus}
    (found : db.actions.row record.actionId = some row) (other : row.status ≠ expectedStatus) :
    Db.exec (.saveActionIfStatus record expectedStatus) db = (false,db) := by
  have nowhere : ∀ stored ∈ db.actions.rows, stored.isAt record.actionId expectedStatus = false := by
    intro stored member
    by_contra here
    simp only [ActionRecord.isAt,Bool.not_eq_false,Bool.and_eq_true,decide_eq_true_eq] at here
    have same := db.actions.same_row member (Table.row_eq_some.mp found).1
      (here.1.trans (Table.row_eq_some.mp found).2.symm)
    exact other (same ▸ here.2)
  have kept : savedActions db.actions record expectedStatus = db.actions := Table.update_none nowhere
  have missed : db.actions.rows.any (·.isAt record.actionId expectedStatus) = false :=
    List.any_eq_false.mpr fun stored member => by simp [nowhere stored member]
  simp only [Db.exec,kept,missed]
  rfl

-- A conditional UPDATE is the point of the call when it lands; when it does not,
-- the row has moved, and stays so.
theorem waits_save {record new : ActionRecord} {rest : Bool → Action ActionOutcome}
    (found : db.actions.row new.actionId = some record) (same : new.actionId = record.actionId)
    (whole : Matches alone (fun s => s.actions.row new.actionId = some record)
      (saveActionIfStatus new record.status >>= rest) db)
    (won : ∀ s, Quiet (rest true) s)
    (lost : ∀ s current, Later db s → s.actions.row new.actionId = some current →
      record.Evolves current → current.status ≠ record.status → Waits alone (rest false) s) :
    Waits alone (saveActionIfStatus new record.status >>= rest) db := by
  intro s later
  obtain ⟨current,present,evolves⟩ := later.rows _ record found
  by_cases status : current.status = record.status
  · cases ActionRecord.evolves_same_status evolves status
    have ran := save_alone new present rfl same
    have wins : (Db.exec (.saveActionIfStatus new record.status) s).1 = true :=
      congrArg (fun result => match result.1 with | .ok value => value | .error _ => false) ran
    have landed : alone s = (rest true).on (Db.exec (.saveActionIfStatus new record.status) s).2 := by
      rw [whole s later present,alone_then ran]
      rfl
    refine .inr ?_
    rw [landed]
    obtain ⟨unchanged,settled⟩ := won (Db.exec (.saveActionIfStatus new record.status) s).2
    rw [unchanged]
    refine ⟨rfl,?_⟩
    change Determined _ _ _ _ (rest (Db.exec (.saveActionIfStatus new record.status) s).1).run _
    rw [wins]
    exact settled
  · refine .inl ?_
    have missed : Db.exec (.saveActionIfStatus new record.status) s = (false,s) :=
      saved_nothing present status
    change (Db.exec (.saveActionIfStatus new record.status) s).2 = s ∧
      Awaits Later Db.exec Agrees alone
        (rest (Db.exec (.saveActionIfStatus new record.status) s).1).run s
    rw [missed]
    exact ⟨rfl,lost s current later present evolves status⟩

theorem alone_read {actionId : String} {rest : Option ActionRecord → Action ActionOutcome}
    {row : Option ActionRecord} (whole : alone db = (getAction actionId >>= rest).on db)
    (found : db.actions.row actionId = row) : alone db = (rest row).on db := by
  rw [whole,alone_then (getAction_alone actionId),found]

end Rules

section Calls

variable [Host] {db : Db} {alone : Db → Except PyError ActionOutcome × Db}
  {actionId payloadHash userId : String} {auth : AuthContext} {clock : SnapshotClock}

-- A call that lost the race reads the row again, and is answered by where it stands.
theorem wrongState_waits {record : ActionRecord} {verb : String}
    (found : db.actions.row actionId = some record) (decided : record.status ≠ .pendingConfirmation)
    (whole : ∀ s current, s.actions.row actionId = some current →
      current.status ≠ .pendingConfirmation → ∃ text,
        alone s = (.ok (refused (some current) "wrong_state" text),s)) :
    Waits alone (wrongStateOutcome actionId verb) db := by
  refine waits_settled fun s later => ?_
  obtain ⟨current,present,evolves⟩ := later.rows actionId record found
  obtain ⟨text,stands⟩ := whole s current present (ActionRecord.evolves_left_pending evolves decided)
  rw [stands,present]
  exact ⟨rfl,.late rfl⟩

theorem confirm_late {record : ActionRecord} (found : db.actions.row actionId = some record)
    (decided : record.status ≠ .pendingConfirmation) : ∃ text,
      (confirmAction actionId payloadHash auth clock userId).on db =
        (.ok (refused (some record) "wrong_state" text),db) := by
  unfold confirmAction
  rw [alone_then (getAction_alone actionId),found]
  dsimp only
  rw [if_pos decided]
  exact ⟨_,rfl⟩

theorem confirm_waits
    (whole : ∀ s, alone s = (confirmAction actionId payloadHash auth clock userId).on s) :
    Waits alone (confirmAction actionId payloadHash auth clock userId) db := by
  have late : ∀ s current, s.actions.row actionId = some current →
      current.status ≠ .pendingConfirmation → ∃ text,
        alone s = (.ok (refused (some current) "wrong_state" text),s) := by
    intro s current found decided
    rw [whole s]
    exact confirm_late found decided
  unfold confirmAction at whole ⊢
  refine waits_getAction (fun s _ => whole s) fun s later => ?_
  cases read : s.actions.row actionId with
  | none => exact .inr (quiet_pure _)
  | some record =>
      have key : record.actionId = actionId := Table.row_key read
      subst key
      have here : Matches alone (fun s' => s'.actions.row record.actionId = some record) _ s :=
        fun s' _ found => alone_read (whole s') found
      dsimp only at here ⊢
      by_cases moved : record.status ≠ .pendingConfirmation
      · rw [if_pos moved]
        exact goes_pure _
      · have pending : record.status = .pendingConfirmation := not_not.mp moved
        have lost {s' : Db} {current : ActionRecord} {verb : String}
            (present : s'.actions.row record.actionId = some current)
            (status : current.status ≠ record.status) :
            Waits alone (wrongStateOutcome record.actionId verb) s' :=
          wrongState_waits present (pending ▸ status) late
        simp only [if_neg moved] at here ⊢
        rw [← pending] at here ⊢
        by_cases tooLate : record.expiresAt < clock.now
        · simp only [if_pos tooLate] at here ⊢
          exact .inl (waits_save read rfl here (fun _ => quiet_pure _)
            fun s' current _ present _ status => lost present status)
        · simp only [if_neg tooLate] at here ⊢
          by_cases stranger : record.userId ≠ userId
          · rw [if_pos stranger]
            exact goes_pure _
          · simp only [if_neg stranger] at here ⊢
            by_cases mismatch : payloadHash ≠ record.payloadHash
            · rw [if_pos mismatch]
              exact goes_pure _
            · simp only [if_neg mismatch] at here ⊢
              refine goes_reading (Fallible.uses_attempt (elsewhere_getTicket _)) here
                fun answered here => ?_
              cases answered with
              | error error => cases error <;> first | exact goes_pure _ | exact goes_throw _
              | ok ticket =>
                  dsimp only at here ⊢
                  by_cases changed : ticket.status.value ≠ record.proposedChange.previousStatus
                  · rw [if_pos changed]
                    exact goes_pure _
                  · simp only [if_neg changed] at here ⊢
                    exact .inl (waits_save read rfl here (fun _ => quiet_pure _)
                      fun s' current _ present _ status => lost present status)

theorem execute_waits
    (whole : ∀ s, Later db s → alone s = (executeAction actionId clock).on s) :
    Waits alone (executeAction actionId clock) db := by
  have again : ∀ s current, Later db s → s.actions.row actionId = some current →
      current.status = .executed → alone s = (.ok (accepted current),s) := by
    intro s current later found done
    rw [whole s later]
    unfold executeAction
    rw [alone_then (getAction_alone actionId),found]
    dsimp only
    rw [if_pos done]
    rfl
  unfold executeAction at whole ⊢
  refine waits_getAction whole fun s later => ?_
  cases read : s.actions.row actionId with
  | none => exact .inr (quiet_pure _)
  | some record =>
      have key : record.actionId = actionId := Table.row_key read
      subst key
      have here : Matches alone (fun s' => s'.actions.row record.actionId = some record) _ s :=
        fun s' later' found => alone_read (whole s' (later_trans later later')) found
      dsimp only at here ⊢
      by_cases done : record.status = .executed
      · rw [if_pos done]
        exact .inr (quiet_pure _)
      · simp only [if_neg done] at here ⊢
        by_cases unready : record.status ≠ .confirmed
        · rw [if_pos unready]
          exact .inr (quiet_pure _)
        · simp only [if_neg unready] at here ⊢
          have ready : record.status = .confirmed := not_not.mp unready
          rw [← ready] at here ⊢
          refine .inl (waits_save read rfl here (fun _ => quiet_pure _) ?_)
          -- somebody else executed it meanwhile
          intro s₁ current later₁ present evolves status
          refine waits_settled fun s₂ later₂ => ?_
          obtain ⟨last,stands,on⟩ : ∃ last, s₂.actions.row record.actionId = some last ∧
            current.Evolves last := later₂.rows _ current present
          have executed : current.status = .executed :=
            ActionRecord.evolves_confirmed evolves ready (ready ▸ status)
          cases ActionRecord.evolves_executed on executed
          rw [again s₂ current (later_trans later (later_trans later₁ later₂)) stands executed,stands]
          exact ⟨rfl,.same⟩

theorem getOwned_waits {user : DemoUser}
    (whole : ∀ s, alone s = (getOwnedActionOr404 actionId user).on s) :
    Waits alone (getOwnedActionOr404 actionId user) db := by
  refine waits_getAction (fun s _ => whole s) fun s _ => .inr ?_
  cases s.actions.row actionId with
  | none => exact quiet_throw _
  | some record =>
      dsimp only
      split
      · exact quiet_pure _
      · exact quiet_throw _

omit [Host] in
-- Who prepared an action is settled when it is first read.
theorem mayAccess_later (user : DemoUser) {s : Db} {record : ActionRecord}
    (found : db.actions.row actionId = some record) (later : Later db s) :
    ∃ current, s.actions.row actionId = some current ∧
      mayAccess user current = mayAccess user record := by
  obtain ⟨current,present,evolves⟩ := later.rows actionId record found
  have owner : current.userId = record.userId :=
    congrArg (fun row => row.userId) (ActionRecord.evolves_proposal evolves)
  exact ⟨current,present,by rw [mayAccess,mayAccess,owner]⟩

theorem executeRoute_waits {user : DemoUser}
    (whole : ∀ s, alone s = (do
      requireOwnerOrAdmin actionId user
      executeAction actionId clock : Action ActionOutcome).on s) :
    Waits alone (do requireOwnerOrAdmin actionId user; executeAction actionId clock) db := by
  unfold requireOwnerOrAdmin at whole ⊢
  rw [bind_assoc] at whole ⊢
  refine waits_getAction (fun s _ => whole s) fun s _ => ?_
  cases read : s.actions.row actionId with
  | none => exact .inr (quiet_throw _)
  | some record =>
      by_cases allowed : mayAccess user record = true
      · refine .inl ?_
        dsimp only
        rw [if_pos allowed,pure_bind]
        refine execute_waits fun s' later => ?_
        obtain ⟨current,present,same⟩ := mayAccess_later user read later
        rw [alone_read (whole s') present]
        dsimp only
        rw [if_pos (same.trans allowed),pure_bind]
      · dsimp only
        rw [if_neg allowed]
        exact .inr (quiet_throw _)

theorem inserted_on (record : ActionRecord) :
    (insertAction record >>= fun _ => pure (accepted record) : Action ActionOutcome).on db =
      (match (Db.exec (.insertAction record) db).1 with
        | true => .ok (accepted record)
        | false => .error (.integrityError "UNIQUE constraint failed: actions.action_id"),
        (Db.exec (.insertAction record) db).2) := by
  unfold insertAction
  rw [bind_assoc,alone_then (alone_statement _)]
  cases (Db.exec (.insertAction record) db).1 <;> rfl

theorem waits_insert {record : ActionRecord}
    (whole : Matches alone (fun _ => True)
      (insertAction record >>= fun _ => pure (accepted record)) db) :
    Waits alone (insertAction record >>= fun _ => pure (accepted record)) db := by
  intro s later
  refine .inr ?_
  rw [whole s later trivial,inserted_on]
  refine ⟨rfl,?_⟩
  change Determined _ _ _ _ (((match (Db.exec (.insertAction record) s).1 with
    | true => pure ()
    | false => throw (.integrityError "UNIQUE constraint failed: actions.action_id") : Action Unit) >>=
      fun _ => pure (accepted record)).run) _
  cases (Db.exec (.insertAction record) s).1 with
  | true => exact .same
  | false => exact .same

-- A preparation that inserts waits for its INSERT; any other is over at its first
-- read, since what it reads does not change.
theorem prepare_goes {ticketId reason requestId uuidHex : String} {registry : Registry}
    (whole : Matches alone (fun _ => True)
      (prepareEscalation ticketId reason auth clock userId requestId registry uuidHex) db) :
    Goes alone (prepareEscalation ticketId reason auth clock userId requestId registry uuidHex)
      db := by
  unfold prepareEscalation at whole ⊢
  refine goes_reading (Fallible.uses_attempt (elsewhere_getTicket _)) whole fun answered whole => ?_
  cases answered with
  | error error => cases error <;> first | exact goes_pure _ | exact goes_throw _
  | ok ticket =>
      dsimp only at whole ⊢
      by_cases closed : ticket.status ≠ .open_
      · rw [if_pos closed]
        exact goes_pure _
      · simp only [if_neg closed] at whole ⊢
        refine goes_reading (elsewhere_calculateSla _) whole fun decision whole => ?_
        cases result : decision.result with
        | none => exact goes_pure _
        | some outcome =>
            simp only [result] at whole ⊢
            by_cases escalates : outcome.escalates = true
            · simp only [if_pos escalates] at whole ⊢
              cases expiry : clock.now.plusMinutes actionExpiryMinutes with
              | error error => exact goes_throw _
              | ok expiresAt =>
                  rw [expiry] at whole
                  exact .inl (waits_insert whole)
            · rw [if_neg escalates]
              exact goes_pure _

theorem prepare_waits {ticketId reason requestId uuidHex : String} {registry : Registry}
    (whole : ∀ s, alone s =
      (prepareEscalation ticketId reason auth clock userId requestId registry uuidHex).on s) :
    Waits alone (prepareEscalation ticketId reason auth clock userId requestId registry uuidHex)
      db :=
  waits_first (reading_getTicket _) whole fun _ => prepare_goes fun s _ _ => whole s

theorem prepare_later {ticketId reason requestId uuidHex : String} {registry : Registry} :
    Later db
      ((prepareEscalation ticketId reason auth clock userId requestId registry uuidHex).on db).2 := by
  have exits := @prepare_exit _ db ticketId reason userId requestId uuidHex auth clock registry
  revert exits
  generalize (prepareEscalation ticketId reason auth clock userId requestId registry uuidHex).on db = ran
  intro exits
  cases exits with
  | raised error => exact later_refl db
  | refused errorCode errorMessage => exact later_refl db
  | prepared status inserted =>
      refine ⟨rfl,fun actionId row found => ⟨row,?_,.refl⟩⟩
      rw [Table.insert_row inserted]
      split
      · rename_i same
        have fresh := Table.insert_fresh inserted
        rw [same,found] at fresh
        cases fresh
      · exact found

theorem saved_later {record new : ActionRecord} (found : db.actions.row actionId = some record)
    (same : new.actionId = record.actionId) (moves : record.Moves new) :
    Later db {db with actions := savedActions db.actions new record.status} := by
  refine @later_exec _ db (.saveActionIfStatus new record.status) (saved_step ?_)
  intro row present _
  rw [same,Table.row_key found,found] at present
  cases present
  exact moves

theorem confirm_later :
    Later db ((confirmAction actionId payloadHash auth clock userId).on db).2 := by
  have exits := @confirm_exit _ db actionId payloadHash userId auth clock
  revert exits
  generalize (confirmAction actionId payloadHash auth clock userId).on db = ran
  intro exits
  cases exits with
  | raised error => exact later_refl db
  | refused record errorMessage plain => exact later_refl db
  | expired found pending errorMessage =>
      rw [← pending]
      exact saved_later found rfl (.expire pending)
  | confirmed found pending now =>
      rw [← pending]
      exact saved_later found rfl (.confirm pending now)

theorem execute_later : Later db ((executeAction actionId clock).on db).2 := by
  have exits := @execute_exit _ db actionId clock
  revert exits
  generalize (executeAction actionId clock).on db = ran
  intro exits
  cases exits with
  | refused record errorCode errorMessage => exact later_refl db
  | repeated found done => exact later_refl db
  | executed found ready now =>
      rw [← ready]
      exact saved_later found rfl (.execute ready now)

theorem getOwned_alone {user : DemoUser} : ((getOwnedActionOr404 actionId user).on db).2 = db := by
  unfold getOwnedActionOr404
  rw [alone_then (getAction_alone actionId)]
  cases db.actions.row actionId with
  | none => rfl
  | some record =>
      dsimp only
      split <;> rfl

theorem guarded_later {user : DemoUser} : Later db ((do
    requireOwnerOrAdmin actionId user
    executeAction actionId clock : Action ActionOutcome).on db).2 := by
  unfold requireOwnerOrAdmin
  rw [bind_assoc,alone_then (getAction_alone actionId)]
  cases db.actions.row actionId with
  | none => exact later_refl db
  | some record =>
      dsimp only
      split
      · exact execute_later
      · exact later_refl db

end Calls

section Whole

variable [Host]

theorem call_waits (call : ActionCall) (db : Db) :
    Awaits Later Db.exec Agrees (call.script.run Db.exec) call.script db := by
  cases call with
  | prepareEscalation ticketId reason auth clock userId requestId registry uuidHex =>
      exact prepare_waits fun _ => rfl
  | confirmAction actionId payloadHash auth clock userId => exact confirm_waits fun _ => rfl
  | executeAction actionId clock => exact execute_waits fun _ _ => rfl
  | prepareRoute body user clock requestId registry uuidHex =>
      rw [script_prepareRoute]
      exact prepare_waits fun _ => rfl
  | confirmRoute body user clock =>
      rw [script_confirmRoute]
      exact confirm_waits fun _ => rfl
  | executeRoute body user clock =>
      rw [script_executeRoute]
      exact executeRoute_waits fun _ => rfl
  | getActionRoute actionId user =>
      rw [script_getActionRoute]
      exact getOwned_waits fun _ => rfl

theorem call_later (call : ActionCall) (db : Db) : Later db (call.script.run Db.exec db).2 := by
  cases call with
  | prepareEscalation ticketId reason auth clock userId requestId registry uuidHex =>
      exact prepare_later
  | confirmAction actionId payloadHash auth clock userId => exact confirm_later
  | executeAction actionId clock => exact execute_later
  | prepareRoute body user clock requestId registry uuidHex =>
      rw [script_prepareRoute]
      exact prepare_later
  | confirmRoute body user clock =>
      rw [script_confirmRoute]
      exact confirm_later
  | executeRoute body user clock =>
      rw [script_executeRoute]
      exact guarded_later
  | getActionRoute actionId user =>
      rw [script_getActionRoute]
      exact (congrArg (Later db) getOwned_alone).mpr (later_refl db)

end Whole

end ParcelPilot
