import ParcelPilot.Escalation

namespace ParcelPilot

section Exits

variable [Host] {db : Db} {actionId payloadHash ticketId reason userId requestId uuidHex : String}
  {auth : AuthContext} {clock : SnapshotClock} {registry : Registry}

-- Every way a call on its own can end, with what it leaves behind.
inductive PrepareExit (db : Db) : Except PyError ActionOutcome × Db → Prop where
  | raised (error : PyError) : PrepareExit db (.error error,db)
  | refused (errorCode errorMessage : String) :
      PrepareExit db (.ok (ParcelPilot.refused none errorCode errorMessage),db)
  | prepared (status : record.status = .pendingConfirmation)
      (inserted : db.actions.insert record = some actions) :
      PrepareExit db (.ok (accepted record),{db with actions := actions})

inductive ConfirmExit (db : Db) (actionId : String) : Except PyError ActionOutcome × Db → Prop where
  | raised (error : PyError) : ConfirmExit db actionId (.error error,db)
  | refused (record : Option ActionRecord) (errorMessage : String) (plain : errorCode ≠ "expired") :
      ConfirmExit db actionId (.ok (ParcelPilot.refused record errorCode errorMessage),db)
  | expired (found : db.actions.row actionId = some record)
      (pending : record.status = .pendingConfirmation) (errorMessage : String) :
      ConfirmExit db actionId (.ok (ParcelPilot.refused (some record.expired) "expired" errorMessage),
        {db with actions := savedActions db.actions record.expired .pendingConfirmation})
  | confirmed (found : db.actions.row actionId = some record)
      (pending : record.status = .pendingConfirmation) (now : DateTime) :
      ConfirmExit db actionId (.ok (accepted (record.confirmed now)),
        {db with actions := savedActions db.actions (record.confirmed now) .pendingConfirmation})

inductive ExecuteExit (db : Db) (actionId : String) : Except PyError ActionOutcome × Db → Prop where
  | refused (record : Option ActionRecord) (errorCode errorMessage : String) :
      ExecuteExit db actionId (.ok (ParcelPilot.refused record errorCode errorMessage),db)
  | repeated (found : db.actions.row actionId = some record) (done : record.status = .executed) :
      ExecuteExit db actionId (.ok (accepted record),db)
  | executed (found : db.actions.row actionId = some record) (ready : record.status = .confirmed)
      (now : DateTime) : ExecuteExit db actionId (.ok (accepted (record.executed now)),
        {db with actions := savedActions db.actions (record.executed now) .confirmed})

theorem insertAction_exit (record : ActionRecord) :
    (∃ error, (insertAction record).on db = (.error error,db)) ∨
      ∃ actions, db.actions.insert record = some actions ∧
        (insertAction record).on db = (.ok (),{db with actions := actions}) := by
  cases inserted : db.actions.insert record with
  | none =>
      left
      refine ⟨_,insertAction_taken db record fun fresh => ?_⟩
      obtain ⟨actions,accepts⟩ := Table.insert_of_fresh fresh
      rw [inserted] at accepts
      cases accepts
  | some actions =>
      right
      refine ⟨actions,rfl,?_⟩
      unfold insertAction
      rw [alone_then (alone_statement _)]
      simp only [Db.exec,inserted]
      rfl

theorem prepare_exit : PrepareExit db
    ((prepareEscalation ticketId reason auth clock userId requestId registry uuidHex).on db) := by
  unfold prepareEscalation
  rw [alone_then (by rw [alone_reading,on_attempt])]
  cases (getTicket ticketId auth clock.tz).on db with
  | error error => cases error <;> first | exact .refused _ _ | exact .raised _
  | ok ticket =>
      dsimp only
      split
      · exact .refused _ _
      · cases calculated : (calculateSla ticketId auth clock registry).on db with
        | error error =>
            rw [alone_raised (by rw [alone_reading,calculated])]
            exact .raised error
        | ok decision =>
            rw [alone_then (by rw [alone_reading,calculated])]
            cases decision.result with
            | none => exact .refused _ _
            | some outcome =>
                dsimp only
                split
                · cases expiry : clock.now.plusMinutes actionExpiryMinutes with
                  | error error =>
                      rw [alone_raised (alone_raising _)]
                      exact .raised error
                  | ok expiresAt =>
                      rw [alone_then (alone_raising _)]
                      rcases @insertAction_exit _ db (escalationRecord ticket ticketId reason outcome
                        decision.evidence userId requestId uuidHex clock.now expiresAt) with
                        ⟨error,failed⟩ | ⟨actions,inserted,ran⟩
                      · rw [alone_raised failed]
                        exact .raised error
                      · rw [alone_then ran]
                        exact .prepared rfl inserted
                · exact .refused _ _

theorem save_alone {record : ActionRecord} (new : ActionRecord) {expectedStatus : ActionStatus}
    (found : db.actions.row actionId = some record) (status : record.status = expectedStatus)
    (same : new.actionId = record.actionId) :
    (saveActionIfStatus new expectedStatus).on db =
      (.ok true,{db with actions := savedActions db.actions new expectedStatus}) := by
  have there : db.actions.rows.any (·.isAt new.actionId expectedStatus) = true := by
    refine List.any_eq_true.mpr ⟨record,(Table.row_eq_some.mp found).1,?_⟩
    simp [ActionRecord.isAt,status,same]
  rw [saveActionIfStatus_alone,there]

theorem confirm_exit : ConfirmExit db actionId
    ((confirmAction actionId payloadHash auth clock userId).on db) := by
  unfold confirmAction
  rw [alone_then (getAction_alone actionId)]
  cases found : db.actions.row actionId with
  | none => exact .refused _ _ (by decide)
  | some record =>
      dsimp only
      split
      · exact .refused _ _ (by decide)
      · rename_i waiting
        have pending : record.status = .pendingConfirmation := not_not.mp waiting
        split
        · rw [alone_then (save_alone record.expired found pending rfl)]
          exact .expired found pending _
        · split
          · exact .refused _ _ (by decide)
          · split
            · exact .refused _ _ (by decide)
            · rw [alone_then (by rw [alone_reading,on_attempt])]
              cases (getTicket record.target auth clock.tz).on db with
              | error error =>
                  cases error <;> first | exact .refused _ _ (by decide) | exact .raised _
              | ok ticket =>
                  dsimp only
                  split
                  · exact .refused _ _ (by decide)
                  · rw [alone_then (save_alone (record.confirmed clock.now) found pending rfl)]
                    exact .confirmed found pending clock.now

theorem execute_exit : ExecuteExit db actionId ((executeAction actionId clock).on db) := by
  unfold executeAction
  rw [alone_then (getAction_alone actionId)]
  cases found : db.actions.row actionId with
  | none => exact .refused _ _ _
  | some record =>
      dsimp only
      split
      · rename_i done
        exact .repeated found done
      · split
        · exact .refused _ _ _
        · rename_i waiting
          have ready : record.status = .confirmed := not_not.mp waiting
          rw [alone_then (save_alone (record.executed clock.now) found ready rfl)]
          exact .executed found ready clock.now

def OnlyActionsChange (db after : Db) : Prop := {after with actions := db.actions} = db

structure OnlyExpires (db after : Db) (actionId : String) : Prop where
  pending : ∃ record, db.actions.row actionId = some record ∧ record.status = .pendingConfirmation
  rows : after.actions.rows = db.actions.rows.map fun row =>
    if row.actionId = actionId then
      {row with status := .expired, failureReason := some "confirmation window expired"}
    else row
  elsewhere : OnlyActionsChange db after

structure OnlyAdds (db after : Db) (record : ActionRecord) : Prop where
  fresh : db.actions.row record.actionId = none
  rows : after.actions.rows = db.actions.rows ++ [record]
  elsewhere : OnlyActionsChange db after

omit [Host] in
theorem expired_rows {record : ActionRecord} (found : db.actions.row actionId = some record)
    (pending : record.status = .pendingConfirmation) :
    (savedActions db.actions record.expired .pendingConfirmation).rows =
      db.actions.rows.map fun row => if row.actionId = actionId then
        {row with status := .expired, failureReason := some "confirmation window expired"}
      else row := by
  obtain ⟨stored,key⟩ := Table.row_eq_some.mp found
  apply List.map_congr_left
  intro row member
  by_cases here : row.actionId = actionId
  · cases db.actions.same_row member stored (here.trans key.symm)
    have chosen : record.isAt record.expired.actionId .pendingConfirmation = true := by
      simp [ActionRecord.isAt,ActionRecord.expired,pending]
    rw [if_pos chosen,if_pos here]
    rfl
  · have skipped : ¬ row.isAt record.expired.actionId .pendingConfirmation = true := by
      intro chosen
      simp only [ActionRecord.isAt,Bool.and_eq_true,decide_eq_true_eq] at chosen
      exact here (chosen.1.trans key)
    rw [if_neg skipped,if_neg here]

omit [Host] in
theorem expired_frame {record : ActionRecord} (found : db.actions.row actionId = some record)
    (pending : record.status = .pendingConfirmation) :
    OnlyExpires db {db with actions := savedActions db.actions record.expired .pendingConfirmation}
      actionId := ⟨⟨record,found,pending⟩,expired_rows found pending,rfl⟩

theorem prepare_refused_frame {outcome : ActionOutcome} {after : Db}
    (ran : (prepareEscalation ticketId reason auth clock userId requestId registry uuidHex).on db =
      (.ok outcome,after)) (failed : outcome.success = false) : after = db := by
  have exit_ := @prepare_exit _ db ticketId reason userId requestId uuidHex auth clock registry
  rw [ran] at exit_
  cases exit_ with
  | refused errorCode errorMessage => rfl
  | prepared status inserted => cases failed

theorem prepare_accepted_frame {outcome : ActionOutcome} {after : Db}
    (ran : (prepareEscalation ticketId reason auth clock userId requestId registry uuidHex).on db =
      (.ok outcome,after)) (succeeded : outcome.success = true) :
    ∃ record, outcome.record = some record ∧ record.status = .pendingConfirmation ∧
      OnlyAdds db after record := by
  have exit_ := @prepare_exit _ db ticketId reason userId requestId uuidHex auth clock registry
  rw [ran] at exit_
  cases exit_ with
  | refused errorCode errorMessage => cases succeeded
  | prepared status inserted =>
      exact ⟨_,rfl,status,Table.insert_fresh inserted,Table.insert_rows inserted,rfl⟩

theorem confirm_refused_frame {outcome : ActionOutcome} {after : Db}
    (ran : (confirmAction actionId payloadHash auth clock userId).on db = (.ok outcome,after))
    (failed : outcome.success = false) :
    (outcome.errorCode = some "expired" → OnlyExpires db after actionId) ∧
      (outcome.errorCode ≠ some "expired" → after = db) := by
  have exit_ := @confirm_exit _ db actionId payloadHash userId auth clock
  rw [ran] at exit_
  cases exit_ with
  | refused record errorMessage plain =>
      exact ⟨fun same => absurd (Option.some.inj same) plain,fun _ => rfl⟩
  | expired found pending errorMessage =>
      exact ⟨fun _ => expired_frame found pending,fun other => absurd rfl other⟩
  | confirmed found pending now => cases failed

theorem execute_refused_frame {outcome : ActionOutcome} {after : Db}
    (ran : (executeAction actionId clock).on db = (.ok outcome,after))
    (failed : outcome.success = false) : after = db := by
  have exit_ := @execute_exit _ db actionId clock
  rw [ran] at exit_
  cases exit_ with
  | refused record errorCode errorMessage => rfl
  | repeated found done => cases failed
  | executed found ready now => cases failed

-- Of all failing exits one writes, and it writes two columns of one row.
theorem failed_calls_change_nothing (db : Db) :
    (∀ ticketId reason auth clock userId requestId registry uuidHex outcome after,
      (prepareEscalation ticketId reason auth clock userId requestId registry uuidHex).on db =
        (.ok outcome,after) →
      (outcome.success = false → after = db) ∧
      (outcome.success = true → ∃ record, outcome.record = some record ∧
        record.status = .pendingConfirmation ∧ OnlyAdds db after record)) ∧
    (∀ actionId payloadHash auth clock userId outcome after,
      (confirmAction actionId payloadHash auth clock userId).on db = (.ok outcome,after) →
      outcome.success = false →
      (outcome.errorCode = some "expired" → OnlyExpires db after actionId) ∧
      (outcome.errorCode ≠ some "expired" → after = db)) ∧
    ∀ actionId clock outcome after, (executeAction actionId clock).on db = (.ok outcome,after) →
      outcome.success = false → after = db := by
  refine ⟨?_,?_,?_⟩
  · intro ticketId reason auth clock userId requestId registry uuidHex outcome after ran
    exact ⟨prepare_refused_frame ran,prepare_accepted_frame ran⟩
  · intro actionId payloadHash auth clock userId outcome after ran failed
    exact confirm_refused_frame ran failed
  · intro actionId clock outcome after ran failed
    exact execute_refused_frame ran failed

end Exits

-- Whether a call succeeded, and its error code otherwise
def exitOf (ran : Except PyError ActionOutcome × Db) : Option (Bool × Option String) :=
  ran.1.toOption.map fun outcome => (outcome.success,outcome.errorCode)

theorem exitOf_ok {ran : Except PyError ActionOutcome × Db} {success : Bool} {errorCode : Option String}
    (exits : exitOf ran = some (success,errorCode)) :
    ∃ outcome, ran = (.ok outcome,ran.2) ∧ outcome.success = success ∧ outcome.errorCode = errorCode := by
  obtain ⟨result,after⟩ := ran
  cases result with
  | error error => cases exits
  | ok outcome =>
      cases exits
      exact ⟨outcome,rfl,rfl,rfl⟩

section Outage

variable [Host]

def proposing (ticketId : String) : Action ActionOutcome :=
  prepareEscalation ticketId "customer blocked" ⟨.operationsAdmin,none⟩ snapshotClock "ops_admin" "REQ-1" {}
    "0123456789abcdef"

def confirming (actionId : String) : Action ActionOutcome :=
  confirmAction actionId "" ⟨.operationsAdmin,none⟩ nextDay "ops_admin"

def proposedDb : Db := ((proposing "TKT-104").on targetedDb).2

end Outage

-- An escalation is proposed, and a day later it is too late to confirm it.
theorem outage_exits : let _ := asciiHost [] []
    exitOf ((proposing "TKT-105").on targetedDb) = some (false,some "not_found") ∧
    exitOf ((proposing "TKT-104").on targetedDb) = some (true,none) ∧
    exitOf ((confirming "ACT-0123456789ab").on proposedDb) = some (false,some "expired") ∧
    exitOf ((confirming "ACT-0").on proposedDb) = some (false,some "not_found") ∧
    exitOf ((executeAction "ACT-0123456789ab" nextDay).on proposedDb) = some (false,some "wrong_state") := by
  decide +kernel

theorem outage_frames : let _ := asciiHost [] []
    ((proposing "TKT-105").on targetedDb).2 = targetedDb ∧
    (∃ record, record.status = .pendingConfirmation ∧ OnlyAdds targetedDb proposedDb record) ∧
    OnlyExpires proposedDb ((confirming "ACT-0123456789ab").on proposedDb).2 "ACT-0123456789ab" ∧
    ((confirming "ACT-0").on proposedDb).2 = proposedDb ∧
    ((executeAction "ACT-0123456789ab" nextDay).on proposedDb).2 = proposedDb := by
  intro _
  obtain ⟨refuses,proposes,expires,missing,waits⟩ := outage_exits
  obtain ⟨before,_⟩ := failed_calls_change_nothing targetedDb
  obtain ⟨_,confirms,executes⟩ := failed_calls_change_nothing proposedDb
  refine ⟨?_,?_,?_,?_,?_⟩
  · obtain ⟨outcome,ran,failed,_⟩ := exitOf_ok refuses
    exact (before _ _ _ _ _ _ _ _ _ _ ran).1 failed
  · obtain ⟨outcome,ran,succeeded,_⟩ := exitOf_ok proposes
    obtain ⟨record,_,pending,adds⟩ := (before _ _ _ _ _ _ _ _ _ _ ran).2 succeeded
    exact ⟨record,pending,adds⟩
  · obtain ⟨outcome,ran,failed,code⟩ := exitOf_ok expires
    exact (confirms _ _ _ _ _ _ _ ran failed).1 code
  · obtain ⟨outcome,ran,failed,code⟩ := exitOf_ok missing
    exact (confirms _ _ _ _ _ _ _ ran failed).2 (by simp [code])
  · obtain ⟨outcome,ran,failed,_⟩ := exitOf_ok waits
    exact executes _ _ _ _ ran failed

end ParcelPilot
