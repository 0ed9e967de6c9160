import ParcelPilot.ActionRules
import ParcelPilot.Escalation

namespace ParcelPilot

open Interleaving

section Calls

variable [Host] {admits : ActionCall → Prop} {i : Nat} {call : ActionCall} {db : Db}
  {log : List ActionEvent} {post : Except PyError β → Db → List ActionEvent → Prop}

-- From here on, whatever the others do, the thread keeps every write warranted.
abbrev Keeps (admits : ActionCall → Prop) (i : Nat) (call : ActionCall) (action : Action β)
    (post : Except PyError β → Db → List ActionEvent → Prop) (db : Db) (log : List ActionEvent) : Prop :=
  (actionProtocol admits).Holds i call action.run post db log

theorem keeps_statement {stmt : Stmt} {rest : stmt.Answer → Action β}
    (each : ∀ s l, Onward db log s l → HistoryValid s l → Warranted ⟨i,call,stmt,s⟩ l ∧
      Keeps admits i call (rest (Db.exec stmt s).1) post (Db.exec stmt s).2 (⟨i,call,stmt,s⟩ :: l)) :
    Keeps admits i call (statement stmt >>= rest) post db log := by
  intro s l moved valid
  obtain ⟨warranted,after⟩ := each s l moved valid
  obtain ⟨kept,onward⟩ := statement_valid valid warranted
  exact ⟨kept,onward,after⟩

theorem keeps_result {value : β} (holds : ∀ s l, Onward db log s l → post (.ok value) s l) :
    Keeps admits i call (pure value) post db log := fun s l moved _ => holds s l moved

theorem keeps_error {error : PyError} (holds : ∀ s l, post (.error error) s l) :
    Keeps admits i call (throw error) post db log := fun s l _ _ => holds s l

theorem history_reads : Reads (actionProtocol admits) :=
  fun _ _ _ _ _ valid => statement_valid valid trivial

theorem keeps_getTicket {ticketId : String} {auth : AuthContext} {tz : Int}
    {rest : Except PyError Ticket → Action β}
    (each : ∀ s l, Onward db log s l → HistoryValid s l →
      Keeps admits i call (rest (ticketAnswer ticketId auth tz (s.tickets.row ticketId))) post s
        (⟨i,call,.query (.ticket ticketId),s⟩ :: l)) :
    Keeps admits i call (reading (Fallible.attempt (getTicket ticketId auth tz)) >>= rest) post db log :=
  runs_getTicket history_reads each

theorem keeps_getAction {actionId : String} {rest : Option ActionRecord → Action β}
    (each : ∀ s l, Onward db log s l → HistoryValid s l →
      Keeps admits i call (rest (s.actions.row actionId)) post s
        (⟨i,call,.query (.action actionId),s⟩ :: l)) :
    Keeps admits i call (getAction actionId >>= rest) post db log :=
  runs_getAction history_reads each

theorem saved_lands {record : ActionRecord} {expectedStatus : ActionStatus}
    (saved : (Db.exec (.saveActionIfStatus record expectedStatus) db).1 = true) :
    landed record.actionId ⟨i,call,.saveActionIfStatus record expectedStatus,db⟩ = true := by
  obtain ⟨row,member,here⟩ := List.any_eq_true.mp saved
  simp only [ActionRecord.isAt,Bool.and_eq_true,decide_eq_true_eq] at here
  have found : db.actions.row record.actionId = some row := Table.row_eq_some.mpr ⟨member,here.1⟩
  simp [landed,Stmt.lands,found,here.2]

theorem keeps_save {record : ActionRecord} {expectedStatus : ActionStatus} {rest : Bool → Action β}
    (warranted : ∀ s l, Onward db log s l →
      Warranted ⟨i,call,.saveActionIfStatus record expectedStatus,s⟩ l)
    (won : ∀ s l before,
      landed record.actionId ⟨i,call,.saveActionIfStatus record expectedStatus,before⟩ = true →
      Keeps admits i call (rest true) post s
        (⟨i,call,.saveActionIfStatus record expectedStatus,before⟩ :: l))
    (lost : ∀ s l, Keeps admits i call (rest false) post s l) :
    Keeps admits i call (saveActionIfStatus record expectedStatus >>= rest) post db log := by
  refine keeps_statement fun s l moved _ => ⟨warranted s l moved,?_⟩
  cases saved : (Db.exec (.saveActionIfStatus record expectedStatus) s).1 with
  | true => exact won _ l s (saved_lands saved)
  | false => exact lost _ _

omit [Host] in
theorem stale_current {record : ActionRecord} {actionId : String} {s : Db} {l : List ActionEvent}
    (read : db.actions.row actionId = some record) (moved : Onward db log s l) {row : ActionRecord}
    (found : s.actions.row actionId = some row) (status : row.status = record.status) :
    row = record := by
  obtain ⟨after,present,evolves⟩ := moved.2 actionId record read
  cases Option.some.inj (found.symm.trans present)
  exact (ActionRecord.evolves_same_status evolves status).symm

theorem escalationRecord_stamped {ticket : Ticket} {ticketId reason userId requestId uuidHex : String}
    {outcome : SlaOutcome} {evidence : List EvidenceRef} {now expiresAt : DateTime} :
    (escalationRecord ticket ticketId reason outcome evidence userId requestId uuidHex now
      expiresAt).Stamped := ⟨.inl rfl,by simp [escalationRecord],by simp [escalationRecord],
        by simp [escalationRecord]⟩

theorem prepare_keeps {ticketId reason userId requestId uuidHex : String} {auth : AuthContext}
    {clock : SnapshotClock} {registry : Registry} (valid : HistoryValid db log)
    (prepared : call.preparer = some userId) :
    Keeps admits i call (prepareEscalation ticketId reason auth clock userId requestId registry
      uuidHex) anything db log :=
  prepare_runs history_reads valid fun _ _ _ _ _ _ _ valid =>
    statement_valid valid ⟨rfl,escalationRecord_stamped,prepared⟩

def ConfirmationLanded (i : Nat) (call : ActionCall) (result : Except PyError ActionOutcome) (_ : Db)
    (log : List ActionEvent) : Prop :=
  ∀ outcome caller, result = .ok outcome → outcome.success = true → call.confirmCall = some caller →
    ∃ event ∈ log, event.thread = i ∧ landed caller.actionId event = true ∧
      setsTo .confirmed event = true

omit [Host] in
theorem confirmationLanded_error {error : PyError} {s : Db} {l : List ActionEvent} :
    ConfirmationLanded i call (.error error) s l := by
  intro outcome caller result
  cases result

theorem keeps_refused {record : Option ActionRecord} {code message : String} :
    Keeps admits i call (pure (refused record code message)) (ConfirmationLanded i call) db log := by
  refine keeps_result fun s l _ outcome caller result success => ?_
  cases result
  cases success

theorem wrongState_keeps {actionId verb : String} :
    Keeps admits i call (wrongStateOutcome actionId verb) (ConfirmationLanded i call) db log := by
  refine keeps_getAction fun s l _ _ => ?_
  cases s.actions.row actionId with
  | none => exact keeps_error fun _ _ => confirmationLanded_error
  | some current => exact keeps_refused

theorem confirm_keeps {actionId payloadHash userId : String} {auth : AuthContext}
    {clock : SnapshotClock} (called : call.confirmCall = some ⟨actionId,payloadHash,auth,clock,userId⟩) :
    Keeps admits i call (confirmAction actionId payloadHash auth clock userId)
      (ConfirmationLanded i call) db log := by
  refine keeps_getAction fun s₀ l₀ _ valid₀ => ?_
  cases read : s₀.actions.row actionId with
  | none => exact keeps_refused
  | some record =>
      have key : record.actionId = actionId := Table.row_key read
      subst key
      dsimp only
      split
      · exact keeps_refused
      · rename_i notMoved
        have pending : record.status = .pendingConfirmation := not_not.mp notMoved
        split
        · refine keeps_save ?_ (fun _ _ _ _ => keeps_refused) fun _ _ => wrongState_keeps
          intro s l moved
          refine ⟨fun row found status => ?_,fun other => ?_,fun other => ?_⟩
          · cases stale_current read moved found (status.trans pending.symm)
            exact .expire pending
          · cases other
          · cases other
        · rename_i inTime
          split
          · exact keeps_refused
          · rename_i sameUser
            split
            · exact keeps_refused
            · rename_i samePayload
              refine keeps_getTicket fun s₁ l₁ moved₁ valid₁ => ?_
              split
              · exact keeps_refused
              · exact keeps_refused
              · exact keeps_error fun _ _ => confirmationLanded_error
              · rename_i ticket answer
                obtain ⟨row,present,allowed,same⟩ := ticketAnswer_ok answer
                split
                · exact keeps_refused
                · rename_i unchanged
                  refine keeps_save ?_ ?_ fun _ _ => wrongState_keeps
                  · intro s l moved
                    have onward : Onward s₀ _ s l := onward_trans moved₁
                      (onward_trans ⟨List.suffix_cons _ _,(onward_refl s₁ l₁).2⟩ moved)
                    have seen := moved.1.subset List.mem_cons_self
                    refine ⟨fun row found status => ?_,fun _ => ?_,fun other => ?_⟩
                    · cases stale_current read onward found (status.trans pending.symm)
                      exact .confirm pending clock.now
                    · refine ⟨_,called,rfl,(not_not.mp sameUser).symm,not_not.mp samePayload,
                        DateTime.le_of_not_lt inTime,_,seen,rfl,rfl,row,present,allowed,?_⟩
                      subst same
                      exact not_not.mp unchanged
                    · cases other
                  · intro s l before lands
                    refine keeps_result fun s' l' moved outcome caller _ _ named => ?_
                    cases Option.some.inj (called.symm.trans named)
                    exact ⟨_,moved.1.subset List.mem_cons_self,rfl,lands,rfl⟩

theorem execute_keeps {actionId : String} {clock : SnapshotClock}
    (may : ∀ s l record, Onward db log s l → s.actions.row actionId = some record →
      call.mayExecute record) :
    Keeps admits i call (executeAction actionId clock) anything db log := by
  refine keeps_getAction fun s₀ l₀ moved₀ _ => ?_
  cases read : s₀.actions.row actionId with
  | none => exact keeps_result fun _ _ _ => trivial
  | some record =>
      have permitted := may s₀ l₀ record moved₀ read
      have key : record.actionId = actionId := Table.row_key read
      subst key
      dsimp only
      split
      · exact keeps_result fun _ _ _ => trivial
      · split
        · exact keeps_result fun _ _ _ => trivial
        · rename_i ready
          have confirmed : record.status = .confirmed := not_not.mp ready
          refine keeps_save ?_ (fun _ _ _ _ => keeps_result fun _ _ _ => trivial) ?_
          · intro s l moved
            refine ⟨fun row found status => ?_,fun other => ?_,fun _ => permitted⟩
            · cases stale_current read moved found (status.trans confirmed.symm)
              exact .execute confirmed clock.now
            · cases other
          · intro s l
            refine keeps_getAction fun s l _ _ => ?_
            cases s.actions.row record.actionId with
            | none => exact keeps_error fun _ _ => trivial
            | some current => exact keeps_result fun _ _ _ => trivial

theorem executeRoute_keeps {body : ExecuteActionRequest} {user : DemoUser} {clock : SnapshotClock} :
    Keeps admits i (.executeRoute body user clock) (do
      requireOwnerOrAdmin body.actionId user
      executeAction body.actionId clock) anything db log := by
  refine guarded_runs history_reads (fun _ _ _ => trivial) fun s₀ l₀ record valid₀ read allowed => ?_
  refine execute_keeps fun s l later moved found => ?_
  obtain ⟨after,present,evolves⟩ := moved.2 _ record read
  cases Option.some.inj (found.symm.trans present)
  have kept := (ActionRecord.evolves_preserved (valid₀.stamped _ _ read) evolves).2.proposal
  have owner : later.userId = record.userId := congrArg (fun r => r.userId) kept
  simp only [mayAccess,Bool.or_eq_true,decide_eq_true_eq] at allowed
  refine ⟨(Table.row_key found).symm,?_⟩
  rw [owner]
  exact allowed.imp id Eq.symm

theorem getAction_keeps {actionId : String} {user : DemoUser} :
    Keeps admits i call (getOwnedActionOr404 actionId user) anything db log :=
  getOwned_runs history_reads

theorem confirmationLanded_other (other : call.confirmCall = none)
    {script : Script Stmt Stmt.Answer (Except PyError ActionOutcome)}
    (keeps : (actionProtocol admits).Holds i call script anything db log) :
    (actionProtocol admits).Holds i call script (ConfirmationLanded i call) db log := by
  refine Protocol.holds_imp (P := actionProtocol admits) keeps ?_
  intro result s l _ _ _ outcome caller _ _ named
  rw [other] at named
  cases named

theorem calls_sound : (actionProtocol admits).Sound ConfirmationLanded := by
  refine ⟨fun {i call db log} _ valid => ?_⟩
  cases call with
  | prepareEscalation ticketId reason auth clock userId requestId registry uuidHex =>
      exact confirmationLanded_other rfl (prepare_keeps valid rfl)
  | confirmAction actionId payloadHash auth clock userId => exact confirm_keeps rfl
  | executeAction actionId clock =>
      refine confirmationLanded_other rfl (execute_keeps fun s l record _ found => ?_)
      exact (Table.row_key found).symm
  | prepareRoute body user clock requestId registry uuidHex =>
      refine confirmationLanded_other rfl ?_
      rw [system_script,script_prepareRoute]
      exact prepare_keeps valid rfl
  | confirmRoute body user clock =>
      rw [system_script,script_confirmRoute]
      exact confirm_keeps rfl
  | executeRoute body user clock =>
      refine confirmationLanded_other rfl ?_
      rw [system_script,script_executeRoute]
      exact executeRoute_keeps
  | getActionRoute actionId user =>
      refine confirmationLanded_other rfl ?_
      rw [system_script,script_getActionRoute]
      exact getAction_keeps

end Calls

-- One escalation from proposal to execution.
def supportUser : DemoUser :=
  ⟨"support_agent","Rahul Verma - Support Agent",.supportAgent,some ["ACCT-003"]⟩

def outagePayload : String :=
  "\x7b\"action_type\": \"prepare_escalation\", \"proposed_change\": \x7b\"new_priority\": \"escalated\", \"previous_status\": \"open\"" ++
  ", \"severity\": \"P1\", \"sla_breached\": false\x7d, \"target\": \"TKT-104\"\x7d"

def outageDigest : String := "aee7fa65acc50e27e229261aca75f3594a9eb6cd2c3991104b6d96217948517a"

@[reducible] def routeHost : Host := asciiHost [(outagePayload,outageDigest)] []

def outageCalls : List ActionCall := [
  .prepareRoute ⟨"TKT-104","customer blocked",by decide,by decide⟩ supportUser snapshotClock "REQ-1" {}
    "0123456789abcdef0123456789abcdef",
  .confirmRoute ⟨"ACT-0123456789ab",outageDigest,by decide,by decide⟩ supportUser snapshotClock,
  .executeRoute ⟨"ACT-0123456789ab",by decide⟩ supportUser snapshotClock]

-- The calls one after another, each to its end.
def inTurn [Host] (calls : List ActionCall) (db : Db) : Db :=
  calls.foldl (fun db call => (call.script.run Db.exec db).2) db

section Runs

variable [Host] {admits : ActionCall → Prop} {start : Db}
  {config next : Config Stmt Stmt.Answer Db ActionCall (Except PyError ActionOutcome)}

theorem reached_valid (empty : start.actions = Table.empty)
    (reached : Reached (actionSystem admits) start config) : HistoryValid config.store config.log :=
  (Protocol.reached_holds calls_sound (initial_valid empty) reached).1

theorem step_rows (empty : start.actions = Table.empty)
    (reached : Reached (actionSystem admits) start config)
    (step : Step (actionSystem admits) config next) (actionId : String) :
    RowStep (config.store.actions.row actionId) (next.store.actions.row actionId) := by
  have valid := reached_valid empty (reached.step step)
  cases step with
  | issue admitted => exact .same _
  | operation running => exact row_step valid.warranted.1 actionId
  | outside changed =>
      rw [show _ = _ from changed]
      exact .same _

theorem later_rows (empty : start.actions = Table.empty)
    (reached : Reached (actionSystem admits) start config)
    (steps : Relation.ReflTransGen (Step (actionSystem admits)) config next)
    (found : config.store.actions.row actionId = some row) :
    Reached (actionSystem admits) start next ∧
      ∃ after, next.store.actions.row actionId = some after ∧ row.Evolves after := by
  obtain ⟨path,onward⟩ := Protocol.later_onward calls_sound (initial_valid empty) reached steps
  exact ⟨path,onward.2 actionId row found⟩

theorem reached_inTurn {db : Db} (reached : Reached (actionSystem admits) start config)
    (stands : config.store = db) (calls : List ActionCall) (allowed : ∀ call ∈ calls, admits call) :
    ∃ after, Reached (actionSystem admits) start after ∧ after.store = inTurn calls db := by
  subst stands
  induction calls generalizing config with
  | nil => exact ⟨config,reached,rfl⟩
  | cons call rest ih =>
      obtain ⟨log,path⟩ := reached_alone reached (allowed call (by simp))
      exact ih path fun other member => allowed other (by simp [member])

omit [Host] in
theorem outage_executed : ∃ row ∈ (@inTurn routeHost outageCalls targetedDb).actions.rows,
    row.status = .executed := by
  have found : ((@inTurn routeHost outageCalls targetedDb).actions.row "ACT-0123456789ab").map
      (·.status) = some .executed := by decide +kernel
  obtain ⟨row,present,executed⟩ := Option.map_eq_some_iff.mp found
  exact ⟨row,(Table.row_eq_some.mp present).1,executed⟩

omit [Host] in
theorem outage_reached : ∃ config, @Reached Stmt Stmt.Answer Db ActionCall _
    (@actionSystem routeHost ActionCall.isRoute) targetedDb config ∧
    ∃ row ∈ config.store.actions.rows, row.status = .executed := by
  obtain ⟨config,reached,same⟩ := @reached_inTurn routeHost ActionCall.isRoute targetedDb
    ⟨targetedDb,[],[]⟩ targetedDb .initial rfl outageCalls (by simp [outageCalls,ActionCall.isRoute])
  refine ⟨config,reached,?_⟩
  rw [same]
  exact outage_executed

def ConfirmSucceeded (actionId : String)
    (thread : Thread Stmt Stmt.Answer ActionCall (Except PyError ActionOutcome)) : Prop :=
  ∃ caller outcome, thread.call.confirmCall = some caller ∧ caller.actionId = actionId ∧
    thread.rest = .ret (.ok outcome) ∧ outcome.success = true

theorem confirm_succeeds_once (empty : start.actions = Table.empty)
    (reached : Reached (actionSystem admits) start config) {i j : Nat}
    (here : config.threads[i]? = some one) (there : config.threads[j]? = some two)
    (first : ConfirmSucceeded actionId one) (second : ConfirmSucceeded actionId two) : i = j := by
  have written : ∀ {k thread}, config.threads[k]? = some thread → ConfirmSucceeded actionId thread →
      ∃ event ∈ (config.log.filter (landed actionId)).filter (setsTo .confirmed), event.thread = k := by
    rintro k ⟨call,rest⟩ running ⟨caller,outcome,named,rfl,rfl,success⟩
    obtain ⟨event,logged,same,lands,sets⟩ := Protocol.finished_goal calls_sound
      (initial_valid empty) reached running outcome caller rfl success named
    exact ⟨event,List.mem_filter.mpr ⟨List.mem_filter.mpr ⟨logged,lands⟩,sets⟩,same⟩
  have once := story_sets_once ((reached_valid empty reached).story actionId) .confirmed
  obtain ⟨left,leftMember,rfl⟩ := written here first
  obtain ⟨right,rightMember,rfl⟩ := written there second
  obtain ⟨only,single⟩ := List.length_eq_one_iff.mp
    (le_antisymm once (List.length_pos_of_mem leftMember))
  rw [single,List.mem_singleton] at leftMember rightMember
  rw [leftMember,rightMember]

-- The lifecycle of every action, in every interleaving of any calls.
theorem action_lifecycle (empty : start.actions = Table.empty)
    (reached : Reached (actionSystem admits) start config) :
    (∀ row ∈ config.store.actions.rows, row.Stamped) ∧
    (∀ next, Step (actionSystem admits) config next → ∀ actionId,
      RowStep (config.store.actions.row actionId) (next.store.actions.row actionId)) ∧
    (∀ later, Relation.ReflTransGen (Step (actionSystem admits)) config later →
      ∀ row ∈ config.store.actions.rows, ∃ after ∈ later.store.actions.rows,
        row.Evolves after ∧ row.Preserved after) ∧
    (∀ (actionId : String) (i j : Nat) one two, config.threads[i]? = some one →
      config.threads[j]? = some two → ConfirmSucceeded actionId one →
      ConfirmSucceeded actionId two → i = j) ∧
    (∀ actionId, (config.log.filter fun event =>
      setsTo .executed event && landed actionId event).length ≤ 1) := by
  have valid := reached_valid empty reached
  have rows : ∀ row ∈ config.store.actions.rows,
      config.store.actions.row row.actionId = some row :=
    fun row member => Table.row_eq_some.mpr ⟨member,rfl⟩
  refine ⟨?_,?_,?_,?_,?_⟩
  · exact fun row member => valid.stamped _ row (rows row member)
  · exact fun next step actionId => step_rows empty reached step actionId
  · intro later steps row member
    obtain ⟨_,after,present,evolves⟩ := later_rows empty reached steps (rows row member)
    exact ⟨after,(Table.row_eq_some.mp present).1,evolves,
      (ActionRecord.evolves_preserved (valid.stamped _ row (rows row member)) evolves).2⟩
  · exact fun actionId i j one two here there => confirm_succeeds_once empty reached here there
  · intro actionId
    have once := story_sets_once (valid.story actionId) .executed
    rwa [List.filter_filter] at once

omit [Host] in
theorem outage_lifecycle : ∃ config, @Reached Stmt Stmt.Answer Db ActionCall _
    (@actionSystem routeHost ActionCall.isRoute) targetedDb config ∧
    (∃ row ∈ config.store.actions.rows, row.status = .executed) ∧
    ∀ row ∈ config.store.actions.rows, row.Stamped := by
  let _ := routeHost
  obtain ⟨config,reached,executed⟩ := outage_reached
  exact ⟨config,reached,executed,(action_lifecycle rfl reached).1⟩

omit [Host] in
theorem confirmChecked_proposal {record row : ActionRecord} {event : ActionEvent}
    {older : List ActionEvent} (checked : ConfirmChecked record event older)
    (same : record.proposal = row.proposal) : ConfirmChecked row event older := by
  have field : ∀ {α : Type} (read : ActionRecord → α), (∀ r, read r.proposal = read r) →
      read record = read row := fun read keeps => by rw [← keeps record,same,keeps row]
  obtain ⟨caller,named,action,user,payload,inTime,seen,member,thread,op,ticket,present,allowed,status⟩ :=
    checked
  have target := field (·.target) fun _ => rfl
  refine ⟨caller,named,action.trans (field (·.actionId) fun _ => rfl),
    user.trans (field (·.userId) fun _ => rfl),payload.trans (field (·.payloadHash) fun _ => rfl),?_,
    seen,member,thread,?_,ticket,?_,allowed,?_⟩
  · rw [← field (·.expiresAt) fun _ => rfl]
    exact inTime
  · rw [op,target]
  · rw [← target]
    exact present
  · rw [status]
    exact congrArg ProposedChange.previousStatus (field (·.proposedChange) fun _ => rfl)

-- How an executed action got there, through the routes: prepared by its user,
-- then confirmed by the same user after every check, then executed by that user
-- or an administrator.
def ProperlyExecuted (row : ActionRecord) (log : List ActionEvent) : Prop :=
  ∃ newer confirmation older, log = newer ++ confirmation :: older ∧
    landed row.actionId confirmation = true ∧ setsTo .confirmed confirmation = true ∧
    ConfirmChecked row confirmation older ∧
    (∃ preparation ∈ older, landed row.actionId preparation = true ∧ Inserts preparation row ∧
      preparation.call.preparer = some row.userId) ∧
    ∃ execution ∈ newer, landed row.actionId execution = true ∧ setsTo .executed execution = true ∧
      ∃ body user clock, execution.call = .executeRoute body user clock ∧
        body.actionId = row.actionId ∧ (user.id = row.userId ∨ user.role = .operationsAdmin)

theorem executed_properly (empty : start.actions = Table.empty)
    (reached : Reached (actionSystem ActionCall.isRoute) start config)
    (stored : row ∈ config.store.actions.rows) (executed : row.status = .executed) :
    ProperlyExecuted row config.log := by
  have valid := reached_valid empty reached
  have story := valid.story row.actionId
  rw [Table.row_eq_some.mpr ⟨stored,rfl⟩] at story
  generalize past : config.log.filter (landed row.actionId) = events at story
  cases story with
  | prepared status => simp [executed] at status
  | confirmed status => simp [executed] at status
  | expired status => simp [executed] at status
  | @executed _ third second first _ executes confirms inserts =>
      obtain ⟨newest,rest,split_log,_,third_lands,past⟩ := List.filter_eq_cons_iff.mp past
      obtain ⟨between,older,split_rest,_,second_lands,past⟩ := List.filter_eq_cons_iff.mp past
      have first_in : first ∈ older.filter (landed row.actionId) := by simp [past]
      obtain ⟨first_older,first_lands⟩ := List.mem_filter.mp first_in
      have order : config.log = (newest ++ third :: between) ++ second :: older := by
        rw [split_log,split_rest,List.append_assoc,List.cons_append]
      have third_in : third ∈ config.log := by simp [split_log]
      have all := valid.warranted
      refine ⟨_,second,older,order,second_lands,?_,?_,?_,third,by simp,third_lands,?_,?_⟩
      · obtain ⟨record,_,op,status,_⟩ := confirms
        simp [setsTo,op,status]
      · obtain ⟨record,_,op,status,same⟩ := confirms
        rw [order] at all
        have warranted := warranted_at all
        simp only [Warranted,op] at warranted
        exact confirmChecked_proposal (warranted.2.1 status) same
      · obtain ⟨record,op,same⟩ := inserts
        obtain ⟨early,late,split_older⟩ := List.append_of_mem first_older
        rw [order,split_older,← List.cons_append,← List.append_assoc] at all
        have warranted := warranted_at all
        simp only [Warranted,op] at warranted
        refine ⟨first,first_older,first_lands,⟨record,op,same⟩,warranted.2.2.trans ?_⟩
        exact congrArg some (congrArg (fun r => r.userId) same)
      · obtain ⟨record,_,op,status,_⟩ := executes
        simp [setsTo,op,status]
      · obtain ⟨record,_,op,status,same⟩ := executes
        rw [split_log] at all
        have warranted := warranted_at all
        simp only [Warranted,op] at warranted
        have permitted := warranted.2.2 status
        have route := (reached_admitted reached).2 third third_in
        have action : record.actionId = row.actionId := congrArg (fun r => r.actionId) same
        have user_same : record.userId = row.userId := congrArg (fun r => r.userId) same
        obtain ⟨body,user,clock,caller,asked,may⟩ :=
          ActionCall.executeRoute_of_mayExecute route permitted
        exact ⟨body,user,clock,caller,asked.trans action,user_same ▸ may⟩

omit [Host] in
theorem outage_executed_properly : ∃ config, @Reached Stmt Stmt.Answer Db ActionCall _
    (@actionSystem routeHost ActionCall.isRoute) targetedDb config ∧
    ∃ row ∈ config.store.actions.rows, row.status = .executed ∧ ProperlyExecuted row config.log := by
  let _ := routeHost
  obtain ⟨config,reached,row,stored,executed⟩ := outage_reached
  exact ⟨config,reached,row,stored,executed,executed_properly rfl reached stored executed⟩

end Runs

end ParcelPilot
