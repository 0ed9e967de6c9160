import ParcelPilot.ActionRoutes

namespace ParcelPilot

-- What a caller may send about an action that exists.
inductive ActionRequest where
  | confirm (body : ConfirmActionRequest) (clock : SnapshotClock)
  | execute (body : ExecuteActionRequest) (clock : SnapshotClock)
  | get (actionId : String)

def ActionRequest.confirms (actionId : String) : ActionRequest → Prop
  | .confirm body _ => body.actionId = actionId
  | .execute .. => False
  | .get _ => False

-- A record shown is that of the action asked for.
def Shows (actionId : String) (outcome : ActionOutcome) : Prop :=
  ∀ record, outcome.record = some record → record.actionId = actionId

theorem shows_none {actionId code message : String} : Shows actionId (refused none code message) := by
  intro record shown
  cases shown

theorem shows_refused {record : ActionRecord} {actionId code message : String} (own : record.actionId = actionId) :
    Shows actionId (refused (some record) code message) := by
  intro other shown
  cases shown
  exact own

theorem shows_accepted {record : ActionRecord} {actionId : String} (own : record.actionId = actionId) :
    Shows actionId (accepted record) := by
  intro other shown
  cases shown
  exact own

section Responses

variable [Host] {db : Db} {user : DemoUser} {record : ActionRecord}

def ActionRequest.respond (user : DemoUser) : ActionRequest → Action ActionResponse
  | .confirm body clock => confirmRoute body user clock
  | .execute body clock => executeRoute body user clock
  | .get actionId => getActionRoute actionId user

-- The response carries the record of this action.
def Discloses (db : Db) (user : DemoUser) (request : ActionRequest) (actionId : String) : Prop :=
  ∃ response record, ((request.respond user).on db).1 = .ok response ∧
    response.outcome.record = some record ∧ record.actionId = actionId

theorem wrongState_shows (actionId verb : String) :
    Ensures (wrongStateOutcome actionId verb) (Shows actionId) := by
  refine ensures_bind (ensures_getAction actionId) fun found own => ?_
  cases found with
  | none => exact ensures_throw
  | some current => exact ensures_pure (shows_refused (own _ rfl))

theorem confirm_shows (actionId payloadHash userId : String) (auth : AuthContext)
    (clock : SnapshotClock) :
    Ensures (confirmAction actionId payloadHash auth clock userId) (Shows actionId) := by
  refine ensures_bind (ensures_getAction actionId) fun found own => ?_
  cases found with
  | none => exact ensures_pure shows_none
  | some record =>
      have key := own record rfl
      dsimp only
      split
      · exact ensures_pure (shows_refused key)
      · split
        · refine ensures_bind (ensures_any _) fun landed _ => ?_
          cases landed with
          | true => exact ensures_pure (shows_refused key)
          | false => exact wrongState_shows actionId "confirm"
        · split
          · exact ensures_pure (shows_refused key)
          · split
            · exact ensures_pure (shows_refused key)
            · refine ensures_bind (ensures_any _) fun ticket _ => ?_
              split
              · exact ensures_pure (shows_refused key)
              · exact ensures_pure (shows_refused key)
              · exact ensures_throw
              · split
                · exact ensures_pure (shows_refused key)
                · refine ensures_bind (ensures_any _) fun landed _ => ?_
                  cases landed with
                  | true => exact ensures_pure (shows_accepted key)
                  | false => exact wrongState_shows actionId "confirm"

theorem execute_shows (actionId : String) (clock : SnapshotClock) :
    Ensures (executeAction actionId clock) (Shows actionId) := by
  refine ensures_bind (ensures_getAction actionId) fun found own => ?_
  cases found with
  | none => exact ensures_pure shows_none
  | some record =>
      have key := own record rfl
      dsimp only
      split
      · exact ensures_pure (shows_accepted key)
      · split
        · exact ensures_pure (shows_refused key)
        · refine ensures_bind (ensures_any _) fun landed _ => ?_
          cases landed with
          | true => exact ensures_pure (shows_accepted key)
          | false =>
              refine ensures_bind (ensures_getAction actionId) fun again still => ?_
              cases again with
              | none => exact ensures_throw
              | some current => exact ensures_pure (shows_accepted (still _ rfl))

theorem owned_shows (actionId : String) (user : DemoUser) :
    Ensures (getOwnedActionOr404 actionId user) (Shows actionId) := by
  refine ensures_bind (ensures_getAction actionId) fun found own => ?_
  cases found with
  | none => exact ensures_throw
  | some record =>
      dsimp only
      split
      · exact ensures_pure (shows_accepted (own record rfl))
      · exact ensures_throw

-- A stranger's confirm is answered with the record in every branch it can reach.
theorem confirm_answers_strangers (stored : db.actions.row actionId = some record)
    (stranger : record.userId ≠ userId) (payloadHash : String) (auth : AuthContext)
    (clock : SnapshotClock) :
    ∃ outcome shown, ((confirmAction actionId payloadHash auth clock userId).on db).1 = .ok outcome ∧
      outcome.record = some shown ∧ shown.actionId = actionId := by
  have key : record.actionId = actionId := Table.row_key stored
  have read : (getAction actionId).on db = (.ok (some record),db) := by
    rw [getAction_alone,stored]
  unfold confirmAction
  rw [alone_then read]
  dsimp only
  by_cases pending : record.status = .pendingConfirmation
  · rw [if_neg (not_not.mpr pending)]
    by_cases late : record.expiresAt < clock.now
    · rw [if_pos late]
      have landed : db.actions.rows.any (·.isAt record.expired.actionId .pendingConfirmation) = true :=
        List.any_eq_true.mpr ⟨record,(Table.row_eq_some.mp stored).1,by
          simp [ActionRecord.isAt,ActionRecord.expired,pending]⟩
      rw [alone_then (saveActionIfStatus_alone record.expired .pendingConfirmation),if_pos landed]
      exact ⟨_,record.expired,rfl,rfl,key⟩
    · rw [if_neg late,if_pos stranger]
      exact ⟨_,record,rfl,rfl,key⟩
  · rw [if_pos pending]
    exact ⟨_,record,rfl,rfl,key⟩

-- Nobody but the preparer and the administrators is shown a stored action.
def KeepsPrivate (db : Db) (user : DemoUser) (request : ActionRequest) : Prop :=
  ∀ record ∈ db.actions.rows, user.role ≠ .operationsAdmin → record.userId ≠ user.id →
    ¬ Discloses db user request record.actionId

theorem keeps_private_iff (db : Db) (user : DemoUser) (request : ActionRequest) :
    KeepsPrivate db user request ↔
      ∀ record ∈ db.actions.rows, user.role ≠ .operationsAdmin → record.userId ≠ user.id →
        ¬ request.confirms record.actionId := by
  refine forall_congr' fun record => forall_congr' fun member => forall_congr' fun ordinary =>
    forall_congr' fun stranger => not_congr ?_
  have stored : db.actions.row record.actionId = some record := Table.row_eq_some.mpr ⟨member,rfl⟩
  have barred : mayAccess user record = false := by simp [mayAccess,ordinary,stranger]
  cases request with
  | confirm body clock =>
      constructor
      · rintro ⟨response,shown,answered,shows,same⟩
        obtain ⟨outcome,after,ran,ended⟩ := alone_ok answered
        cases Except.ok.inj ended
        have own := confirm_shows _ _ _ _ _ db outcome (by rw [ran]) shown shows
        exact own.symm.trans same
      · intro confirms
        change body.actionId = record.actionId at confirms
        obtain ⟨outcome,shown,ran,shows,own⟩ := confirm_answers_strangers stored stranger
          body.payloadHash user.toAuthContext clock
        rcases answered : (confirmAction record.actionId body.payloadHash user.toAuthContext clock
          user.id).on db with ⟨result,after⟩
        rw [answered] at ran
        cases ran
        refine ⟨⟨outcome,user⟩,shown,?_,shows,own⟩
        change ((confirmRoute body user clock).on db).1 = _
        unfold confirmRoute
        rw [confirms,alone_then answered]
        rfl
  | execute body clock =>
      constructor
      · rintro ⟨response,shown,answered,shows,same⟩
        obtain ⟨_,after,checked,rest⟩ := alone_ok answered
        obtain ⟨outcome,final,ran,ended⟩ := alone_ok rest
        cases Except.ok.inj ended
        have own : shown.actionId = body.actionId :=
          execute_shows _ _ after outcome (by rw [ran]) shown shows
        unfold requireOwnerOrAdmin at checked
        rw [alone_then (getAction_alone _),← own,same,stored] at checked
        simp [barred] at checked
      · exact False.elim
  | get actionId =>
      constructor
      · rintro ⟨response,shown,answered,shows,same⟩
        obtain ⟨outcome,after,ran,ended⟩ := alone_ok answered
        cases Except.ok.inj ended
        have own : shown.actionId = actionId := owned_shows _ _ db outcome (by rw [ran]) shown shows
        unfold getOwnedActionOr404 at ran
        rw [alone_then (getAction_alone _),← own,same,stored] at ran
        simp [barred] at ran
      · exact False.elim

-- Prepared by one support agent, asked after by another.
def escalatedAction : ActionRecord where
  actionId := "ACT-9a3bd1205c7e"
  requestId := "REQ-1"
  userId := "support_agent"
  actionType := .prepareEscalation
  target := "TKT-101"
  proposedChange := ⟨"escalated","open","P1",false⟩
  reason := "customer blocked"
  evidence := []
  risk := "high"
  payloadHash := "a3f5"
  status := .pendingConfirmation
  preparedAt := ⟨0,0,by decide⟩
  expiresAt := ⟨900000000,0,by decide⟩
  confirmedAt := none
  executedAt := none
  idempotencyKey := "ACT-9a3bd1205c7e"
  failureReason := none

def onlyAction (record : ActionRecord) : Db := {Db.empty with actions := ⟨[record],by simp⟩}

def restrictedUser : DemoUser :=
  ⟨"restricted_support","Anita Desai - Restricted Support (LumenWorks, ACCT-002)",
    .restrictedSupport,some ["ACCT-002"]⟩

def guessedConfirm : ConfirmActionRequest := ⟨"ACT-9a3bd1205c7e","x",by decide,by decide⟩

omit [Host] in
theorem confirm_discloses : ¬ @KeepsPrivate (asciiHost [] []) (onlyAction escalatedAction)
    restrictedUser (.confirm guessedConfirm ⟨⟨60000000,0,by decide⟩⟩) := by
  let _ := asciiHost [] []
  intro kept
  refine kept escalatedAction (List.mem_singleton.mpr rfl) (by decide) (by decide) ?_
  exact ⟨⟨refused (some escalatedAction) "wrong_user"
    "only the user who prepared this action may confirm it",restrictedUser⟩,escalatedAction,rfl,rfl,rfl⟩

end Responses

end ParcelPilot
