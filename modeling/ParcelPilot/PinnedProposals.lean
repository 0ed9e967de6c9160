import ParcelPilot.ServiceGuarantees
import ParcelPilot.StoredActions

namespace ParcelPilot

open Fallible Interleaving

-- the dict that `payload_hash` dumps with its keys sorted
def payloadDict (actionType : ActionType) (target : String) (change : ProposedChange) : Json := .dict [
  ("action_type",.str actionType.value),("proposed_change",change.dump),("target",.str target)]

section Payloads

variable {actionType other : ActionType} {target named : String} {change proposed : ProposedChange}

theorem payload_keys : Py.jsonString "action_type" = "\"action_type\"" ∧
    Py.jsonString "proposed_change" = "\"proposed_change\"" ∧ Py.jsonString "target" = "\"target\"" ∧
    Py.jsonString "new_priority" = "\"new_priority\"" ∧
    Py.jsonString "previous_status" = "\"previous_status\"" ∧
    Py.jsonString "severity" = "\"severity\"" ∧ Py.jsonString "sla_breached" = "\"sla_breached\"" := by
  decide +kernel

theorem payloadJson_dumps : payloadJson actionType target change =
    (payloadDict actionType target change).dumps := by
  unfold payloadJson payloadDict ProposedChange.dump
  simp only [Json.dumps,Json.dumpEntries,payload_keys]
  rw [← String.toList_inj]
  simp only [String.toList_append,List.append_assoc]
  -- The texts that vary stay closed while the literals are laid end to end.
  generalize (Py.jsonString actionType.value).toList = kind,
    (Py.jsonString change.newPriority).toList = priority,
    (Py.jsonString change.previousStatus).toList = status,
    (Py.jsonString change.severity).toList = severity,(Py.jsonString target).toList = about
  simp

theorem payload_keyed : (payloadDict actionType target change).Keyed := by
  have keys : ["action_type","proposed_change","target"].Nodup := by decide
  exact ⟨keys,trivial,change_keyed change,trivial,trivial⟩

-- The text that is hashed says the whole proposal.
theorem payloadJson_inj (same : payloadJson actionType target change = payloadJson other named proposed) :
    actionType = other ∧ target = named ∧ change = proposed := by
  rw [payloadJson_dumps,payloadJson_dumps,Json.dumps_inj payload_keyed payload_keyed] at same
  simp only [payloadDict,ProposedChange.dump,Json.dict.injEq,List.cons.injEq,Prod.mk.injEq,
    Json.str.injEq,Json.bool.injEq,true_and,and_true] at same
  obtain ⟨⟨priority,status,severity,breached⟩,targets⟩ := same
  refine ⟨?_,targets,?_⟩
  · cases actionType
    cases other
    rfl
  · obtain ⟨newPriority,previousStatus,severe,slaBreached⟩ := change
    cases priority
    cases status
    cases severity
    cases breached
    rfl

end Payloads

section Run

variable [Host] {service : Deployment} {start : Db} {i : Nat} {request : Request}
  {config : Config Stmt Stmt.Answer Db Request HttpResponse} {body : ConfirmActionRequest}
  {outcome : ActionOutcome} {viewer : DemoUser} {actionType : ActionType} {target : String}
  {change : ProposedChange}

-- A row whose payload reads as the one that was signed, or a collision of the two texts.
def Signed (row : ActionRecord) (actionType : ActionType) (target : String) (change : ProposedChange) : Prop :=
  (row.actionType = actionType ∧ row.target = target ∧ row.proposedChange = change) ∨
  (payloadJson row.actionType row.target row.proposedChange ≠ payloadJson actionType target change ∧
    Host.sha256Hex (payloadJson row.actionType row.target row.proposedChange) =
      Host.sha256Hex (payloadJson actionType target change))

theorem bound_signed {row : ActionRecord} (bound : row.Bound)
    (same : row.payloadHash = payloadHash actionType target change) : Signed row actionType target change := by
  have digests : payloadHash row.actionType row.target row.proposedChange =
      payloadHash actionType target change := bound.symm.trans same
  by_cases texts : payloadJson row.actionType row.target row.proposedChange =
      payloadJson actionType target change
  · exact .inl (payloadJson_inj texts)
  · exact .inr ⟨texts,digests⟩

omit [Host] in
theorem inTime_accepted {db : Db} {actionId payloadHash userId : String} {auth : AuthContext}
    {clock : SnapshotClock} {caller : DemoUser} {ran : Except PyError ActionOutcome × Db}
    (ends : ConfirmInTime db actionId payloadHash userId auth clock ran)
    (told : answered caller ran.1 = ⟨200,.action ⟨outcome,viewer⟩⟩) (success : outcome.success = true) :
    caller = viewer ∧ ∃ row, ran.2.actions.row actionId = some row ∧ row.status = .confirmed ∧
      row.userId = userId ∧ payloadHash = row.payloadHash := by
  cases ends with
  | @unchanged result plain =>
      cases result with
      | error error =>
          obtain ⟨text,detail⟩ := response_detail error
          have same := congrArg HttpResponse.body told
          rw [show (answered caller (.error error)).body = .detail text from detail] at same
          cases same
      | ok answer =>
          cases told
          rw [(plain _ rfl).1] at success
          cases success
  | @confirmed record found pending owner signed =>
      cases told
      refine ⟨rfl,record.confirmed clock.now,?_,rfl,owner,signed⟩
      rw [← pending]
      exact saved_row found rfl (.confirm pending clock.now)

-- A user who was told that an action is confirmed has confirmed what they signed: for
-- good, the action is theirs and its payload is the one whose hash they sent.
theorem confirmed_pinned (empty : start.actions = Table.empty)
    (path : Reached (serviceSystem service) start config) (asked : request.endpoint = .confirm body)
    (finished : config.threads[i]? = some ⟨request,.ret ⟨200,.action ⟨outcome,viewer⟩⟩⟩)
    (success : outcome.success = true)
    (signed : body.payloadHash = payloadHash actionType target change) :
    service.getCurrentUser request.xDemoUser = .ok viewer ∧
    ∀ later, Relation.ReflTransGen (Step (serviceSystem service)) config later →
      ∃ row, later.store.actions.row body.actionId = some row ∧ row.userId = viewer.id ∧
        (row.status = .confirmed ∨ row.status = .executed) ∧ Signed row actionType target change := by
  obtain ⟨seen,caller,clock,ran,known,ends,passed,same | ⟨record,message,rfl⟩⟩ :=
    confirm_point empty path asked finished
  · obtain ⟨rfl,row,found,confirmed,owner,quoted⟩ := inTime_accepted ends same success
    refine ⟨known,fun later steps => ?_⟩
    have moved := later_trans passed (steps_onward (service_atomic service) path steps)
    obtain ⟨after,present,evolves⟩ := moved.rows body.actionId row found
    have kept := ActionRecord.evolves_proposal evolves
    have alive := (reached_orderly empty (reached_steps path steps)).alive body.actionId after present
    have left := ActionRecord.evolves_left_pending evolves (by simp [confirmed])
    refine ⟨after,present,?_,alive.status.resolve_left left,bound_signed alive.bound ?_⟩
    · exact (congrArg (fun r => r.userId) kept).trans owner
    · exact (congrArg (fun r => r.payloadHash) kept).trans (quoted.symm.trans signed)
  · cases success

end Run

def HttpResponse.succeeds (response : HttpResponse) : Bool :=
  match response with
  | ⟨200,.action told⟩ => told.outcome.success
  | _ => false

def outageChange : ProposedChange := ⟨"escalated","open","P1",false⟩

theorem outage_digests :
    outageDigest = @payloadHash routeHost .prepareEscalation "TKT-104" outageChange := by decide +kernel

theorem outage_accepted : (@Request.alone routeHost outageService outageConfirming
    (@Request.alone routeHost outageService outagePrepare targetedDb).2).1.succeeds = true := by
  decide +kernel

theorem outage_pinned : let _ := routeHost
    ∃ config row, Reached (serviceSystem outageService) targetedDb config ∧
      config.store.actions.row "ACT-0123456789ab" = some row ∧ row.userId = supportUser.id ∧
      Signed row .prepareEscalation "TKT-104" outageChange := by
  intro _
  have confirms := outage_accepted
  unfold HttpResponse.succeeds at confirms
  split at confirms
  · rename_i told answers
    obtain ⟨outcome,viewer⟩ := told
    obtain ⟨_,prepared⟩ := @reached_request routeHost outageService targetedDb ⟨targetedDb,[],[]⟩
      .initial outagePrepare
    obtain ⟨_,path⟩ := @reached_request routeHost outageService targetedDb _ prepared outageConfirming
    dsimp only at path
    rw [answers] at path
    obtain ⟨known,pinned⟩ := @confirmed_pinned routeHost outageService targetedDb 1 _ _ _ _ _
      .prepareEscalation "TKT-104" outageChange rfl path rfl rfl confirms outage_digests
    cases known
    obtain ⟨row,found,owner,_,same⟩ := pinned _ .refl
    exact ⟨_,row,path,found,owner,same⟩
  · cases confirms

end ParcelPilot
