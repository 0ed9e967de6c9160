import ParcelPilot.RadarEscalations
import ParcelPilot.ServiceGuarantees

namespace ParcelPilot

open Fallible Interleaving

section Proposals

variable [Host] {db later : Db} {auth : AuthContext} {clock : SnapshotClock} {registry : Registry}
  {ticketId reason userId requestId uuidHex : String}

theorem escalatable_elsewhere (same : OnlyActionsChange db later)
    (able : Escalatable db ticketId auth clock registry) :
    Escalatable later ticketId auth clock registry := by
  unfold Escalatable at able ⊢
  rw [on_elsewhere same (elsewhere_getTicket ticketId),
    on_elsewhere same (elsewhere_calculateSla ticketId)]
  exact able

theorem prepare_succeeds (able : Escalatable db ticketId auth clock registry)
    (recordable : Recordable db clock uuidHex) :
    ∃ record actions, record.target = ticketId ∧ record.userId = userId ∧
      record.status = .pendingConfirmation ∧ db.actions.insert record = some actions ∧
      (prepareEscalation ticketId reason auth clock userId requestId registry uuidHex).on db =
        (.ok (accepted record),{db with actions := actions}) := by
  obtain ⟨ticket,read,isOpen,decision,outcome,calculated,result,bar⟩ := able
  obtain ⟨⟨expiresAt,expiry⟩,fresh⟩ := recordable
  have ran : (prepareEscalation ticketId reason auth clock userId requestId registry uuidHex).on db =
      (insertAction (escalationRecord ticket ticketId reason outcome decision.evidence userId requestId
        uuidHex clock.now expiresAt) >>= fun _ => pure (accepted (escalationRecord ticket ticketId reason
          outcome decision.evidence userId requestId uuidHex clock.now expiresAt))).on db := by
    unfold prepareEscalation
    rw [alone_then (by rw [alone_reading,on_attempt,read])]
    dsimp only
    rw [if_neg (not_not.mpr isOpen),alone_then (by rw [alone_reading,calculated]),result]
    dsimp only
    rw [if_pos bar,alone_then (by rw [alone_raising,expiry])]
  rcases @insertAction_exit _ db (escalationRecord ticket ticketId reason outcome decision.evidence
    userId requestId uuidHex clock.now expiresAt) with ⟨error,failed⟩ | ⟨actions,inserted,written⟩
  · obtain ⟨after,inserts⟩ := insertAction_alone db (escalationRecord ticket ticketId reason outcome
      decision.evidence userId requestId uuidHex clock.now expiresAt) fresh
    rw [failed] at inserts
    cases inserts
  · refine ⟨_,actions,rfl,rfl,rfl,inserted,?_⟩
    rw [ran,alone_then written]
    rfl

end Proposals

section Run

variable [Host] {service : Deployment} {start db : Db} {request : Request} {ticketId : String}
  {config : Config Stmt Stmt.Answer Db Request HttpResponse}

theorem radar_answered {body : RadarRequest} {response : RadarResponse}
    (asked : request.endpoint = .runRadar body)
    (told : (request.alone service db).1 = ⟨200,.radar response⟩) :
    ∃ user clock, service.getCurrentUser request.xDemoUser = .ok user ∧ service.getConn = .ok () ∧
      service.getClock = .ok clock ∧
      (runOperationsRadar user.toAuthContext clock body.alertTypes body.windowDays service.registry).on
        db = .ok response.alerts := by
  have answers : ∀ text, (request.alone service db).1.body ≠ .detail text := by
    intro text
    simp [told]
  obtain ⟨user,clock,known,conn,ticking⟩ := served_dependencies (by simp [asked]) answers
  refine ⟨user,clock,known,conn,ticking,?_⟩
  have served : serve service request = Body.radar <$>
      reading (runRadar body user clock service.registry request.latencyMs) := by
    unfold serve
    simp only [known,conn,asked,ticking,raising_then]
  rw [reading_alone served] at told answers
  cases ran : (runRadar body user clock service.registry request.latencyMs).on db with
  | error error =>
      obtain ⟨text,detail⟩ := response_detail error
      rw [ran] at answers
      exact absurd detail (answers text)
  | ok listed =>
      rw [ran] at told
      cases told
      exact runRadar_ok ran

variable {i : Nat} {body : RadarRequest} {response : RadarResponse} {alert : AlertCandidate}
  {escalation : PrepareEscalationRequest}

def OnlyDraw (config : Config Stmt Stmt.Answer Db Request HttpResponse) (j : Nat) (actionId : String) :
    Prop :=
  ∀ (k : Nat) call rest body, config.threads[k]? = some ⟨call,rest⟩ → call.endpoint = .prepare body →
    newActionId call.uuidHex = actionId → k = j

-- A request told of a proposal that waits on the ticket for its user, and that is
-- there from then on, to be taken to its end.
def Escalated (service : Deployment) (config : Config Stmt Stmt.Answer Db Request HttpResponse)
    (ticketId : String) (user : DemoUser) (answer : HttpResponse) : Prop :=
  ∃ record, answer = ⟨200,.action ⟨accepted record,user⟩⟩ ∧ record.status = .pendingConfirmation ∧
    record.target = ticketId ∧ record.userId = user.id ∧
    ∀ later, Relation.ReflTransGen (Step (serviceSystem service)) config later →
      ∃ row, later.store.actions.row record.actionId = some row ∧ row.target = ticketId ∧
        row.userId = user.id ∧ Completable service later.store row

section Drawn

variable {actionId : String}

omit [Host] in
theorem savedActions_free {new : ActionRecord} {status : ActionStatus}
    (free : db.actions.row actionId = none) :
    (savedActions db.actions new status).row actionId = none := by
  rw [savedActions_row,free]
  rfl

theorem confirm_free {confirmed payloadHash userId : String} {auth : AuthContext} {clock : SnapshotClock}
    (free : db.actions.row actionId = none) :
    ((confirmAction confirmed payloadHash auth clock userId).on db).2.actions.row actionId = none := by
  have exits := @confirm_exit _ db confirmed payloadHash userId auth clock
  revert exits
  generalize (confirmAction confirmed payloadHash auth clock userId).on db = ran
  intro exits
  cases exits with
  | raised error => exact free
  | refused record errorMessage plain => exact free
  | expired found pending errorMessage => exact savedActions_free free
  | confirmed found pending now => exact savedActions_free free

theorem guarded_free {executed : String} {user : DemoUser} {clock : SnapshotClock}
    (free : db.actions.row actionId = none) : ((do
      requireOwnerOrAdmin executed user
      executeAction executed clock : Action ActionOutcome).on db).2.actions.row actionId = none := by
  have executes : ((executeAction executed clock).on db).2.actions.row actionId = none := by
    have exits := @execute_exit _ db executed clock
    revert exits
    generalize (executeAction executed clock).on db = ran
    intro exits
    cases exits with
    | refused record errorCode errorMessage => exact free
    | repeated found done => exact free
    | executed found ready now => exact savedActions_free free
  unfold requireOwnerOrAdmin
  rw [bind_assoc,alone_then (getAction_alone executed)]
  cases db.actions.row executed with
  | none => exact free
  | some record =>
      dsimp only
      split
      · exact executes
      · exact free

theorem prepare_free {ticketId reason userId requestId uuidHex : String} {auth : AuthContext}
    {clock : SnapshotClock} {registry : Registry} (other : newActionId uuidHex ≠ actionId)
    (free : db.actions.row actionId = none) :
    ((prepareEscalation ticketId reason auth clock userId requestId registry
      uuidHex).on db).2.actions.row actionId = none := by
  rcases @prepare_writes _ db ticketId reason userId requestId uuidHex auth clock registry with
    same | ⟨ticket,outcome,evidence,expiresAt,actions,_,_,inserted,ran⟩
  · rw [same]
    exact free
  · rw [ran]
    have written := Table.insert_row inserted actionId
    exact written.trans ((if_neg other).trans free)

theorem acted_free (acts : request.acts service) (free : db.actions.row actionId = none)
    (other : ∀ body, request.endpoint = .prepare body → newActionId request.uuidHex ≠ actionId) :
    (request.alone service db).2.actions.row actionId = none := by
  obtain ⟨⟨call,user⟩,calls⟩ := Option.isSome_iff_exists.mp acts
  rw [alone_call calls]
  unfold Request.actionCall at calls
  split at calls
  · cases calls
    rw [script_getActionRoute]
    exact (congrArg (·.actions.row actionId) getOwned_alone).trans free
  · rename_i asked _
    cases calls
    rw [script_prepareRoute]
    exact prepare_free (other _ asked) free
  · cases calls
    rw [script_confirmRoute]
    exact confirm_free free
  · cases calls
    rw [script_executeRoute]
    exact guarded_free free
  · cases calls

theorem drawn_free {j : Nat} {points : List (Event Stmt Db Request)} (empty : start.actions = Table.empty)
    (linearized : Linearized (serviceSystem service) (Request.acts service) Later Responds start config
      points) {point : Event Stmt Db Request} (member : point ∈ points) (here : point.thread = j)
    (only : OnlyDraw config j actionId) : point.before.actions.row actionId = none := by
  obtain ⟨newer,older,rfl,earlier⟩ := serial_before linearized.serial member
  have absent : ∀ other ∈ older, other.thread ≠ j := by
    intro other among same
    have once := linearized.once
    rw [List.map_append,List.map_cons] at once
    have apart := (List.nodup_cons.mp (List.nodup_append.mp once).2.1).1
    exact apart (List.mem_map.mpr ⟨other,among,same.trans here.symm⟩)
  refine @serial_invariant _ _ _ _ _ _ start older (fun db => db.actions.row actionId = none) _ ?_ ?_
    earlier
  · rw [empty]
    rfl
  · intro other among free
    obtain ⟨acts,rest,found⟩ := linearized.issued other
      (List.mem_append_right newer (List.mem_cons_of_mem point among))
    refine acted_free acts free fun body asked same => ?_
    exact absent other among (only other.thread other.call rest body found asked same)

end Drawn

omit [Host] in
theorem responds_accepted {record : ActionRecord} {user : DemoUser} {response : HttpResponse}
    (responds : Responds response ⟨200,.action ⟨accepted record,user⟩⟩) :
    response = ⟨200,.action ⟨accepted record,user⟩⟩ := by
  unfold Responds at responds
  cases responds with
  | same => rfl
  | late stands => cases stands

section Escalating

variable {user : DemoUser} {clock : SnapshotClock} {escalation : PrepareEscalationRequest}
  {preparing : Request}

theorem prepared_escalated (digest : ∀ text : String, (Host.sha256Hex text).length = 64)
    (empty : start.actions = Table.empty) (path : Reached (serviceSystem service) start config)
    (calls : preparing.actionCall service = some (.prepareRoute escalation user clock
      preparing.requestId service.registry preparing.uuidHex,user)) {seen : Db}
    (able : Escalatable seen escalation.ticketId user.toAuthContext clock service.registry)
    (recordable : Recordable seen clock preparing.uuidHex)
    (passed : Later (preparing.alone service seen).2 config.store) :
    Escalated service config escalation.ticketId user (preparing.alone service seen).1 := by
  obtain ⟨record,actions,about,owner,pending,inserted,prepared⟩ := @prepare_succeeds _ seen
    user.toAuthContext clock service.registry escalation.ticketId escalation.reason user.id
    preparing.requestId preparing.uuidHex able recordable
  have alone : preparing.alone service seen =
      (⟨200,.action ⟨accepted record,user⟩⟩,{seen with actions := actions}) := by
    unfold Action.on perform at prepared
    rw [alone_call calls,script_prepareRoute,prepared]
    rfl
  rw [alone] at passed ⊢
  have written : actions.row record.actionId = some record := by
    rw [Table.insert_row inserted,if_pos rfl]
  refine ⟨record,rfl,pending,about,owner,fun later steps => ?_⟩
  have moved := later_trans passed (steps_onward (service_atomic service) path steps)
  obtain ⟨row,found,evolves⟩ := moved.rows record.actionId record written
  have kept := ActionRecord.evolves_proposal evolves
  have target : row.target = record.target := congrArg (·.target) kept
  have prepares : row.userId = record.userId := congrArg (·.userId) kept
  refine ⟨row,found,target.trans about,prepares.trans owner,?_⟩
  apply orderly_completable digest (reached_orderly empty (reached_steps path steps))
  rw [Table.row_key found]
  exact found

end Escalating

variable {i : Nat} {body : RadarRequest} {response : RadarResponse} {alert : AlertCandidate}
  {escalation : PrepareEscalationRequest}

-- A ticket of an urgent alert that anybody was shown is one that the same user can have
-- escalated, whatever else goes on before, meanwhile and after: every interleaving tells
-- the request of its proposal, and there is one that lets it finish.
theorem alerts_escalate (digest : ∀ text : String, (Host.sha256Hex text).length = 64)
    (empty : start.actions = Table.empty) (path : Reached (serviceSystem service) start config)
    (finished : config.threads[i]? = some ⟨request,.ret ⟨200,.radar response⟩⟩)
    (asked : request.endpoint = .runRadar body) (listed : alert ∈ response.alerts)
    (urgent : alert.Urgent) (named : ticketId ∈ alert.representativeRecords) (preparing : Request)
    (sameUser : preparing.xDemoUser = request.xDemoUser) (asks : preparing.endpoint = .prepare escalation)
    (target : escalation.ticketId = ticketId) :
    ∃ user clock, service.getCurrentUser request.xDemoUser = .ok user ∧ service.getClock = .ok clock ∧
      ((∃ expiresAt, clock.now.plusMinutes actionExpiryMinutes = .ok expiresAt) →
        (∀ (j : Nat) answer, config.threads[j]? = some ⟨preparing,.ret answer⟩ →
          OnlyDraw config j (newActionId preparing.uuidHex) →
          Escalated service config ticketId user answer) ∧
        (config.store.actions.row (newActionId preparing.uuidHex) = none →
          ∃ answer after log, Reached (serviceSystem service) start
              ⟨after,config.threads ++ [⟨preparing,.ret answer⟩],log⟩ ∧
            Escalated service ⟨after,config.threads ++ [⟨preparing,.ret answer⟩],log⟩ ticketId user
              answer)) := by
  obtain ⟨elsewhere,isolated⟩ := isolated_response path
  have reads : ¬ request.acts service := by simp [Request.acts,Request.actionCall,asked]
  have told := isolated i request _ reads finished
  obtain ⟨user,clock,known,conn,ticking,ran⟩ := radar_answered asked told.symm
  obtain ⟨alertType,_,raised⟩ := (produced_raised ran alert).mp (returned_produced ran listed)
  have able : Escalatable start escalation.ticketId user.toAuthContext clock service.registry := by
    rw [target]
    exact raised_escalatable raised urgent named
  have calls : preparing.actionCall service = some (.prepareRoute escalation user clock
      preparing.requestId service.registry preparing.uuidHex,user) := by
    simp [Request.actionCall,sameUser,asks,known,conn,ticking]
  have acts : preparing.acts service := by simp [Request.acts,calls]
  subst target
  refine ⟨user,clock,known,ticking,fun window => ⟨fun j answer answered only => ?_,fun fresh => ?_⟩⟩
  · obtain ⟨points,progressing⟩ := reached_progressing (service_atomic service) path
    have linearized := progressing_linearized progressing
    obtain ⟨point,member,here,rfl,responds⟩ := linearized.answered j preparing answer acts answered
    have counted := fun other present => (linearized.issued other present).1
    have orderly := points_orderly empty linearized.serial counted point member
    have passed := serial_after (service_atomic service)
      (fun other present => ⟨trivial,counted other present⟩) linearized.serial point member
    obtain ⟨record,accepts,escalated⟩ := prepared_escalated digest empty path calls
      (escalatable_elsewhere orderly.elsewhere able)
      ⟨window,drawn_free empty linearized member here only⟩ passed
    change Responds answer (point.call.alone service point.before).1 at responds
    rw [accepts] at responds
    exact ⟨record,responds_accepted responds,escalated⟩
  · obtain ⟨log,proposed⟩ := reached_request path preparing
    exact ⟨_,_,log,proposed,prepared_escalated digest empty proposed calls
      (escalatable_elsewhere elsewhere able) ⟨window,fresh⟩ (later_refl _)⟩

end Run

theorem default_window : 1 ≤ (30 : Int) ∧ (30 : Int) ≤ 365 := by decide

def breachRequest : Request := outageRequest (.runRadar ⟨some [.slaBreach],30,false,default_window⟩)

def HttpResponse.lists (response : HttpResponse) (ticketId : String) (alertType : AlertType) : Bool :=
  match response with
  | ⟨200,.radar listed⟩ => listed.alerts.any fun alert =>
      alert.alertType = alertType && alert.representativeRecords.contains ticketId
  | _ => false

theorem lists_alert {response : HttpResponse} {ticketId : String} {alertType : AlertType}
    (lists : response.lists ticketId alertType = true) :
    ∃ listed, response = ⟨200,.radar listed⟩ ∧ ∃ alert ∈ listed.alerts, alert.alertType = alertType ∧
      ticketId ∈ alert.representativeRecords := by
  unfold HttpResponse.lists at lists
  split at lists
  · obtain ⟨alert,member,agrees⟩ := List.any_eq_true.mp lists
    simp only [Bool.and_eq_true,decide_eq_true_eq,List.contains_iff_mem] at agrees
    exact ⟨_,rfl,alert,member,agrees⟩
  · cases lists

-- The outage has been open for two hours, and an hour was promised.
theorem outage_listed : (@Request.alone digestHost outageService breachRequest hourDb).1.lists "TKT-104"
    .slaBreach = true := by decide +kernel

theorem outage_window : ∃ expiresAt, snapshotClock.now.plusMinutes actionExpiryMinutes = .ok expiresAt :=
  ⟨_,rfl⟩

theorem breach_quiet : let _ := digestHost
    (breachRequest.alone outageService hourDb).2 = hourDb := by
  intro _
  have served : serve outageService breachRequest = Body.radar <$>
      reading (runRadar ⟨some [.slaBreach],30,false,default_window⟩ supportUser snapshotClock {}
        breachRequest.latencyMs) := rfl
  rw [reading_alone served]

-- The proposal is written while the radar is still to run, or after it has.
theorem outage_escalates : let _ := digestHost
    (∃ config response answer, Reached (serviceSystem outageService) hourDb config ∧
      config.threads[0]? = some ⟨breachRequest,.ret response⟩ ∧
      response.lists "TKT-104" .slaBreach = true ∧
      config.threads[1]? = some ⟨outagePrepare,.ret answer⟩ ∧
      Escalated outageService config "TKT-104" supportUser answer) ∧
    ∃ config answer, Reached (serviceSystem outageService) hourDb config ∧
      config.threads[1]? = some ⟨outagePrepare,.ret answer⟩ ∧
      Escalated outageService config "TKT-104" supportUser answer := by
  intro _
  have digest : ∀ text : String, (Host.sha256Hex text).length = 64 :=
    fun _ => (by decide : outageDigest.length = 64)
  have reads : ¬ breachRequest.acts outageService := Bool.false_ne_true
  constructor
  · have issue := fun config request => @Step.issue Stmt Stmt.Answer Db Request _
      (serviceSystem outageService) config request trivial
    have issued := ((@Reached.initial _ _ _ _ _ _ hourDb).step (issue _ breachRequest)).step
      (issue _ outagePrepare)
    obtain ⟨_,proposed⟩ := reached_finish (i := 1) issued rfl
    obtain ⟨_,told⟩ := reached_finish (i := 0) proposed rfl
    have same := (isolated_response told).2 0 breachRequest _ reads rfl
    obtain ⟨listing,body,alert,listed,typed,named⟩ := lists_alert outage_listed
    rw [same,body] at told
    obtain ⟨_,_,known,ticking,escalates⟩ := @alerts_escalate digestHost outageService hourDb
      breachRequest "TKT-104" _ 0 _ listing alert _ digest rfl told rfl rfl listed (.inl typed) named
      outagePrepare rfl rfl rfl
    cases known
    cases ticking
    refine ⟨_,_,_,told,rfl,?_,rfl,(escalates outage_window).1 1 _ rfl ?_⟩
    · rw [← body]
      exact outage_listed
    · rintro (_ | _ | k) call rest body found prepares drawn
      · cases found
        cases prepares
      · rfl
      · cases found
  · obtain ⟨log,told⟩ := @reached_request digestHost outageService hourDb ⟨hourDb,[],[]⟩ .initial
      breachRequest
    obtain ⟨listing,body,alert,listed,typed,named⟩ := lists_alert outage_listed
    rw [body] at told
    obtain ⟨_,_,known,ticking,escalates⟩ := @alerts_escalate digestHost outageService hourDb
      breachRequest "TKT-104" _ 0 _ listing alert _ digest rfl told rfl rfl listed (.inl typed) named
      outagePrepare rfl rfl rfl
    cases known
    cases ticking
    rw [breach_quiet] at escalates
    obtain ⟨answer,after,log,proposed,escalated⟩ := (escalates outage_window).2 rfl
    exact ⟨_,answer,proposed,rfl,escalated⟩

end ParcelPilot
