import ParcelPilot.ChatConfinement
import ParcelPilot.Dictionaries

namespace ParcelPilot

open Fallible

def Unrefused [Host] (db : Db) (query : Query α) : Prop :=
  ∀ reason, query.on db ≠ .error (.notAuthorized reason)

section Queries

variable [Host] {db : Db} {auth : AuthContext} {clock : SnapshotClock} {registry : Registry}

theorem unrefused_pure (value : α) : Unrefused db (pure value : Query α) := by
  intro reason refused
  cases refused

theorem unrefused_select (query : Select) : Unrefused db (select query) := by
  intro reason refused
  cases refused

theorem unrefused_throw {error : PyError} (other : ∀ reason, error ≠ .notAuthorized reason) :
    Unrefused db (throw error : Query α) := by
  intro reason refused
  exact other reason (Except.error.inj refused)

theorem unrefused_bind {query : Query α} {rest : α → Query β} (left : Unrefused db query)
    (right : ∀ value, query.on db = .ok value → Unrefused db (rest value)) :
    Unrefused db (query >>= rest) := by
  intro reason refused
  rw [on_bind] at refused
  cases reached : query.on db with
  | error error =>
      rw [reached] at refused
      cases refused
      exact left reason reached
  | ok value =>
      rw [reached] at refused
      exact right value reached reason refused

theorem unrefused_orRaise {result : Except PyError α}
    (other : ∀ reason, result ≠ .error (.notAuthorized reason)) : Unrefused db (orRaise result) := by
  intro reason refused
  rw [on_orRaise] at refused
  exact other reason refused

theorem unrefused_getOrder {orderId : String} (granted : Accessible db auth .order orderId)
    (tz : Int) : Unrefused db (getOrder orderId auth tz) := by
  obtain ⟨row,found,allowed⟩ := granted
  intro reason refused
  rw [getOrder_on,found] at refused
  simp [allowed] at refused

theorem unrefused_getTicket {ticketId : String} (granted : Accessible db auth .ticket ticketId)
    (tz : Int) : Unrefused db (getTicket ticketId auth tz) := by
  obtain ⟨row,found,allowed⟩ := granted
  intro reason refused
  rw [getTicket_on,found] at refused
  simp [allowed] at refused

theorem unrefused_getAccount {accountId : String} (allowed : auth.allowsAccount accountId = true) :
    Unrefused db (getAccount accountId auth) := by
  intro reason refused
  rw [getAccount_on,if_pos allowed] at refused
  cases found : db.accounts.row accountId <;> simp [found] at refused

theorem unrefused_getSource (sourceId : String) : Unrefused db (getSource sourceId) := by
  intro reason refused
  rw [getSource_on] at refused
  cases found : db.sources.row sourceId <;> simp [found] at refused

theorem unrefused_citeDocument (sourceId : String) (section_ note : Option String) :
    Unrefused db (citeDocument sourceId section_ note) :=
  unrefused_bind (unrefused_select _) fun _ _ => unrefused_pure _

theorem unrefused_classifySeverity (ticket : Ticket) : Unrefused db (classifySeverity ticket) :=
  unrefused_bind (unrefused_citeDocument _ _ _) fun _ _ => unrefused_pure _

theorem unrefused_default (topic : ClauseTopic) : Unrefused db (registry.default topic) := by
  unfold Registry.default
  split
  · apply unrefused_throw
    simp
  · exact unrefused_pure _

theorem unrefused_assertDefault (topic : ClauseTopic) :
    Unrefused db (registry.assertDefault topic) := by
  refine unrefused_bind (unrefused_default topic) fun fallback _ => ?_
  cases fallback with
  | none =>
      apply unrefused_throw
      simp
  | some source => exact unrefused_pure _

theorem unrefused_resolveApplicability (topic : ClauseTopic) (accountId : String) (at_ : Date) :
    Unrefused db (resolveApplicability topic accountId at_ registry) := by
  refine unrefused_bind (unrefused_default topic) fun fallback _ => ?_
  cases registry.override topic accountId with
  | none =>
      cases fallback with
      | none =>
          apply unrefused_throw
          simp
      | some source => exact unrefused_pure _
  | some override =>
      refine unrefused_bind (unrefused_getSource _) fun agreement _ => ?_
      split
      · exact unrefused_pure _
      · cases fallback with
        | none =>
            apply unrefused_throw
            simp
        | some source => exact unrefused_pure _

theorem ruleOf_unrefused (rules : String → Option ρ) (sourceId reason : String) :
    ruleOf rules sourceId ≠ .error (.notAuthorized reason) := by
  unfold ruleOf
  split <;> simp

theorem applyFeeRule_unrefused (rule : CancellationFeeRule) (minutes : Rat) (reason : String) :
    applyFeeRule rule minutes ≠ .error (.notAuthorized reason) := by
  unfold applyFeeRule
  repeat' split
  all_goals simp

theorem applyCreditRule_unrefused (rule : ServiceCreditRule) (delayHours : Rat) (fee : PyFloat)
    (reason : String) : applyCreditRule rule delayHours fee ≠ .error (.notAuthorized reason) := by
  unfold applyCreditRule
  repeat' split
  all_goals simp

omit [Host] in
theorem plusMinutes_unrefused (moment : DateTime) (minutes : Int) (reason : String) :
    moment.plusMinutes minutes ≠ .error (.notAuthorized reason) := by
  unfold DateTime.plusMinutes timedelta DateTime.shift
  dsimp only
  repeat' split
  all_goals simp [Except.bind]
  all_goals split
  all_goals simp

omit [Host] in
theorem slaDeadline_unrefused (ticket : Ticket) (target : SlaTarget) (reason : String) :
    slaDeadline ticket target ≠ .error (.notAuthorized reason) := by
  unfold slaDeadline
  split
  · simp [noneMinutes]
  · rename_i minutes _
    have other := plusMinutes_unrefused ticket.createdAt minutes reason
    cases moved : ticket.createdAt.plusMinutes minutes with
    | error error =>
        rw [moved] at other
        simpa [Except.map] using other
    | ok deadline => simp [Except.map]

theorem unrefused_calculateSla {ticketId : String} (granted : Accessible db auth .ticket ticketId) :
    Unrefused db (calculateSla ticketId auth clock registry) := by
  refine unrefused_bind (unrefused_getTicket granted _) fun ticket read => ?_
  -- the ticket's account is the one its access was granted by
  obtain ⟨row,found,allowed,rfl⟩ := getTicket_ok.mp read
  refine unrefused_bind (unrefused_getAccount allowed) fun account _ => ?_
  refine unrefused_bind (unrefused_classifySeverity _) fun severityResult _ => ?_
  split
  · exact unrefused_pure _
  · refine unrefused_bind (unrefused_resolveApplicability _ _ _) fun applicability _ => ?_
    refine unrefused_bind (unrefused_select _) fun target _ => ?_
    cases target with
    | none => exact unrefused_pure _
    | some target =>
        refine unrefused_bind (unrefused_citeDocument _ _ _) fun clause _ => ?_
        split
        · exact unrefused_pure _
        · refine unrefused_bind (unrefused_orRaise fun reason => ?_) fun _ _ => unrefused_pure _
          exact slaDeadline_unrefused _ _ reason

theorem unrefused_evaluateCancellation {feeRules : FeeRules} {orderId : String}
    (granted : Accessible db auth .order orderId) :
    Unrefused db (evaluateCancellation orderId auth clock feeRules registry) := by
  refine unrefused_bind (unrefused_getOrder granted _) fun order _ => ?_
  refine unrefused_bind (unrefused_assertDefault _) fun source _ => ?_
  cases order.status with
  | delivered => exact unrefused_bind (unrefused_citeDocument _ _ _) fun _ _ => unrefused_pure _
  | pickedUp => exact unrefused_bind (unrefused_citeDocument _ _ _) fun _ _ => unrefused_pure _
  | draft => exact unrefused_bind (unrefused_citeDocument _ _ _) fun _ _ => unrefused_pure _
  | booked =>
      cases order.cancellationRequestedAt with
      | none => exact unrefused_pure _
      | some requestedAt =>
          refine unrefused_bind (unrefused_resolveApplicability _ _ _) fun applicability _ => ?_
          refine unrefused_bind (unrefused_orRaise (ruleOf_unrefused _ _)) fun rule _ => ?_
          refine unrefused_bind (unrefused_orRaise (applyFeeRule_unrefused _ _)) fun priced _ => ?_
          exact unrefused_bind (unrefused_citeDocument _ _ _) fun _ _ => unrefused_pure _

theorem unrefused_evaluateServiceCredit {creditRules : CreditRules} {orderId : String}
    (granted : Accessible db auth .order orderId) :
    Unrefused db (evaluateServiceCredit orderId auth clock creditRules registry) := by
  refine unrefused_bind (unrefused_getOrder granted _) fun order _ => ?_
  refine unrefused_bind (unrefused_assertDefault _) fun source _ => ?_
  split
  · exact unrefused_bind (unrefused_citeDocument _ _ _) fun _ _ => unrefused_pure _
  · refine unrefused_bind (unrefused_resolveApplicability _ _ _) fun applicability _ => ?_
    refine unrefused_bind (unrefused_orRaise (ruleOf_unrefused _ _)) fun rule _ => ?_
    refine unrefused_bind (unrefused_orRaise (applyCreditRule_unrefused _ _ _)) fun granted _ => ?_
    exact unrefused_bind (unrefused_citeDocument _ _ _) fun _ _ => unrefused_pure _

theorem unrefused_searchDocuments (query : String) (filters : DocumentSearchFilter) (topK : Nat) :
    Unrefused db (searchDocuments query filters topK) := by
  unfold searchDocuments
  split
  · apply unrefused_throw
    simp
  · refine unrefused_bind (unrefused_orRaise fun reason => ?_) fun _ _ => unrefused_select _
    unfold normalizeQuery
    split <;> simp

theorem unrefused_lookUp {request : LookupStructuredDataRequest}
    (granted : (ToolRequest.lookupStructuredData request).Granted db auth) :
    Unrefused db (lookUp request auth clock) := by
  obtain ⟨kind,entity,accountId,status,carrier⟩ := request
  obtain ⟨entityId,rfl,accessible⟩ := granted
  cases kind with
  | getAccount =>
      refine unrefused_bind (unrefused_pure _) fun accountId same => ?_
      cases Except.ok.inj same
      exact unrefused_bind (unrefused_getAccount accessible.2) fun _ _ => unrefused_pure _
  | getOrder =>
      refine unrefused_bind (unrefused_pure _) fun orderId same => ?_
      cases Except.ok.inj same
      exact unrefused_bind (unrefused_getOrder accessible _) fun _ _ => unrefused_pure _
  | getTicket =>
      refine unrefused_bind (unrefused_pure _) fun ticketId same => ?_
      cases Except.ok.inj same
      exact unrefused_bind (unrefused_getTicket accessible _) fun _ _ => unrefused_pure _
  | searchOrders => cases accessible
  | searchTickets => cases accessible

theorem unrefused_calculate {request : CalculateSupportOutcomeRequest}
    (granted : (ToolRequest.calculateSupportOutcome request).Granted db auth) :
    Unrefused db (calculate request auth clock) := by
  obtain ⟨calculationType,entityId⟩ := request
  cases calculationType with
  | cancellation =>
      exact unrefused_bind (unrefused_evaluateCancellation granted) fun _ _ => unrefused_pure _
  | serviceCredit =>
      exact unrefused_bind (unrefused_evaluateServiceCredit granted) fun _ _ => unrefused_pure _
  | sla => exact unrefused_bind (unrefused_calculateSla granted) fun _ _ => unrefused_pure _
  | severity =>
      refine unrefused_bind (unrefused_getTicket granted _) fun ticket _ => ?_
      exact unrefused_bind (unrefused_classifySeverity ticket) fun _ _ => unrefused_pure _

end Queries

-- The same of a whole tool: nothing it meets makes it refuse.
def Unbarred [Host] (db : Db) (script : Agent α) : Prop :=
  ∀ surroundings progress reason after,
    script.under db surroundings progress ≠ (.error (.notAuthorized reason),after)

section Tools

variable [Host] {db : Db} {auth : AuthContext} {clock : SnapshotClock}

theorem unbarred_pure (value : α) : Unbarred db (pure value) := by
  intro surroundings progress reason after refused
  cases refused

theorem unbarred_perfCounter : Unbarred db perfCounter := by
  intro surroundings progress reason after refused
  cases refused

theorem unbarred_querying {query : Query α} (unrefused : Unrefused db query) :
    Unbarred db (querying query) := by
  intro surroundings progress reason after refused
  rw [under_querying] at refused
  exact unrefused reason (Prod.mk.inj refused).1

theorem unbarred_bind {script : Agent α} {rest : α → Agent β} (left : Unbarred db script)
    (right : ∀ value, Unbarred db (rest value)) : Unbarred db (script >>= rest) := by
  intro surroundings progress reason after refused
  change perform _ (script >>= rest) progress = _ at refused
  rw [perform_bind] at refused
  rcases reached : perform (agentStep db surroundings) script progress with ⟨error | value,between⟩
  · rw [reached] at refused
    cases refused
    exact left surroundings progress reason after reached
  · rw [reached] at refused
    exact right value surroundings between reason after refused

theorem unbarred_measured {work : Agent α} (unbarred : Unbarred db work) :
    Unbarred db (measured work) := by
  refine unbarred_bind unbarred_perfCounter fun start => ?_
  refine unbarred_bind unbarred fun value => ?_
  exact unbarred_bind unbarred_perfCounter fun finish => unbarred_pure _

theorem unbarred_dispatch {request : ToolRequest} (granted : request.Granted db auth) :
    Unbarred db (dispatch auth clock request) := by
  cases request with
  | searchDocuments request =>
      have searched := unbarred_querying (@unrefused_searchDocuments _ db request.query
        ⟨request.sourceTypes,request.authorityClasses,request.statuses,auth.accountScope⟩ request.topK)
      refine unbarred_bind ?_ fun _ => unbarred_pure _
      exact unbarred_bind (unbarred_measured searched) fun _ => unbarred_pure _
  | lookupStructuredData request =>
      have looked : Unrefused db (lookUp request auth clock) := unrefused_lookUp granted
      refine unbarred_bind ?_ fun _ => unbarred_pure _
      exact unbarred_bind (unbarred_measured (unbarred_querying looked)) fun _ => unbarred_pure _
  | calculateSupportOutcome request =>
      have calculated : Unrefused db (calculate request auth clock) := unrefused_calculate granted
      refine unbarred_bind ?_ fun _ => unbarred_pure _
      exact unbarred_bind (unbarred_measured (unbarred_querying calculated)) fun _ => unbarred_pure _
  | detectIssues request => cases granted

omit [Host] in
theorem classify_notAuthorized {exc : PyError} (denied : classify exc = .notAuthorized) :
    ∃ reason, exc = .notAuthorized reason := by
  cases exc <;> simp [classify] at denied
  exact ⟨_,rfl⟩

theorem attemptOnce_authorized {work : Agent ToolOutput} (unbarred : Unbarred db work)
    {name : ToolName} {spec : ToolSpec} {attempt : Nat} {surroundings : Surroundings}
    {progress after : Progress} {result : ToolResult}
    (ran : (attemptOnce name spec work attempt).under db surroundings progress = (.ok result,after)) :
    result.errorType ≠ some .notAuthorized := by
  obtain ⟨start,begun,_,ran⟩ := under_bind_ok.mp ran
  obtain ⟨outcome,ended,attempted,ran⟩ := under_bind_ok.mp ran
  obtain ⟨finish,_,_,ran⟩ := under_bind_ok.mp ran
  cases ran
  change perform _ (Fallible.attempt work) begun = _ at attempted
  rw [perform_attempt] at attempted
  cases attempted
  cases reached : (perform (agentStep db surroundings) work begun).1 with
  | error exc =>
      intro denied
      obtain ⟨reason,rfl⟩ := classify_notAuthorized (Option.some.inj denied)
      exact unbarred surroundings begun reason _ (Prod.ext reached rfl)
  | ok output =>
      unfold settle
      dsimp only
      split <;> simp [ToolResult.fail,ToolResult.ok]

theorem attemptLoop_authorized {work : Agent ToolOutput} (unbarred : Unbarred db work)
    {name : ToolName} {spec : ToolSpec} {left attempt : Nat} {surroundings : Surroundings}
    {progress after : Progress} {result : ToolResult}
    (ran : (attemptLoop name spec work left attempt).under db surroundings progress =
      (.ok result,after)) : result.errorType ≠ some .notAuthorized := by
  induction left generalizing attempt progress with
  | zero => exact attemptOnce_authorized unbarred ran
  | succ left ih =>
      obtain ⟨first,between,once,ran⟩ := under_bind_ok.mp ran
      split at ran
      · obtain ⟨_,_,_,ran⟩ := under_bind_ok.mp ran
        exact ih ran
      · cases ran
        exact attemptOnce_authorized unbarred once

theorem executeTool_authorized {request : ToolRequest} (granted : request.Granted db auth)
    {tools : ToolRegistry} {surroundings : Surroundings} {progress after : Progress}
    {result : ToolResult}
    (ran : (executeTool tools request auth clock).under db surroundings progress = (.ok result,after)) :
    result.errorType ≠ some .notAuthorized := by
  unfold executeTool at ran
  dsimp only at ran
  split at ran
  · cases ran
  · exact attemptLoop_authorized (unbarred_dispatch granted) ran

end Tools

def EntityResolution.filed (entities : EntityResolution) : Option EntityKind → List String
  | some .order => entities.orderIds
  | some .ticket => entities.ticketIds
  | some .account => entities.accountIds
  | none => entities.unresolvedMentions

def Hidden (db : Db) (auth : AuthContext) (entityId : String) : Prop :=
  (∃ order, db.orders.row entityId = some order ∧ auth.allowsAccount order.accountId = false) ∨
  ∃ ticket, db.tickets.row entityId = some ticket ∧ auth.allowsAccount ticket.accountId = false

section Filing

variable [Host] {db : Db} {auth : AuthContext} {clock : SnapshotClock} {question : String}
  {entities : EntityResolution}

theorem unseen_hidden {entityId : String} (unseen : kindSeen db auth entityId = none)
    (named : entityId ∈ namedAccounts db question auth) : Hidden db auth entityId := by
  obtain ⟨⟨row,stored⟩,allowed⟩ := mem_namedAccounts named
  unfold kindSeen at unseen
  split at unseen
  · rename_i order found
    exact .inl ⟨order,found,by simpa using unseen⟩
  · rename_i ticket _ found
    exact .inr ⟨ticket,found,by simpa using unseen⟩
  · simp [allowed] at unseen
  · rename_i absent
    rw [absent] at stored
    cases stored

theorem mentions_nodup (question : String) : (mentions question).Nodup := by
  have distinct := Py.firstOccurrences_nodup (id : String → String) []
    ((Pattern.findAll Host.isWord idToken question).map upper)
  rwa [List.map_id] at distinct

omit [Host] in
theorem bucket_nodup {seen : String → Option EntityKind} {ids : List String} (distinct : ids.Nodup)
    (kind : Option EntityKind) : (bucket kind (ids.map fun mention => (seen mention,mention))).Nodup := by
  have kept : bucket kind (ids.map fun mention => (seen mention,mention)) =
      ids.filter fun mention => seen mention = kind := by
    simp [bucket,List.filter_map,Function.comp_def]
  rw [kept]
  exact distinct.filter _

theorem filed_nodup (resolved : (resolveEntities question auth clock).on db = .ok entities)
    (kind : Option EntityKind) : (entities.filed kind).Nodup := by
  rw [resolveEntities_on] at resolved
  cases Except.ok.inj resolved
  have distinct := @bucket_nodup (kindSeen db auth) _ (mentions_nodup question)
  rcases kind with _ | _ | _ | _
  · simpa only [EntityResolution.filed,entitiesOf_unresolved] using distinct none
  · simpa only [EntityResolution.filed,entitiesOf_orderIds] using distinct (some .order)
  · simpa only [EntityResolution.filed,entitiesOf_ticketIds] using distinct (some .ticket)
  · by_cases missing : NoneResolved
        ((mentions question).map fun mention => (kindSeen db auth mention,mention))
    · have named := (@entitiesOf_none _ (namedAccounts db question auth) missing).1
      simp only [EntityResolution.filed,named]
      split
      · rename_i single
        obtain ⟨accountId,only⟩ := List.length_eq_one_iff.mp single
        simp [only]
      · exact List.nodup_nil
    · have found := (@entitiesOf_some _ (namedAccounts db question auth) missing).1
      simpa only [EntityResolution.filed,found] using distinct (some .account)

-- Every id of the question is filed once; the one an account is found by name
-- for may be left over as well.
theorem filed_once (resolved : (resolveEntities question auth clock).on db = .ok entities)
    {mention : String} (mentioned : mention ∈ mentions question) :
    (∃! kind, mention ∈ entities.filed kind) ∨
      mention ∈ entities.unresolvedMentions ∧ entities.orderIds = [] ∧ entities.ticketIds = [] ∧
        entities.accountIds = [mention] ∧ Hidden db auth mention := by
  rw [resolveEntities_on] at resolved
  cases Except.ok.inj resolved
  by_cases missing : NoneResolved
      ((mentions question).map fun mention => (kindSeen db auth mention,mention))
  · have unseen := noneResolved_iff.mp missing mention mentioned
    have accounts := (@entitiesOf_none _ (namedAccounts db question auth) missing).1
    have left : mention ∈ bucket none
        ((mentions question).map fun mention => (kindSeen db auth mention,mention)) :=
      mem_kinds.mpr ⟨mentioned,unseen⟩
    by_cases named : namedAccounts db question auth = [mention]
    · right
      have listed : mention ∈ namedAccounts db question auth := by
        rw [named]
        exact List.mem_singleton_self _
      rw [entitiesOf_unresolved,entitiesOf_orderIds,entitiesOf_ticketIds,accounts,named]
      exact ⟨left,missing .order,missing .ticket,rfl,unseen_hidden unseen listed⟩
    · left
      refine ⟨none,by simpa only [EntityResolution.filed,entitiesOf_unresolved] using left,?_⟩
      intro kind filed
      rcases kind with _ | _ | _ | _
      · rfl
      · simp only [EntityResolution.filed,entitiesOf_orderIds,missing .order,List.not_mem_nil] at filed
      · simp only [EntityResolution.filed,entitiesOf_ticketIds,missing .ticket,List.not_mem_nil] at filed
      · simp only [EntityResolution.filed,accounts] at filed
        split at filed
        · rename_i single
          obtain ⟨accountId,only⟩ := List.length_eq_one_iff.mp single
          rw [only,List.mem_singleton] at filed
          rw [filed] at named
          exact absurd only named
        · cases filed
  · left
    have accounts := (@entitiesOf_some _ (namedAccounts db question auth) missing).1
    have exact_ (kind : Option EntityKind) : mention ∈ (entitiesOf
        ((mentions question).map fun mention => (kindSeen db auth mention,mention))
        (namedAccounts db question auth)).filed kind ↔ kindSeen db auth mention = kind := by
      rcases kind with _ | _ | _ | _
      · simp only [EntityResolution.filed,entitiesOf_unresolved,mem_kinds,mentioned,true_and]
      · simp only [EntityResolution.filed,entitiesOf_orderIds,mem_kinds,mentioned,true_and]
      · simp only [EntityResolution.filed,entitiesOf_ticketIds,mem_kinds,mentioned,true_and]
      · simp only [EntityResolution.filed,accounts,mem_kinds,mentioned,true_and]
    refine ⟨kindSeen db auth mention,(exact_ _).mpr rfl,fun kind filed => ?_⟩
    exact ((exact_ kind).mp filed).symm

end Filing

section Runs

variable [Host] {db : Db} {tools : ToolRegistry} {question model : String}
  {context : AgentRequestContext} {budget : AgentBudget} {surroundings : Surroundings}
  {progress after : Progress}

theorem made_authorized {call : ToolCall} (granted : call.1.args.Granted db context.auth)
    (made : Made db surroundings tools context call) : call.2.errorType ≠ some .notAuthorized := by
  obtain ⟨before,after,ran⟩ := made
  exact executeTool_authorized granted ran

theorem plan_authorized (db : Db) (question : String) (context : AgentRequestContext) :
    ∃ entities, (resolveEntities question context.auth context.clock).on db = .ok entities ∧
      Grounded db context.auth entities ∧
      (∀ kind, (entities.filed kind).Nodup) ∧
      (∀ mention ∈ mentions question, (∃! kind, mention ∈ entities.filed kind) ∨
        mention ∈ entities.unresolvedMentions ∧ entities.orderIds = [] ∧ entities.ticketIds = [] ∧
          entities.accountIds = [mention] ∧ Hidden db context.auth mention) ∧
      (∀ tools budget start surroundings progress reason calls after,
        (executeSteps tools budget context.auth context.clock start
          (buildPlan question (resolveIntent question entities) entities).steps 0 []).under db
            surroundings progress = (.ok (.error (reason,calls)),after) → reason ≠ "not authorized") ∧
      ∀ tools model budget surroundings progress result after,
        (runAgent tools question context model budget).under db surroundings progress =
          (.ok result,after) → ∀ entry ∈ result.toolTrace, entry.errorType ≠ some .notAuthorized := by
  let entities := entitiesOf
    ((mentions question).map fun entityId => (kindSeen db context.auth entityId,entityId))
    (namedAccounts db question context.auth)
  have resolved : (resolveEntities question context.auth context.clock).on db = .ok entities :=
    resolveEntities_on question context.clock
  have grounded := resolveEntities_grounded resolved
  have granted := buildPlan_granted grounded question (resolveIntent question entities)
  refine ⟨entities,resolved,grounded,filed_nodup resolved,fun _ => filed_once resolved,?_,?_⟩
  · intro tools budget start surroundings progress reason calls after ran named
    obtain ⟨made,each,_,order,denied⟩ := executeSteps_made ran
    obtain ⟨call,member,refused⟩ := denied named
    have step := order.subset (List.mem_map_of_mem member)
    exact made_authorized (granted _ step) (each call member) refused
  · intro tools model budget surroundings progress result after ran entry listed
    obtain ⟨others,calls,again,traced⟩ := run_traced ran
    cases Except.ok.inj (resolved.symm.trans again)
    rw [traced.trace] at listed
    obtain ⟨call,member,same⟩ := List.mem_map.mp listed
    subst same
    have step := traced.planned.subset (List.mem_map_of_mem member)
    exact made_authorized (granted _ step) (traced.made call member)

-- A stranger's order bears the id of the caller's own account.
def namesakeDb : Db := {twinDb with orders := ⟨[foreignOrder "ACCT-003"],by simp⟩}

omit [Host] in
theorem named_twice : let _ := asciiHost [] []
    ∃ entities, (resolveEntities "ACCT-003 Kite Couriers" supportRequest.auth
        supportRequest.clock).on namesakeDb = .ok entities ∧
      "ACCT-003" ∈ mentions "ACCT-003 Kite Couriers" ∧
      ¬ ∃! kind, "ACCT-003" ∈ entities.filed kind := by
  intro _
  have mentioned : mentions "ACCT-003 Kite Couriers" = ["ACCT-003"] := by decide +kernel
  have resolved : (resolveEntities "ACCT-003 Kite Couriers" supportRequest.auth
      supportRequest.clock).on namesakeDb =
        .ok {accountIds := ["ACCT-003"], unresolvedMentions := ["ACCT-003"]} := by decide +kernel
  refine ⟨_,resolved,by simp [mentioned],?_⟩
  intro unique
  obtain ⟨kind,_,only⟩ := unique
  have account := only (some .account) (List.mem_singleton.mpr rfl)
  have unresolved := only none (List.mem_singleton.mpr rfl)
  rw [← account] at unresolved
  cases unresolved

end Runs

end ParcelPilot
