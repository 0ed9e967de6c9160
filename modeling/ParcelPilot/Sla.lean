import ParcelPilot.Applicability
import ParcelPilot.Severity

namespace ParcelPilot

-- A pure step that may raise, inside a query.
def orRaise : Except PyError α → Query α
  | .ok value => pure value
  | .error error => throw error

@[simp] theorem on_orRaise [Host] (result : Except PyError α) : (orRaise result).on db = result := by
  cases result <;> rfl

-- `if applicability.overridden_source_id:`
def conflictsOf (applicability : ApplicabilityResult) (scope : String) : List Conflict :=
  match applicability.overriddenSourceId with
  | none => []
  | some loser =>
      if loser = "" then []
      else [⟨applicability.winningSourceId,loser,scope,applicability.reason,
        applicability.needsHumanReview⟩]

-- app/domain/sla.py
structure SlaOutcome where
  severity : Severity
  applicableSourceId : String
  targetText : String
  targetMinutes : Option Int
  is24x7 : Bool
  deadline : Option String
  elapsedMinutesPastDeadline : Option Rat
  -- none when a business calendar would be needed
  breached : Option Bool
deriving DecidableEq,Repr

def lookupSlaTarget (sourceId : String) (account : Account) (severity : Severity) :
    Query (Option SlaTarget) :=
  select (.slaTarget sourceId severity.value account.plan account.accountId)

def noneMinutes : PyError :=
  .typeError "unsupported type for timedelta minutes component: NoneType"

-- `ticket.created_at + timedelta(minutes=target["target_minutes"])`
def slaDeadline (ticket : Ticket) (target : SlaTarget) : Except PyError (Int × DateTime) :=
  match target.targetMinutes with
  | none => .error noneMinutes
  | some minutes => (ticket.createdAt.plusMinutes minutes).map (minutes,·)

variable [Host]

def slaUnclassified (ticketEvidence : EvidenceRef) (severity : DecisionResult SeverityOutcome) :
    DecisionResult SlaOutcome where
  result := none
  trustState := .uncertain
  reason := "Cannot compute an SLA target: " ++ severity.reason
  evidence := ticketEvidence :: severity.evidence
  needsHumanReview := true

def slaNoTarget (ticketEvidence : EvidenceRef) (applicability : ApplicabilityResult)
    (account : Account) (severity : Severity) : DecisionResult SlaOutcome where
  result := none
  trustState := .uncertain
  reason := "No SLA target found for " ++ applicability.winningSourceId ++ " / " ++ account.plan ++
    " / " ++ severity.value ++ "."
  evidence := [ticketEvidence]
  needsHumanReview := true

def slaBusinessCalendar (severity : Severity) (applicability : ApplicabilityResult)
    (target : SlaTarget) (evidence : List EvidenceRef) (conflicts : List Conflict) :
    DecisionResult SlaOutcome where
  result := some ⟨severity,applicability.winningSourceId,target.targetText,none,false,none,none,none⟩
  trustState := .conditional
  reason := "Target is \"" ++ target.targetText ++
    "\"; the source pack never defines a business calendar (gap G1), so an exact deadline " ++
    "cannot be computed."
  evidence := evidence
  assumptions := ["business-hour/business-day SLA targets are not computable without a " ++
    "defined business calendar"]
  conflicts := conflicts
  needsHumanReview := applicability.needsHumanReview

-- `f"{-x:.0f}"`: a float zero negated prints its sign
def negated (value : Rat) : String := if value = 0 then "-0" else Host.fixed 0 (-value)

def slaReason (severity : Severity) (target : SlaTarget) (deadline : DateTime) (elapsed : Rat) :
    String :=
  "Target \"" ++ target.targetText ++ "\" -> deadline " ++ deadline.isoformat ++ ". " ++
  (if 0 < elapsed then
    "Elapsed " ++ Host.fixed 0 elapsed ++ " minutes past deadline with no recorded response " ++
      "(the workbook has no first_response_at column, so this is elapsed-time-past-" ++
      "deadline, not a confirmed missed response)."
  else negated elapsed ++ " minutes remain.") ++
  (if 0 < elapsed ∧ severity = .p1 then
    " Support Policy v3 s4: P1 breaches should be escalated immediately." else "")

def slaComputed (snapshot : DateTime) (ticket : Ticket) (severity : Severity)
    (applicability : ApplicabilityResult) (target : SlaTarget) (minutes : Int) (deadline : DateTime)
    (evidence : List EvidenceRef) (conflicts : List Conflict) : DecisionResult SlaOutcome :=
  let elapsed := snapshot.minutesSince deadline
  let breached : Bool := 0 < elapsed
  { result := some ⟨severity,applicability.winningSourceId,target.targetText,some minutes,
      target.is24x7,some deadline.isoformat,some elapsed,some breached⟩
    trustState := .confident
    reason := slaReason severity target deadline elapsed
    evidence := evidence
    calculationInputs := [("created_at",.str ticket.createdAt.isoformat),
      ("target_minutes",.int minutes)]
    conflicts := conflicts
    needsHumanReview := applicability.needsHumanReview || (breached && severity = .p1) }

def calculateSla (ticketId : String) (auth : AuthContext) (clock : SnapshotClock)
    (registry : Registry) : Query (DecisionResult SlaOutcome) := do
  let snapshot := clock.now
  let ticket ← getTicket ticketId auth clock.tz
  let account ← getAccount ticket.accountId auth
  let ticketEvidence := citeStructured "tickets" ticket.ticketId
  let severityResult ← classifySeverity ticket
  match severityResult.result.bind (·.severity) with
  | none => pure (slaUnclassified ticketEvidence severityResult)
  | some severity =>
      let applicability ← resolveApplicability .slaFirstResponse account.accountId snapshot.date registry
      match ← lookupSlaTarget applicability.winningSourceId account severity with
      | none => pure (slaNoTarget ticketEvidence applicability account severity)
      | some target =>
          let conflicts := conflictsOf applicability account.accountId
          let clause ← citeDocument applicability.winningSourceId
            (some applicability.winningSection)
          let evidence := ticketEvidence :: severityResult.evidence ++ [clause]
          if target.requiresBusinessCalendar then
            pure (slaBusinessCalendar severity applicability target evidence conflicts)
          else
            let (minutes,deadline) ← orRaise (slaDeadline ticket target)
            pure (slaComputed snapshot ticket severity applicability target minutes deadline
              evidence conflicts)

variable {db : Db} {ticketId : String} {auth : AuthContext} {clock : SnapshotClock}
  {registry : Registry} {ticket : Ticket}

def Classified (db : Db) (ticket : Ticket) (severity : Severity) : Prop :=
  ∃ decision outcome, (classifySeverity ticket).on db = .ok decision ∧
    decision.result = some outcome ∧ outcome.severity = some severity

-- The severity a ticket is given, if it is given one.
def assignedSeverity (ticket : Ticket) : Option Severity :=
  (severityOf ticket []).result.bind (·.severity)

theorem classified_iff : Classified db ticket severity ↔ assignedSeverity ticket = some severity := by
  constructor
  · rintro ⟨decision,outcome,classifies,result,named⟩
    rw [classifySeverity_ref] at classifies
    cases classifies
    rw [severityOf_evidence] at result
    simp only [assignedSeverity,result,Option.bind_some,named]
  · intro named
    rw [assignedSeverity,← severityOf_evidence [documentRef db "SRC-01" (some "2")]] at named
    obtain ⟨outcome,result,assigned⟩ := Option.bind_eq_some_iff.mp named
    exact ⟨_,outcome,classifySeverity_ref,result,assigned⟩

theorem classified_unique {one two : Severity} (first : Classified db ticket one)
    (second : Classified db ticket two) : one = two :=
  Option.some.inj ((classified_iff.mp first).symm.trans (classified_iff.mp second))

-- What else the calculation needs before it says anything about a ticket whose
-- severity is known.
def SlaTargetReadable (db : Db) (clock : SnapshotClock) (registry : Registry) (ticket : Ticket)
    (severity : Severity) : Prop :=
  ∃ account, db.accounts.row ticket.accountId = some account ∧
    ∃ applicability, (resolveApplicability .slaFirstResponse account.accountId clock.now.date
        registry).on db = .ok applicability ∧
      ∃ target, Db.slaTargetRow db.slaTargets applicability.winningSourceId severity.value
          account.plan account.accountId = some target ∧
        (target.requiresBusinessCalendar = true ∨ ∃ reading, slaDeadline ticket target = .ok reading)

def slaEvidence (db : Db) (ticket : Ticket) (applicability : ApplicabilityResult) : List EvidenceRef :=
  citeStructured "tickets" ticket.ticketId ::
    (severityOf ticket [documentRef db "SRC-01" (some "2")]).evidence ++
      [documentRef db applicability.winningSourceId (some applicability.winningSection)]

-- Everything the calculation returns for a ticket the caller sees, once.
inductive SlaAssessed (db : Db) (snapshot : DateTime) (registry : Registry) (ticket : Ticket)
    (account : Account) : DecisionResult SlaOutcome → Prop where
  | unclassified (unnamed : assignedSeverity ticket = none) :
      SlaAssessed db snapshot registry ticket account
        (slaUnclassified (citeStructured "tickets" ticket.ticketId)
          (severityOf ticket [documentRef db "SRC-01" (some "2")]))
  | untargeted (named : assignedSeverity ticket = some severity)
      (resolved : (resolveApplicability .slaFirstResponse ticket.accountId snapshot.date registry).on db =
        .ok applicability)
      (absent : Db.slaTargetRow db.slaTargets applicability.winningSourceId severity.value
        account.plan ticket.accountId = none) :
      SlaAssessed db snapshot registry ticket account
        (slaNoTarget (citeStructured "tickets" ticket.ticketId) applicability account severity)
  | calendar (named : assignedSeverity ticket = some severity)
      (resolved : (resolveApplicability .slaFirstResponse ticket.accountId snapshot.date registry).on db =
        .ok applicability)
      (stored : Db.slaTargetRow db.slaTargets applicability.winningSourceId severity.value
        account.plan ticket.accountId = some target)
      (needed : target.requiresBusinessCalendar = true) :
      SlaAssessed db snapshot registry ticket account
        (slaBusinessCalendar severity applicability target (slaEvidence db ticket applicability)
          (conflictsOf applicability ticket.accountId))
  | computed (named : assignedSeverity ticket = some severity)
      (resolved : (resolveApplicability .slaFirstResponse ticket.accountId snapshot.date registry).on db =
        .ok applicability)
      (stored : Db.slaTargetRow db.slaTargets applicability.winningSourceId severity.value
        account.plan ticket.accountId = some target)
      (plain : target.requiresBusinessCalendar = false)
      (reading : slaDeadline ticket target = .ok (minutes,deadline)) :
      SlaAssessed db snapshot registry ticket account
        (slaComputed snapshot ticket severity applicability target minutes deadline
          (slaEvidence db ticket applicability) (conflictsOf applicability ticket.accountId))

theorem lookupSlaTarget_on (sourceId : String) (account : Account) (severity : Severity) :
    (lookupSlaTarget sourceId account severity).on db = .ok (Db.slaTargetRow db.slaTargets sourceId
      severity.value account.plan account.accountId) := rfl

theorem sla_cases (read : (getTicket ticketId auth clock.tz).on db = .ok ticket)
    (ran : (calculateSla ticketId auth clock registry).on db = .ok decision) :
    ∃ account, db.accounts.row ticket.accountId = some account ∧
      SlaAssessed db clock.now registry ticket account decision := by
  unfold calculateSla at ran
  obtain ⟨same,again,ran⟩ := on_bind_ok.mp ran
  cases Except.ok.inj (again.symm.trans read)
  obtain ⟨account,holder,ran⟩ := on_bind_ok.mp ran
  have known := (getAccount_ok.mp holder).2
  refine ⟨account,known,?_⟩
  rw [show account.accountId = ticket.accountId from Table.row_key known] at ran
  obtain ⟨_,classified,ran⟩ := on_bind_ok.mp ran
  rw [classifySeverity_ref] at classified
  cases classified
  rw [severityOf_evidence] at ran
  dsimp only at ran
  split at ran
  · rename_i unnamed
    cases ran
    exact .unclassified unnamed
  · rename_i severity named
    obtain ⟨applicability,resolved,ran⟩ := on_bind_ok.mp ran
    obtain ⟨row,looked,ran⟩ := on_bind_ok.mp ran
    rw [lookupSlaTarget_on,show account.accountId = ticket.accountId from Table.row_key known] at looked
    replace looked := Except.ok.inj looked
    cases row with
    | none =>
        cases ran
        exact .untargeted named resolved looked
    | some target =>
        obtain ⟨clause,cited,ran⟩ := on_bind_ok.mp ran
        rw [citeDocument_ref] at cited
        cases cited
        split at ran
        · rename_i needed
          cases ran
          exact .calendar named resolved looked needed
        · rename_i plain
          obtain ⟨⟨minutes,deadline⟩,computed,ran⟩ := on_bind_ok.mp ran
          rw [on_orRaise] at computed
          cases ran
          exact .computed named resolved looked (Bool.eq_false_iff.mpr plain) computed

theorem sla_ran (read : (getTicket ticketId auth clock.tz).on db = .ok ticket)
    (known : db.accounts.row ticket.accountId = some account)
    (assessed : SlaAssessed db clock.now registry ticket account decision) :
    (calculateSla ticketId auth clock registry).on db = .ok decision := by
  obtain ⟨row,_,allowed,same⟩ := getTicket_ok.mp read
  have visible : auth.allowsAccount ticket.accountId = true := by
    rw [← same]
    exact allowed
  have holder : (getAccount ticket.accountId auth).on db = .ok account :=
    getAccount_ok.mpr ⟨visible,known⟩
  have id : account.accountId = ticket.accountId := Table.row_key known
  have classifies (severity : Option Severity) (named : assignedSeverity ticket = severity) :
      (severityOf ticket [documentRef db "SRC-01" (some "2")]).result.bind (·.severity) = severity := by
    rw [severityOf_evidence]
    exact named
  cases assessed with
  | unclassified unnamed =>
      simp only [calculateSla,on_bind,read,holder,classifySeverity_ref,Except.bind,
        classifies _ unnamed,on_pure]
  | untargeted named resolved absent =>
      simp only [calculateSla,on_bind,read,holder,classifySeverity_ref,Except.bind,
        classifies _ named,resolved,lookupSlaTarget_on,id,absent,on_pure]
  | calendar named resolved stored needed =>
      simp only [calculateSla,on_bind,read,holder,classifySeverity_ref,Except.bind,
        classifies _ named,resolved,lookupSlaTarget_on,id,stored,citeDocument_ref,
        needed,if_true,on_pure,slaEvidence]
  | computed named resolved stored plain reading =>
      simp only [calculateSla,on_bind,read,holder,classifySeverity_ref,Except.bind,
        classifies _ named,resolved,lookupSlaTarget_on,id,stored,citeDocument_ref,
        plain,Bool.false_eq_true,if_false,on_orRaise,reading,on_pure,slaEvidence]

theorem sla_assessed (read : (getTicket ticketId auth clock.tz).on db = .ok ticket)
    (ran : (calculateSla ticketId auth clock registry).on db = .ok decision)
    (assessed : decision.result = some outcome) :
    Classified db ticket outcome.severity ∧
      SlaTargetReadable db clock registry ticket outcome.severity := by
  obtain ⟨account,known,returned⟩ := sla_cases read ran
  have id : account.accountId = ticket.accountId := Table.row_key known
  cases returned with
  | unclassified unnamed => cases assessed
  | untargeted named resolved absent => cases assessed
  | @calendar severity applicability target named resolved stored needed =>
      cases assessed
      refine ⟨classified_iff.mpr named,account,known,applicability,?_,target,?_,.inl needed⟩
      · rwa [id]
      · rwa [id]
  | @computed severity applicability target minutes deadline named resolved stored plain reading =>
      cases assessed
      refine ⟨classified_iff.mpr named,account,known,applicability,?_,target,?_,.inr ⟨_,reading⟩⟩
      · rwa [id]
      · rwa [id]

theorem sla_readable (read : (getTicket ticketId auth clock.tz).on db = .ok ticket)
    (classified : Classified db ticket severity)
    (readable : SlaTargetReadable db clock registry ticket severity) :
    ∃ decision outcome, (calculateSla ticketId auth clock registry).on db = .ok decision ∧
      decision.result = some outcome ∧ outcome.severity = severity := by
  obtain ⟨account,known,applicability,resolved,target,stored,computable⟩ := readable
  have named := classified_iff.mp classified
  rw [show account.accountId = ticket.accountId from Table.row_key known] at resolved stored
  cases calendar : target.requiresBusinessCalendar with
  | true => exact ⟨_,_,sla_ran read known (.calendar named resolved stored calendar),rfl,rfl⟩
  | false =>
      obtain ⟨_,reading⟩ := computable.resolve_left (by simp [calendar])
      exact ⟨_,_,sla_ran read known (.computed named resolved stored calendar reading),rfl,rfl⟩

end ParcelPilot
