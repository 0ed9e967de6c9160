import ParcelPilot.Detection
import ParcelPilot.Escalation
import ParcelPilot.SlaTable

namespace ParcelPilot

section Evaluation

variable [Formats] {db : Db} {auth : AuthContext} {clock : SnapshotClock} {registry : Registry}
  {ticketId : String} {row : TicketRow}

-- What a target text says, as ingestion reads it.
def SaysBusiness (targetText : String) : Prop :=
  Py.occursIn "business" (Host.lower targetText) = true

def ClockDuration (targetText : String) (minutes : Int) : Prop :=
  ∃ is24x7, parseDuration targetText = .ok (some minutes,is24x7,false)

-- A target that something can be said of for a ticket created then.
def Computable (targetText : String) (created : DateTime) : Prop :=
  SaysBusiness targetText ∨
    ∃ minutes deadline, ClockDuration targetText minutes ∧ created.plusMinutes minutes = .ok deadline

-- The ticket has no severity, or its account a governing source whose target, if
-- there is one, says something.
def Evaluable (db : Db) (clock : SnapshotClock) (registry : Registry) (row : TicketRow) : Prop :=
  ∀ severity, assignedSeverity (row.toTicket clock.tz) = some severity →
    ∃ source, governingSource db registry .slaFirstResponse row.accountId clock.now.date = some source ∧
      ∀ account target, db.accounts.row row.accountId = some account →
        Db.slaTargetRow db.slaTargets source severity.value account.plan row.accountId = some target →
        Computable target.targetText (row.createdAt.read clock.tz)

-- Every row comes from a text that one of the parsers accepted.
def FromAcceptedTexts (targets : List SlaTarget) : Prop :=
  ∀ target ∈ targets, ∃ rows, AcceptedText rows ∧ target ∈ rows

theorem parsed_business {target : SlaTarget} (parsed : target.Parsed) :
    target.requiresBusinessCalendar = true ↔ SaysBusiness target.targetText := by
  unfold SlaTarget.Parsed parseDuration at parsed
  dsimp only at parsed
  unfold SaysBusiness
  split at parsed
  · rename_i business
    simp only [Except.ok.injEq,Prod.mk.injEq] at parsed
    simp [business,← parsed.2.2]
  · rename_i plain
    split at parsed
    · simp only [Except.ok.injEq,Prod.mk.injEq] at parsed
      simp [plain,← parsed.2.2]
    · obtain ⟨n,_,parsed⟩ := except_bind_ok.mp parsed
      simp only [pure,Except.pure,Except.ok.injEq,Prod.mk.injEq] at parsed
      simp [plain,← parsed.2.2]

theorem parsed_computable {target : SlaTarget} {ticket : Ticket} (parsed : target.Parsed) :
    (target.requiresBusinessCalendar = true ∨ ∃ reading, slaDeadline ticket target = .ok reading) ↔
      Computable target.targetText ticket.createdAt := by
  unfold Computable
  rw [parsed_business parsed]
  by_cases business : SaysBusiness target.targetText
  · simp [business]
  · have plain : target.requiresBusinessCalendar = false :=
      Bool.eq_false_iff.mpr fun needed => business ((parsed_business parsed).mp needed)
    simp only [business,false_or]
    unfold SlaTarget.Parsed at parsed
    unfold slaDeadline ClockDuration
    rw [parsed]
    constructor
    · rintro ⟨reading,computed⟩
      cases named : target.targetMinutes with
      | none =>
          rw [named] at computed
          cases computed
      | some minutes =>
          rw [named] at computed
          cases reached : ticket.createdAt.plusMinutes minutes with
          | error error => simp [reached,Except.map] at computed
          | ok deadline => exact ⟨minutes,deadline,⟨target.is24x7,by rw [plain]⟩,reached⟩
    · rintro ⟨minutes,deadline,⟨is24x7,said⟩,reached⟩
      obtain ⟨named,_⟩ := Prod.mk.inj (Except.ok.inj said)
      exact ⟨(minutes,deadline),by simp [named,reached,Except.map]⟩

omit [Formats] in
theorem slaTargetRow_mem {targets : List SlaTarget} {sourceId severity plan accountId : String}
    {target : SlaTarget}
    (stored : Db.slaTargetRow targets sourceId severity plan accountId = some target) :
    target ∈ targets := by
  have member := List.mem_of_head? stored
  simp only [List.mem_append,List.mem_filter] at member
  rcases member with own | other
  · exact own.1.1
  · exact other.1.1

theorem sla_returns_iff (accepted : FromAcceptedTexts db.slaTargets)
    (stored : db.tickets.row ticketId = some row) (allowed : auth.allowsAccount row.accountId = true)
    (known : db.accounts.row row.accountId = some account) :
    (∃ decision, (calculateSla ticketId auth clock registry).on db = .ok decision) ↔
      Evaluable db clock registry row := by
  have read : (getTicket ticketId auth clock.tz).on db = .ok (row.toTicket clock.tz) :=
    getTicket_ok.mpr ⟨row,stored,allowed,rfl⟩
  have parsed {target : SlaTarget} (member : target ∈ db.slaTargets) : target.Parsed := by
    obtain ⟨rows,text,listed⟩ := accepted target member
    exact accepted_parsed text target listed
  have governs {applicability : ApplicabilityResult}
      (resolved : (resolveApplicability .slaFirstResponse row.accountId clock.now.date registry).on db =
        .ok applicability) :
      governingSource db registry .slaFirstResponse row.accountId clock.now.date =
        some applicability.winningSourceId := by
    rw [resolve_governing,resolved]
    rfl
  constructor
  · rintro ⟨decision,ran⟩ severity named
    obtain ⟨holder,found,assessed⟩ := sla_cases read ran
    cases Option.some.inj (known.symm.trans found)
    cases assessed with
    | unclassified unnamed =>
        rw [unnamed] at named
        cases named
    | untargeted given resolved absent =>
        cases Option.some.inj (given.symm.trans named)
        refine ⟨_,governs resolved,fun holder target same target_ => ?_⟩
        cases Option.some.inj (known.symm.trans same)
        rw [show Db.slaTargetRow _ _ _ _ row.accountId = none from absent] at target_
        cases target_
    | calendar given resolved target needed =>
        cases Option.some.inj (given.symm.trans named)
        refine ⟨_,governs resolved,fun holder other same again => ?_⟩
        cases Option.some.inj (known.symm.trans same)
        cases Option.some.inj (target.symm.trans again)
        exact .inl ((parsed_business (parsed (slaTargetRow_mem target))).mp needed)
    | computed given resolved target plain reading =>
        cases Option.some.inj (given.symm.trans named)
        refine ⟨_,governs resolved,fun holder other same again => ?_⟩
        cases Option.some.inj (known.symm.trans same)
        cases Option.some.inj (target.symm.trans again)
        exact (parsed_computable (parsed (slaTargetRow_mem target))).mp (.inr ⟨_,reading⟩)
  · intro evaluable
    cases named : assignedSeverity (row.toTicket clock.tz) with
    | none => exact ⟨_,sla_ran read known (.unclassified named)⟩
    | some severity =>
        obtain ⟨source,governing,computable⟩ := evaluable severity named
        rw [resolve_governing] at governing
        obtain ⟨applicability,resolved,rfl⟩ := Option.map_eq_some_iff.mp governing
        cases reached : (resolveApplicability .slaFirstResponse row.accountId clock.now.date
            registry).on db with
        | error error =>
            rw [reached] at resolved
            cases resolved
        | ok other =>
            rw [reached] at resolved
            cases resolved
            cases target : Db.slaTargetRow db.slaTargets applicability.winningSourceId severity.value
                account.plan row.accountId with
            | none => exact ⟨_,sla_ran read known (.untargeted named reached target)⟩
            | some target_ =>
                have parses := parsed (slaTargetRow_mem target)
                have readable := (@parsed_computable _ _ (row.toTicket clock.tz) parses).mpr
                  (computable account target_ known target)
                cases calendar : target_.requiresBusinessCalendar with
                | true => exact ⟨_,sla_ran read known (.calendar named reached target calendar)⟩
                | false =>
                    obtain ⟨⟨minutes,deadline⟩,reading⟩ := readable.resolve_left (by simp [calendar])
                    exact ⟨_,sla_ran read known (.computed named reached target calendar reading)⟩

theorem collect_returns_iff {choose : α → Query (Option β)} {items : List α} :
    (∃ found, Query.on (Fallible.collect choose items) db = .ok found) ↔
      ∀ item ∈ items, ∃ value, (choose item).on db = .ok value :=
  ⟨fun ⟨_,ran⟩ => (on_collect.mp ran).1,fun each => ⟨_,on_collect.mpr ⟨each,rfl⟩⟩⟩

structure OpenTo (db : Db) (auth : AuthContext) (row : TicketRow) : Prop where
  stored : row ∈ db.tickets.rows
  allowed : auth.allowsAccount row.accountId = true
  isOpen : row.status = .open_

omit [Formats] in
theorem openTo_iff : row ∈ db.tickets.listing (Db.ticketChosen auth.accountScope none (some .open_)) ↔
    OpenTo db auth row := by
  rw [Table.mem_listing]
  simp only [Db.ticketChosen,admitsAny_scope,Db.admits,Bool.and_true,Bool.and_eq_true,decide_eq_true_eq]
  exact ⟨fun ⟨stored,allowed,isOpen⟩ => ⟨stored,allowed,isOpen⟩,
    fun ⟨stored,allowed,isOpen⟩ => ⟨stored,allowed,isOpen⟩⟩

-- Every ticket belongs to a stored account, as the schema requires.
def AccountsHeld (db : Db) : Prop :=
  ∀ row ∈ db.tickets.rows, ∃ account, db.accounts.row row.accountId = some account

theorem open_returns_iff (accepted : FromAcceptedTexts db.slaTargets) (held : AccountsHeld db)
    (open_ : OpenTo db auth row) :
    (∃ decision, (calculateSla row.ticketId auth clock registry).on db = .ok decision) ↔
      Evaluable db clock registry row := by
  obtain ⟨account,known⟩ := held row open_.stored
  exact sla_returns_iff accepted (Table.row_eq_some.mpr ⟨open_.stored,rfl⟩) open_.allowed known

theorem searchTickets_open (tz : Int) : (searchTickets auth tz none (some .open_)).on db =
    .ok ((db.tickets.listing (Db.ticketChosen auth.accountScope none (some .open_))).map
      (·.toTicket tz)) := rfl

theorem detectSla_returns_iff (accepted : FromAcceptedTexts db.slaTargets) (held : AccountsHeld db)
    (alert : Ticket → DecisionResult SlaOutcome → Option AlertCandidate) :
    (∃ alerts, (detectSla alert auth clock registry).on db = .ok alerts) ↔
      ∀ row, OpenTo db auth row → Evaluable db clock registry row := by
  unfold detectSla
  rw [on_bind,searchTickets_open]
  simp only [Except.bind]
  rw [collect_returns_iff,List.forall_mem_map]
  constructor
  · intro returns row open_
    obtain ⟨value,ran⟩ := returns row (openTo_iff.mpr open_)
    obtain ⟨decision,ran,_⟩ := on_bind_ok.mp ran
    exact (open_returns_iff accepted held open_).mp ⟨decision,ran⟩
  · intro evaluable row listed
    have open_ := openTo_iff.mp listed
    obtain ⟨decision,ran⟩ := (@open_returns_iff _ _ _ clock registry _ accepted held open_).mpr
      (evaluable row open_)
    exact ⟨_,on_bind_ok.mpr ⟨decision,ran,rfl⟩⟩

def recurringCount (auth : AuthContext) (clock : SnapshotClock) (registry : Registry)
    (cutoff : DateTime) (ticket : Ticket) : Query (Option (Severity × Ticket)) :=
  if ticket.createdAt < cutoff then pure none
  else do
    let decision ← calculateSla ticket.ticketId auth clock registry
    pure (recurringEntry ticket decision)

theorem recurring_returns_iff (accepted : FromAcceptedTexts db.slaTargets) (held : AccountsHeld db)
    {windowDays : Int} {cutoff : DateTime} (within : clock.now.minusDays windowDays = .ok cutoff)
    (threshold : Int) :
    (∃ alerts, (detectRecurringSeverity auth clock threshold windowDays registry).on db = .ok alerts) ↔
      ∀ row, OpenTo db auth row → cutoff ≤ row.createdAt.read clock.tz →
        Evaluable db clock registry row := by
  have counted : (∃ alerts, (detectRecurringSeverity auth clock threshold windowDays registry).on db =
      .ok alerts) ↔ ∃ found, Query.on (Fallible.collect (recurringCount auth clock registry cutoff)
        ((db.tickets.listing (Db.ticketChosen auth.accountScope none (some .open_))).map
          (·.toTicket clock.tz))) db = .ok found := by
    unfold detectRecurringSeverity
    rw [on_bind,on_orRaise,within]
    simp only [Except.bind]
    constructor
    · rintro ⟨alerts,ran⟩
      obtain ⟨tickets,listed,ran⟩ := on_bind_ok.mp ran
      rw [searchTickets_open] at listed
      cases listed
      obtain ⟨found,looked,_⟩ := on_bind_ok.mp ran
      exact ⟨found,looked⟩
    · rintro ⟨found,looked⟩
      exact ⟨_,on_bind_ok.mpr ⟨_,searchTickets_open _,on_bind_ok.mpr ⟨found,looked,rfl⟩⟩⟩
  rw [counted,collect_returns_iff,List.forall_mem_map]
  constructor
  · intro returns row open_ recent
    obtain ⟨value,ran⟩ := returns row (openTo_iff.mpr open_)
    have kept : ¬ (row.toTicket clock.tz).createdAt < cutoff := Int.not_lt.mpr recent
    rw [recurringCount,if_neg kept] at ran
    obtain ⟨decision,ran,_⟩ := on_bind_ok.mp ran
    exact (open_returns_iff accepted held open_).mp ⟨decision,ran⟩
  · intro evaluable row listed
    have open_ := openTo_iff.mp listed
    unfold recurringCount
    split
    · exact ⟨none,rfl⟩
    · rename_i recent
      obtain ⟨decision,ran⟩ := (@open_returns_iff _ _ _ clock registry _ accepted held open_).mpr
        (evaluable row open_ (DateTime.le_of_not_lt recent))
      exact ⟨_,on_bind_ok.mpr ⟨decision,ran,rfl⟩⟩

theorem escalation_returns_iff {reason userId requestId uuidHex : String}
    (open_ : OpenTo db auth row) (recordable : Recordable db clock uuidHex) :
    (∃ outcome, ((prepareEscalation row.ticketId reason auth clock userId requestId registry
        uuidHex).on db).1 = .ok outcome) ↔
      ∃ decision, (calculateSla row.ticketId auth clock registry).on db = .ok decision := by
  have read : (getTicket row.ticketId auth clock.tz).on db = .ok (row.toTicket clock.tz) :=
    getTicket_ok.mpr ⟨row,Table.row_eq_some.mpr ⟨open_.stored,rfl⟩,open_.allowed,rfl⟩
  have found : (reading (Fallible.attempt (getTicket row.ticketId auth clock.tz))).on db =
      (.ok (.ok (row.toTicket clock.tz)),db) := by rw [alone_reading,on_attempt,read]
  have ticket_open : ¬ ((row.toTicket clock.tz).status ≠ .open_) := fun changed => changed open_.isOpen
  unfold prepareEscalation
  rw [alone_then found]
  simp only [ticket_open,if_false]
  cases ran : (calculateSla row.ticketId auth clock registry).on db with
  | error error =>
      rw [alone_raised (by rw [alone_reading,ran])]
      simp
  | ok decision =>
      rw [alone_then (by rw [alone_reading,ran])]
      refine iff_of_true ?_ ⟨decision,rfl⟩
      obtain ⟨⟨expiresAt,expiry⟩,fresh⟩ := recordable
      cases assessed : decision.result with
      | none => exact ⟨_,rfl⟩
      | some outcome =>
          by_cases bar : outcome.escalates = true
          · simp only [bar,if_true]
            obtain ⟨after,inserted⟩ := insertAction_alone db
              (escalationRecord (row.toTicket clock.tz) row.ticketId reason outcome decision.evidence
                userId requestId uuidHex clock.now expiresAt) fresh
            rw [expiry,alone_then (alone_raising _),alone_then inserted]
            exact ⟨_,rfl⟩
          · simp only [bar,Bool.false_eq_true,if_false]
            exact ⟨_,rfl⟩

-- One text that says neither a clock duration nor "business" takes the
-- calculation down for its tickets, and every listing of such a ticket with it;
-- nothing else in an accepted text does.
theorem target_texts_evaluate_iff (accepted : FromAcceptedTexts db.slaTargets)
    (held : AccountsHeld db) :
    (∀ ticketId row account, db.tickets.row ticketId = some row →
      auth.allowsAccount row.accountId = true → db.accounts.row row.accountId = some account →
      ((∃ decision, (calculateSla ticketId auth clock registry).on db = .ok decision) ↔
        Evaluable db clock registry row)) ∧
    (∀ alert, (∃ alerts, (detectSla alert auth clock registry).on db = .ok alerts) ↔
      ∀ row, OpenTo db auth row → Evaluable db clock registry row) ∧
    (∀ threshold windowDays cutoff, clock.now.minusDays windowDays = .ok cutoff →
      ((∃ alerts, (detectRecurringSeverity auth clock threshold windowDays registry).on db =
          .ok alerts) ↔
        ∀ row, OpenTo db auth row → cutoff ≤ row.createdAt.read clock.tz →
          Evaluable db clock registry row)) ∧
    ∀ row reason userId requestId uuidHex, OpenTo db auth row → Recordable db clock uuidHex →
      ((∃ outcome, ((prepareEscalation row.ticketId reason auth clock userId requestId registry
          uuidHex).on db).1 = .ok outcome) ↔
        Evaluable db clock registry row) := by
  refine ⟨?_,fun alert => detectSla_returns_iff accepted held alert,?_,?_⟩
  · intro ticketId row account stored allowed known
    exact sla_returns_iff accepted stored allowed known
  · intro threshold windowDays cutoff within
    exact recurring_returns_iff accepted held within threshold
  · intro row reason userId requestId uuidHex open_ recordable
    rw [escalation_returns_iff open_ recordable]
    exact open_returns_iff accepted held open_

end Evaluation

-- An agreement that promises an answer within days.
def dayTargets : List SlaTarget := [
  ⟨"SRC-05",none,some "ACCT-003","P1","2 days, 24x7",none,true,false⟩,
  ⟨"SRC-05",none,some "ACCT-003","P2","4 hours",some 240,false,false⟩,
  ⟨"SRC-05",none,some "ACCT-003","P3","1 business day",none,false,true⟩]

def dayDb : Db := {untargetedDb with
  sources := ⟨[agreementSource "SRC-05" "ACCT-003" .active 739616 (some 739980)],by decide⟩
  slaTargets := dayTargets}

def dayRegistry : Registry where
  overrides := [⟨"ACCT-003","SRC-05","1",.slaFirstResponse,"The agreement's targets apply."⟩]

def operations : AuthContext := ⟨.operationsAdmin,none⟩

theorem dayTargets_accepted : let _ := asciiFormats [] []
    FromAcceptedTexts dayDb.slaTargets := by
  intro _
  have parsed : parseBulletTargets "P1: 2 days, 24x7\nP2: 4 hours\nP3: 1 business day" "SRC-05"
      "ACCT-003" = .ok dayTargets := by decide +kernel
  exact fun target member => ⟨dayTargets,.bullets parsed,member⟩

theorem day_target_raises : let _ := asciiFormats [] []
    FromAcceptedTexts dayDb.slaTargets ∧
      (calculateSla "TKT-104" operations snapshotClock dayRegistry).on dayDb = .error noneMinutes ∧
      (detectSlaBreaches operations snapshotClock dayRegistry).on dayDb = .error noneMinutes ∧
      (detectRecurringSeverity operations snapshotClock 2 30 dayRegistry).on dayDb =
        .error noneMinutes := by
  intro _
  have told : ((calculateSla "TKT-104" operations snapshotClock dayRegistry).on dayDb).map
        (fun _ => ()) = .error noneMinutes ∧
      ((detectSlaBreaches operations snapshotClock dayRegistry).on dayDb).map (fun _ => ()) =
        .error noneMinutes ∧
      ((detectRecurringSeverity operations snapshotClock 2 30 dayRegistry).on dayDb).map
        (fun _ => ()) = .error noneMinutes := by
    decide +kernel
  exact ⟨dayTargets_accepted,raised_of_map told.1,raised_of_map told.2.1,raised_of_map told.2.2⟩

theorem target_texts_evaluate_day : let _ := asciiFormats [] []
    ((∃ decision, (calculateSla "TKT-104" operations snapshotClock dayRegistry).on dayDb =
        .ok decision) ↔ Evaluable dayDb snapshotClock dayRegistry outageTicket) ∧
      ((∃ alerts, (detectSlaBreaches operations snapshotClock dayRegistry).on dayDb = .ok alerts) ↔
        ∀ row, OpenTo dayDb operations row → Evaluable dayDb snapshotClock dayRegistry row) := by
  intro _
  have held : AccountsHeld dayDb := by
    intro row member
    cases List.mem_singleton.mp member
    exact ⟨basicAccount,rfl⟩
  obtain ⟨calculates,detects,_⟩ := @target_texts_evaluate_iff _ dayDb operations snapshotClock
    dayRegistry dayTargets_accepted held
  exact ⟨calculates _ _ _ rfl rfl rfl,detects slaBreachAlert⟩

end ParcelPilot
