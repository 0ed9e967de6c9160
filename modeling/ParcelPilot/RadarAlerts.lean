import ParcelPilot.Dictionaries
import ParcelPilot.KnownIssues

namespace ParcelPilot

section Rules

variable [Host] {db : Db} {auth : AuthContext} {clock : SnapshotClock} {registry : Registry}
  {threshold windowDays : Int} {cutoff : DateTime} {alert : AlertCandidate}

def openTickets (db : Db) (auth : AuthContext) (clock : SnapshotClock) : List Ticket :=
  (db.tickets.listing (Db.ticketChosen auth.accountScope none (some .open_))).map (·.toTicket clock.tz)

def slaOf (db : Db) (auth : AuthContext) (clock : SnapshotClock) (registry : Registry)
    (ticket : Ticket) : Option (DecisionResult SlaOutcome) :=
  ((calculateSla ticket.ticketId auth clock registry).on db).toOption

-- The open tickets since the cutoff that count for a severity.
def recurringTickets (db : Db) (auth : AuthContext) (clock : SnapshotClock) (registry : Registry)
    (cutoff : DateTime) (severity : Severity) : List Ticket :=
  (openTickets db auth clock).filter fun ticket => cutoff ≤ ticket.createdAt &&
    ((slaOf db auth clock registry ticket).bind (recurringEntry ticket)).map (·.1) = some severity

def faultyOrders (db : Db) (auth : AuthContext) (clock : SnapshotClock) (cutoff : DateTime) :
    List Order :=
  ((db.orders.listing (Db.orderChosen auth.accountScope none none none)).map
    (·.toOrder clock.tz)).filter fun order => order.carrierFault && !(order.bookedAt < cutoff)

def carrierOrders (db : Db) (auth : AuthContext) (clock : SnapshotClock) (cutoff : DateTime)
    (carrier : String) : List Order :=
  (faultyOrders db auth clock cutoff).filter (·.carrier = carrier)

def bookedOrders (db : Db) (auth : AuthContext) (clock : SnapshotClock) : List Order :=
  (db.orders.listing (Db.orderChosen auth.accountScope none (some .booked) none)).map
    (·.toOrder clock.tz)

theorem on_collect_asking {ask : α → Query β} {keep : α → β → Option γ} {items : List α}
    {found : List γ} :
    Query.on (Fallible.collect (fun item => do
        let value ← ask item
        pure (keep item value)) items) db = .ok found ↔
      (∀ item ∈ items, ∃ value, (ask item).on db = .ok value) ∧
        found = items.filterMap fun item => ((ask item).on db).toOption.bind (keep item) := by
  have decided (item : α) : Query.on (do
      let value ← ask item
      pure (keep item value)) db = ((ask item).on db).map (keep item) := by
    rw [on_bind]
    cases (ask item).on db <;> rfl
  rw [on_collect]
  refine and_congr (forall₂_congr fun item _ => ?_) (Eq.congr_right (congrArg₂ _ ?_ rfl))
  · rw [decided]
    cases (ask item).on db <;> simp [Except.map]
  · funext item
    rw [decided]
    cases (ask item).on db <;> rfl

theorem detectSla_ok {alert : Ticket → DecisionResult SlaOutcome → Option AlertCandidate} :
    (detectSla alert auth clock registry).on db = .ok alerts ↔
      (∀ ticket ∈ openTickets db auth clock, ∃ decision,
        (calculateSla ticket.ticketId auth clock registry).on db = .ok decision) ∧
      alerts = (openTickets db auth clock).filterMap fun ticket =>
        (slaOf db auth clock registry ticket).bind (alert ticket) := on_collect_asking

omit [Host] in
theorem recurringEntry_ticket {ticket other : Ticket} {decision : DecisionResult SlaOutcome}
    {severity : Severity} (counted : recurringEntry ticket decision = some (severity,other)) :
    other = ticket := by
  unfold recurringEntry at counted
  split at counted
  · cases counted
  · split at counted <;> cases counted
    rfl

omit [Host] in
theorem labelled {label : α → Option (κ × α)} [DecidableEq κ] (items : List α) (wanted : κ)
    (own : ∀ item key other, label item = some (key,other) → other = item) :
    ((items.filterMap label).filter (·.1 = wanted)).map (·.2) =
      items.filter fun item => (label item).map (·.1) = some wanted := by
  induction items with
  | nil => rfl
  | cons item rest ih =>
      cases named : label item with
      | none => simp [named,ih]
      | some entry =>
          obtain ⟨key,other⟩ := entry
          cases own item key other named
          by_cases same : key = wanted <;> simp [named,same,ih]

def countedFor (db : Db) (auth : AuthContext) (clock : SnapshotClock) (registry : Registry)
    (cutoff : DateTime) (ticket : Ticket) : Option (Severity × Ticket) :=
  if ticket.createdAt < cutoff then none
  else (slaOf db auth clock registry ticket).bind (recurringEntry ticket)

theorem recurringTickets_counted (severity : Severity) :
    (((openTickets db auth clock).filterMap (countedFor db auth clock registry cutoff)).filter
        (·.1 = severity)).map (·.2) = recurringTickets db auth clock registry cutoff severity := by
  rw [labelled]
  · refine List.filter_congr fun ticket _ => ?_
    unfold countedFor
    by_cases early : ticket.createdAt < cutoff
    · have outside : ¬ cutoff ≤ ticket.createdAt := Int.not_le.mpr early
      simp [early,outside]
    · simp [early,DateTime.le_of_not_lt early]
  · intro ticket severity other counted
    unfold countedFor at counted
    split at counted
    · cases counted
    · obtain ⟨decision,_,entry⟩ := Option.bind_eq_some_iff.mp counted
      exact recurringEntry_ticket entry

theorem counted_on (ticket : Ticket) :
    Query.on (if ticket.createdAt < cutoff then pure none
      else do
        let decision ← calculateSla ticket.ticketId auth clock registry
        pure (recurringEntry ticket decision)) db =
      if ticket.createdAt < cutoff then .ok none
      else ((calculateSla ticket.ticketId auth clock registry).on db).map (recurringEntry ticket) := by
  split
  · rfl
  · rw [on_bind]
    cases (calculateSla ticket.ticketId auth clock registry).on db <;> rfl

theorem countedFor_on (ticket : Ticket) :
    countedFor db auth clock registry cutoff ticket =
      (Query.on (if ticket.createdAt < cutoff then pure none
        else do
          let decision ← calculateSla ticket.ticketId auth clock registry
          pure (recurringEntry ticket decision)) db).toOption.join := by
  rw [counted_on]
  unfold countedFor slaOf
  split
  · rfl
  · cases (calculateSla ticket.ticketId auth clock registry).on db <;> rfl

theorem detectRecurringSeverity_ok :
    (detectRecurringSeverity auth clock threshold windowDays registry).on db = .ok alerts ↔
      ∃ cutoff, clock.now.minusDays windowDays = .ok cutoff ∧
        (∀ ticket ∈ openTickets db auth clock, cutoff ≤ ticket.createdAt → ∃ decision,
          (calculateSla ticket.ticketId auth clock registry).on db = .ok decision) ∧
        alerts = [Severity.p1,.p2].filterMap fun severity => recurringAlert threshold windowDays
          severity (recurringTickets db auth clock registry cutoff severity) := by
  constructor
  · intro ran
    obtain ⟨cutoff,within,ran⟩ := on_bind_ok.mp ran
    rw [on_orRaise] at within
    obtain ⟨tickets,listed,ran⟩ := on_bind_ok.mp ran
    cases listed
    obtain ⟨counted,looked,ran⟩ := on_bind_ok.mp ran
    cases ran
    obtain ⟨each,rfl⟩ := on_collect.mp looked
    refine ⟨cutoff,within,fun ticket member recent => ?_,?_⟩
    · have kept : ¬ ticket.createdAt < cutoff := Int.not_lt.mpr recent
      obtain ⟨value,asked⟩ := each ticket member
      rw [counted_on,if_neg kept] at asked
      cases reached : (calculateSla ticket.ticketId auth clock registry).on db with
      | error error => rw [reached] at asked; cases asked
      | ok decision => exact ⟨decision,rfl⟩
    · simp only [← recurringTickets_counted,countedFor_on]
      rfl
  · rintro ⟨cutoff,within,each,rfl⟩
    refine on_bind_ok.mpr ⟨cutoff,by rw [on_orRaise,within],on_bind_ok.mpr ⟨_,rfl,
      on_bind_ok.mpr ⟨_,on_collect.mpr ⟨fun ticket member => ?_,rfl⟩,?_⟩⟩⟩
    · rw [counted_on]
      split
      · exact ⟨_,rfl⟩
      · rename_i early
        obtain ⟨decision,ran⟩ := each ticket member (DateTime.le_of_not_lt early)
        exact ⟨_,by rw [ran]; rfl⟩
    · simp only [← recurringTickets_counted,countedFor_on]
      rfl

theorem detectCarrierPatterns_ok :
    (detectCarrierPatterns auth clock threshold windowDays).on db = .ok alerts ↔
      ∃ cutoff, clock.now.minusDays windowDays = .ok cutoff ∧
        alerts = (Py.grouped (·.carrier) (faultyOrders db auth clock cutoff)).filterMap
          fun (carrier,orders) => carrierAlert threshold windowDays carrier orders := by
  constructor
  · intro ran
    obtain ⟨cutoff,within,ran⟩ := on_bind_ok.mp ran
    rw [on_orRaise] at within
    cases ran
    exact ⟨cutoff,within,rfl⟩
  · rintro ⟨cutoff,within,rfl⟩
    exact on_bind_ok.mpr ⟨cutoff,by rw [on_orRaise,within],rfl⟩

theorem detectOverduePickups_on : (detectOverduePickups auth clock).on db =
    .ok ((bookedOrders db auth clock).filterMap (overduePickupAlert clock.now)) := rfl

theorem slaBreachAlert_facts {ticket : Ticket} {decision : DecisionResult SlaOutcome}
    (raises : slaBreachAlert ticket decision = some alert) :
    alert.alertType = .slaBreach ∧ alert.alertId = slaAlertId .slaBreach ticket ∧
      alert.ruleVersion = ruleVersion ∧ alert.representativeRecords = [ticket.ticketId] := by
  unfold slaBreachAlert at raises
  split at raises
  · cases raises
  · split at raises
    · cases raises
    · cases raises
      exact ⟨rfl,rfl,rfl,rfl⟩

theorem slaApproachingAlert_facts {ratio : Rat} {ticket : Ticket} {decision : DecisionResult SlaOutcome}
    (raises : slaApproachingAlert ratio ticket decision = some alert) :
    alert.alertType = .slaApproaching ∧ alert.alertId = slaAlertId .slaApproaching ticket ∧
      alert.ruleVersion = ruleVersion ∧ alert.representativeRecords = [ticket.ticketId] := by
  unfold slaApproachingAlert at raises
  split at raises
  · cases raises
  · split at raises
    · cases raises
    · split at raises
      · split at raises
        · cases raises
        · cases raises
          exact ⟨rfl,rfl,rfl,rfl⟩
      · cases raises

theorem recurringAlert_facts {threshold : Int} {severity : Severity} {tickets : List Ticket}
    (raises : recurringAlert threshold windowDays severity tickets = some alert) :
    threshold ≤ tickets.length ∧ alert.alertType = .recurringIssue ∧
      alert.alertId = computeAlertId .recurringIssue (windowDesc windowDays) ruleVersion
        (tickets.map (·.ticketId)) ∧
      alert.ruleVersion = ruleVersion ∧ alert.timeWindow = windowDesc windowDays ∧
      alert.representativeRecords = Py.sorted (tickets.map (·.ticketId)) ∧
      alert.severity = (if severity = .p1 then .high else .medium) := by
  unfold recurringAlert at raises
  simp only [List.length_map] at raises
  split at raises
  · cases raises
  · rename_i enough
    cases raises
    exact ⟨Int.not_lt.mp enough,rfl,rfl,rfl,rfl,rfl,rfl⟩

theorem carrierAlert_facts {threshold : Int} {carrier : String} {orders : List Order}
    (raises : carrierAlert threshold windowDays carrier orders = some alert) :
    threshold ≤ orders.length ∧ alert.alertType = .carrierPattern ∧
      alert.alertId = computeAlertId .carrierPattern (windowDesc windowDays) ruleVersion
        (orders.map (·.orderId)) ∧
      alert.ruleVersion = ruleVersion ∧ alert.timeWindow = windowDesc windowDays ∧
      alert.representativeRecords = Py.sorted (orders.map (·.orderId)) ∧
      alert.title = "Multiple carrier-fault orders for " ++ carrier := by
  unfold carrierAlert at raises
  simp only [List.length_map] at raises
  split at raises
  · cases raises
  · rename_i enough
    cases raises
    exact ⟨Int.not_lt.mp enough,rfl,rfl,rfl,rfl,rfl,rfl⟩

theorem overduePickupAlert_facts {snapshot : DateTime} {order : Order}
    (raises : overduePickupAlert snapshot order = some alert) :
    alert.alertType = .overduePickup ∧
      alert.alertId = computeAlertId .overduePickup "point-in-time" ruleVersion [order.orderId] ∧
      alert.ruleVersion = ruleVersion ∧ alert.representativeRecords = [order.orderId] := by
  unfold overduePickupAlert at raises
  split at raises
  · cases raises
  · cases raises
    exact ⟨rfl,rfl,rfl,rfl⟩

-- What each rule raises, and for which records.
inductive Raised (db : Db) (auth : AuthContext) (clock : SnapshotClock) (windowDays : Int)
    (registry : Registry) : AlertType → AlertCandidate → Prop where
  | breach {alert : AlertCandidate} (listed : ticket ∈ openTickets db auth clock)
      (calculated : (calculateSla ticket.ticketId auth clock registry).on db = .ok decision)
      (raises : slaBreachAlert ticket decision = some alert) :
      Raised db auth clock windowDays registry .slaBreach alert
  | approaching {alert : AlertCandidate} (listed : ticket ∈ openTickets db auth clock)
      (calculated : (calculateSla ticket.ticketId auth clock registry).on db = .ok decision)
      (raises : slaApproachingAlert defaultApproachingWarningRatio ticket decision = some alert) :
      Raised db auth clock windowDays registry .slaApproaching alert
  | recurring {cutoff : DateTime} {alert : AlertCandidate}
      (within : clock.now.minusDays windowDays = .ok cutoff)
      (high : severity ∈ [Severity.p1,.p2])
      (raises : recurringAlert defaultRecurringSeverityThreshold windowDays severity
        (recurringTickets db auth clock registry cutoff severity) = some alert) :
      Raised db auth clock windowDays registry .recurringIssue alert
  | issue {cutoff : DateTime} (within : clock.now.minusDays windowDays = .ok cutoff)
      (parsed : issue ∈ knownIssues db)
      (reports : reported defaultKnownIssueMinOccurrences (recentTickets db auth clock cutoff) issue =
        true) :
      Raised db auth clock windowDays registry .knownIssuePattern
        (issueAlert db defaultKnownIssueMinOccurrences windowDays
          (recentTickets db auth clock cutoff) issue)
  | carrier {cutoff : DateTime} {alert : AlertCandidate}
      (within : clock.now.minusDays windowDays = .ok cutoff)
      (raises : carrierAlert defaultCarrierFaultThreshold windowDays carrier
        (carrierOrders db auth clock cutoff carrier) = some alert) :
      Raised db auth clock windowDays registry .carrierPattern alert
  | overdue {alert : AlertCandidate} (listed : order ∈ bookedOrders db auth clock)
      (raises : overduePickupAlert clock.now order = some alert) :
      Raised db auth clock windowDays registry .overduePickup alert

theorem mem_slaAlerts {rule : Ticket → DecisionResult SlaOutcome → Option AlertCandidate} :
    alert ∈ (openTickets db auth clock).filterMap (fun ticket =>
        (slaOf db auth clock registry ticket).bind (rule ticket)) ↔
      ∃ ticket ∈ openTickets db auth clock, ∃ decision,
        (calculateSla ticket.ticketId auth clock registry).on db = .ok decision ∧
          rule ticket decision = some alert := by
  simp only [List.mem_filterMap,Option.bind_eq_some_iff,slaOf]
  refine exists_congr fun ticket => and_congr_right fun _ => exists_congr fun decision => ?_
  refine and_congr_left fun _ => ?_
  cases (calculateSla ticket.ticketId auth clock registry).on db <;> simp [Except.toOption]

theorem runRule_raises {alertType : AlertType} {alerts : List AlertCandidate}
    (ran : (runRule auth clock windowDays registry alertType).on db = .ok alerts) :
    alert ∈ alerts ↔ Raised db auth clock windowDays registry alertType alert := by
  cases alertType with
  | slaBreach =>
      obtain ⟨_,rfl⟩ := detectSla_ok.mp ran
      rw [mem_slaAlerts]
      constructor
      · rintro ⟨ticket,listed,decision,calculated,raises⟩
        exact .breach listed calculated raises
      · rintro (⟨listed,calculated,raises⟩ | _)
        exact ⟨_,listed,_,calculated,raises⟩
  | slaApproaching =>
      obtain ⟨_,rfl⟩ := detectSla_ok.mp ran
      rw [mem_slaAlerts]
      constructor
      · rintro ⟨ticket,listed,decision,calculated,raises⟩
        exact .approaching listed calculated raises
      · intro raised
        cases raised with
        | approaching listed calculated raises => exact ⟨_,listed,_,calculated,raises⟩
  | recurringIssue =>
      obtain ⟨cutoff,within,_,rfl⟩ := detectRecurringSeverity_ok.mp ran
      rw [List.mem_filterMap]
      constructor
      · rintro ⟨severity,high,raises⟩
        exact .recurring within high raises
      · intro raised
        cases raised with
        | recurring other high raises =>
            cases Except.ok.inj (within.symm.trans other)
            exact ⟨_,high,raises⟩
  | knownIssuePattern =>
      obtain ⟨cutoff,within,rfl⟩ := detectKnownIssuePatterns_ok.mp ran
      rw [mem_alerts]
      constructor
      · rintro ⟨issue,parsed,reports,rfl⟩
        exact .issue within parsed reports
      · intro raised
        cases raised with
        | issue other parsed reports =>
            cases Except.ok.inj (within.symm.trans other)
            exact ⟨_,parsed,reports,rfl⟩
  | carrierPattern =>
      obtain ⟨cutoff,within,rfl⟩ := detectCarrierPatterns_ok.mp ran
      rw [List.mem_filterMap]
      constructor
      · rintro ⟨⟨carrier,orders⟩,grouped,raises⟩
        obtain ⟨rfl,_⟩ := (Py.mem_grouped _ _ _ _).mp grouped
        exact .carrier within raises
      · intro raised
        cases raised with
        | @carrier carrier _ _ other raises =>
            cases Except.ok.inj (within.symm.trans other)
            refine ⟨(carrier,_),(Py.mem_grouped _ _ _ _).mpr ⟨rfl,fun none => ?_⟩,raises⟩
            have enough := (carrierAlert_facts raises).1
            rw [show carrierOrders db auth clock cutoff carrier = [] from none] at enough
            cases enough
  | overduePickup =>
      cases ran
      rw [List.mem_filterMap]
      constructor
      · rintro ⟨order,listed,raises⟩
        exact .overdue listed raises
      · intro raised
        cases raised with
        | overdue listed raises => exact ⟨_,listed,raises⟩

end Rules

-- The rules whose alerts depend on the window asked for.
def AlertType.windowed : AlertType → Bool
  | .recurringIssue | .knownIssuePattern | .carrierPattern => true
  | _ => false

-- The text that is digested into an alert's id.
def alertKey (alertType : AlertType) (timeWindow version : String) (entities : List String) : String :=
  Py.join "|" [alertType.value,timeWindow,version,Py.join "," (Py.sortedSet entities)]

def idsText (entities : List String) : String := Py.join "," (Py.sortedSet entities)

-- What an alert's id was made from, read off the alert.
def AlertCandidate.fingerprintWindow (alert : AlertCandidate) : String :=
  if alert.alertType.windowed then alert.timeWindow else "point-in-time"

def AlertCandidate.entities (alert : AlertCandidate) : List String :=
  alert.knownIssues ++ alert.representativeRecords

def AlertCandidate.fingerprintKey (alert : AlertCandidate) : String :=
  alertKey alert.alertType alert.fingerprintWindow alert.ruleVersion alert.entities

theorem alertKey_text (alertType : AlertType) (timeWindow version : String) (entities : List String) :
    alertKey alertType timeWindow version entities =
      alertType.value ++ "|" ++ (timeWindow ++ "|" ++ (version ++ "|" ++ idsText entities)) := by
  simp only [alertKey,Py.join,idsText,String.intercalate_cons_cons,String.intercalate_singleton,
    String.append_assoc]

theorem alertKey_inj {one two : AlertType} {window other version : String} {ids records : List String}
    (plain : '|' ∉ window.toList) (otherPlain : '|' ∉ other.toList) :
    alertKey one window version ids = alertKey two other version records ↔
      one = two ∧ window = other ∧ idsText ids = idsText records := by
  have named (alertType : AlertType) : '|' ∉ alertType.value.toList := by
    cases alertType <;> decide
  have apart : one.value = two.value ↔ one = two := by
    cases one <;> cases two <;> decide
  rw [alertKey_text,alertKey_text,Texts.cut (show "|".toList = ['|'] from rfl) (named one) (named two),
    Texts.cut (show "|".toList = ['|'] from rfl) plain otherPlain,String.append_right_inj,apart]

theorem windowDesc_plain (windowDays : Int) : '|' ∉ (windowDesc windowDays).toList := by
  unfold windowDesc
  rw [String.toList_append,List.mem_append,not_or]
  refine ⟨fun member => ?_,by decide⟩
  rcases Texts.int_text member with sign | digit
  · cases sign
  · cases digit

theorem idsText_congr {one two : List String} (same : ∀ id, id ∈ one ↔ id ∈ two) :
    idsText one = idsText two := by rw [idsText,idsText,Py.sortedSet_congr same]

theorem idsText_single (id : String) : idsText [id] = id := by
  simp [idsText,Py.sortedSet,Py.join]

section Fingerprints

variable [Host] {db : Db} {auth : AuthContext} {clock : SnapshotClock} {registry : Registry}
  {windowDays : Int} {alertType : AlertType} {alert : AlertCandidate}

def alertIdOf (key : String) : String := "ALERT-" ++ Py.truncate 16 (Host.sha256Hex key)

theorem computeAlertId_key (alertType : AlertType) (timeWindow version : String)
    (entities : List String) : computeAlertId alertType timeWindow version entities =
      alertIdOf (alertKey alertType timeWindow version entities) := rfl

theorem raised_type (raised : Raised db auth clock windowDays registry alertType alert) :
    alert.alertType = alertType := by
  cases raised with
  | breach listed calculated raises => exact (slaBreachAlert_facts raises).1
  | approaching listed calculated raises => exact (slaApproachingAlert_facts raises).1
  | recurring within high raises => exact (recurringAlert_facts raises).2.1
  | issue within parsed reports => rfl
  | carrier within raises => exact (carrierAlert_facts raises).2.1
  | overdue listed raises => exact (overduePickupAlert_facts raises).1

theorem raised_window (raised : Raised db auth clock windowDays registry alertType alert)
    (windowed : alertType.windowed = true) : alert.timeWindow = windowDesc windowDays := by
  cases raised with
  | breach listed calculated raises => cases windowed
  | approaching listed calculated raises => cases windowed
  | recurring within high raises => exact (recurringAlert_facts raises).2.2.2.2.1
  | issue within parsed reports => rfl
  | carrier within raises => exact (carrierAlert_facts raises).2.2.2.2.1
  | overdue listed raises => cases windowed

omit [Host] in
theorem no_knownIssues (other : alert.alertType ≠ .knownIssuePattern) : alert.knownIssues = [] := by
  unfold AlertCandidate.knownIssues
  split
  · rename_i here
    exact absurd here other
  · rfl

theorem fingerprint_id {window : String} {ids : List String} (typed : alert.alertType = alertType)
    (windowed : alert.fingerprintWindow = window) (versioned : alert.ruleVersion = ruleVersion)
    (named : alert.alertId = computeAlertId alertType window ruleVersion ids)
    (same : ∀ id, id ∈ alert.entities ↔ id ∈ ids) :
    alert.alertId = alertIdOf alert.fingerprintKey := by
  rw [named,computeAlertId_key,AlertCandidate.fingerprintKey,typed,windowed,versioned,alertKey_text,
    alertKey_text,idsText_congr same]

theorem records_fingerprint {window : String} {ids : List String}
    (typed : alert.alertType = alertType) (other : alertType ≠ .knownIssuePattern)
    (windowed : alert.fingerprintWindow = window) (versioned : alert.ruleVersion = ruleVersion)
    (named : alert.alertId = computeAlertId alertType window ruleVersion ids)
    (shown : ∀ id, id ∈ alert.representativeRecords ↔ id ∈ ids) :
    alert.alertId = alertIdOf alert.fingerprintKey := by
  refine fingerprint_id typed windowed versioned named fun id => ?_
  rw [AlertCandidate.entities,no_knownIssues (typed ▸ other),List.nil_append]
  exact shown id

theorem raised_id (raised : Raised db auth clock windowDays registry alertType alert) :
    alert.alertId = alertIdOf alert.fingerprintKey := by
  have typed := raised_type raised
  cases raised with
  | breach listed calculated raises =>
      obtain ⟨_,named,versioned,records⟩ := slaBreachAlert_facts raises
      refine records_fingerprint typed (by decide) ?_ versioned named fun id => ?_
      · rw [AlertCandidate.fingerprintWindow,typed]
        rfl
      · rw [records]
  | approaching listed calculated raises =>
      obtain ⟨_,named,versioned,records⟩ := slaApproachingAlert_facts raises
      refine records_fingerprint typed (by decide) ?_ versioned named fun id => ?_
      · rw [AlertCandidate.fingerprintWindow,typed]
        rfl
      · rw [records]
  | recurring within high raises =>
      obtain ⟨_,_,named,versioned,windowed,records,_⟩ := recurringAlert_facts raises
      refine records_fingerprint typed (by decide) ?_ versioned named fun id => ?_
      · rw [AlertCandidate.fingerprintWindow,typed,windowed]
        rfl
      · rw [records,Py.mem_sorted]
  | @issue entry cutoff within parsed reports =>
      refine fingerprint_id rfl rfl rfl (show _ = computeAlertId _ _ _ (entry.kiId :: _) from rfl)
        fun id => ?_
      rw [AlertCandidate.entities,issueAlert_knownIssues]
      change id ∈ [entry.kiId] ++ Py.sorted _ ↔ _
      rw [List.mem_append,Py.mem_sorted,List.mem_singleton,List.mem_cons]
  | carrier within raises =>
      obtain ⟨_,_,named,versioned,windowed,records,_⟩ := carrierAlert_facts raises
      refine records_fingerprint typed (by decide) ?_ versioned named fun id => ?_
      · rw [AlertCandidate.fingerprintWindow,typed,windowed]
        rfl
      · rw [records,Py.mem_sorted]
  | overdue listed raises =>
      obtain ⟨_,named,versioned,records⟩ := overduePickupAlert_facts raises
      refine records_fingerprint typed (by decide) ?_ versioned named fun id => ?_
      · rw [AlertCandidate.fingerprintWindow,typed]
        rfl
      · rw [records]

theorem raised_version (raised : Raised db auth clock windowDays registry alertType alert) :
    alert.ruleVersion = ruleVersion := by
  cases raised with
  | breach listed calculated raises => exact (slaBreachAlert_facts raises).2.2.1
  | approaching listed calculated raises => exact (slaApproachingAlert_facts raises).2.2.1
  | recurring within high raises => exact (recurringAlert_facts raises).2.2.2.1
  | issue within parsed reports => rfl
  | carrier within raises => exact (carrierAlert_facts raises).2.2.2.1
  | overdue listed raises => exact (overduePickupAlert_facts raises).2.2.1

theorem raised_fingerprintWindow (raised : Raised db auth clock windowDays registry alertType alert) :
    alert.fingerprintWindow = if alertType.windowed then windowDesc windowDays else "point-in-time" := by
  unfold AlertCandidate.fingerprintWindow
  rw [raised_type raised]
  split
  · rename_i windowed
    exact raised_window raised windowed
  · rfl

theorem raised_same_key {otherDays : Int} {otherType : AlertType} {other : AlertCandidate}
    (one : Raised db auth clock windowDays registry alertType alert)
    (two : Raised db auth clock otherDays registry otherType other)
    (same : alert.fingerprintKey = other.fingerprintKey) :
    alertType = otherType ∧ alert.fingerprintWindow = other.fingerprintWindow ∧
      idsText alert.entities = idsText other.entities := by
  have plain (days : Int) (windowed : Bool) :
      '|' ∉ (if windowed then windowDesc days else "point-in-time").toList := by
    cases windowed
    · exact show '|' ∉ "point-in-time".toList by decide
    · exact windowDesc_plain days
  unfold AlertCandidate.fingerprintKey at same
  rw [raised_version one,raised_version two] at same
  have parts := (alertKey_inj (by rw [raised_fingerprintWindow one]; exact plain _ _)
    (by rw [raised_fingerprintWindow two]; exact plain _ _)).mp same
  rwa [raised_type one,raised_type two] at parts

omit [Host] in
theorem entities_single {id : String} (other : alert.alertType ≠ .knownIssuePattern)
    (records : alert.representativeRecords = [id]) : idsText alert.entities = id := by
  rw [AlertCandidate.entities,no_knownIssues other,records,List.nil_append,idsText_single]

omit [Host] in
theorem entities_group {ids : List String} (other : alert.alertType ≠ .knownIssuePattern)
    (records : alert.representativeRecords = Py.sorted ids) :
    idsText alert.entities = idsText ids := by
  rw [AlertCandidate.entities,no_knownIssues other,records,List.nil_append]
  exact idsText_congr fun id => Py.mem_sorted

theorem entities_issue (minOccurrences : Int) (tickets : List Ticket) (issue : KnownIssue) :
    idsText (issueAlert db minOccurrences windowDays tickets issue).entities =
      idsText (issue.kiId :: (matchingTickets tickets issue).map (·.ticketId)) := by
  rw [AlertCandidate.entities,issueAlert_knownIssues]
  apply idsText_congr
  intro id
  change id ∈ [issue.kiId] ++ Py.sorted _ ↔ _
  rw [List.mem_append,Py.mem_sorted,List.mem_singleton,List.mem_cons]

end Fingerprints

end ParcelPilot
