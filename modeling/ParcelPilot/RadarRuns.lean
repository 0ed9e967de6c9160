import ParcelPilot.RadarAlerts

namespace ParcelPilot

section Ranking

theorem alertBefore_total (one two : AlertCandidate) : alertBefore one two ∨ alertBefore two one := by
  unfold alertBefore
  rcases Nat.lt_trichotomy (severityRank one.severity) (severityRank two.severity) with
    less | same | more
  · exact .inl (.inl less)
  · rcases le_total one.alertId two.alertId with first | second
    · exact .inl (.inr ⟨same,first⟩)
    · exact .inr (.inr ⟨same.symm,second⟩)
  · exact .inr (.inl more)

theorem alertBefore_trans {one two three : AlertCandidate} (first : alertBefore one two)
    (second : alertBefore two three) : alertBefore one three := by
  rcases first with less | ⟨same,before⟩
  · rcases second with also | ⟨then_,_⟩
    · exact .inl (Nat.lt_trans less also)
    · exact .inl (then_ ▸ less)
  · rcases second with less | ⟨then_,after⟩
    · exact .inl (same ▸ less)
    · exact .inr ⟨same.trans then_,le_trans before after⟩

theorem ranking_sorted (alerts : List AlertCandidate) : (ranking alerts).Pairwise alertBefore := by
  have : Std.Total alertBefore := ⟨alertBefore_total⟩
  have : IsTrans AlertCandidate alertBefore := ⟨fun _ _ _ => alertBefore_trans⟩
  exact List.pairwise_insertionSort alertBefore _

theorem mem_ranking {alerts : List AlertCandidate} {alert : AlertCandidate} :
    alert ∈ ranking alerts ↔
      (alerts.filter (·.alertId = alert.alertId)).getLast? = some alert := by
  change alert ∈ List.insertionSort alertBefore ((Py.keyed (·.alertId) alerts).map (·.2)) ↔ _
  rw [List.mem_insertionSort,List.mem_map]
  constructor
  · rintro ⟨⟨id,found⟩,entry,rfl⟩
    obtain ⟨_,rfl⟩ := Py.keyed_key entry
    exact (Py.mem_keyed _ _ _ _).mp entry
  · intro last
    exact ⟨(alert.alertId,alert),(Py.mem_keyed _ _ _ _).mpr last,rfl⟩

theorem ranking_nodup (alerts : List AlertCandidate) : ((ranking alerts).map (·.alertId)).Nodup := by
  have ids : (Py.keyed (·.alertId) alerts).map (·.2.alertId) =
      (Py.keyed (·.alertId) alerts).map (·.1) := by
    refine List.map_congr_left fun entry member => ?_
    exact (Py.keyed_key (show (entry.1,entry.2) ∈ _ from member)).2
  have distinct := Py.keyed_nodup (fun alert : AlertCandidate => alert.alertId) alerts
  rw [← ids] at distinct
  have permuted := (List.perm_insertionSort alertBefore
    ((Py.keyed (·.alertId) alerts).map (·.2))).map (·.alertId)
  rw [List.map_map] at permuted
  exact permuted.nodup_iff.mpr distinct

theorem ranking_found {alerts : List AlertCandidate} {alert : AlertCandidate}
    (listed : alert ∈ ranking alerts) : alert ∈ alerts :=
  (List.mem_filter.mp (List.mem_of_getLast? (mem_ranking.mp listed))).1

theorem ranking_covers {alerts : List AlertCandidate} {alert : AlertCandidate}
    (found : alert ∈ alerts) : ∃ listed ∈ ranking alerts, listed.alertId = alert.alertId := by
  have nonempty : alerts.filter (·.alertId = alert.alertId) ≠ [] :=
    List.ne_nil_of_mem (List.mem_filter.mpr ⟨found,by simp⟩)
  have last := List.getLast?_eq_some_getLast nonempty
  have same := (List.mem_filter.mp (List.getLast_mem nonempty)).2
  rw [decide_eq_true_eq] at same
  exact ⟨_,mem_ranking.mpr (by rw [same]; exact last),same⟩

end Ranking

section Radar

variable [Host] {db : Db} {auth : AuthContext} {clock : SnapshotClock} {registry : Registry}
  {alertTypes : Option (List AlertType)} {windowDays : Int}

-- `alert_types or list(_ALL_RULES)`
def requestedTypes (alertTypes : Option (List AlertType)) : List AlertType :=
  match alertTypes.getD [] with
  | [] => allRules
  | types => types

def ruleAlerts (db : Db) (auth : AuthContext) (clock : SnapshotClock) (windowDays : Int)
    (registry : Registry) (alertType : AlertType) : List AlertCandidate :=
  ((runRule auth clock windowDays registry alertType).on db).toOption.getD []

theorem ruleAlerts_of {alertType : AlertType} {alerts : List AlertCandidate}
    (ran : (runRule auth clock windowDays registry alertType).on db = .ok alerts) :
    ruleAlerts db auth clock windowDays registry alertType = alerts := by
  rw [ruleAlerts,ran]
  rfl

theorem rules_flatten {types : List AlertType}
    (each : ∀ alertType ∈ types, ∃ alerts,
      (runRule auth clock windowDays registry alertType).on db = .ok alerts) :
    (types.filterMap fun alertType => ((runRule auth clock windowDays registry alertType).on
      db).toOption.bind some).flatten = types.flatMap (ruleAlerts db auth clock windowDays registry) := by
  induction types with
  | nil => rfl
  | cons first rest ih =>
      rw [List.forall_mem_cons] at each
      obtain ⟨⟨alerts,ran⟩,others⟩ := each
      rw [List.flatMap_cons,ruleAlerts_of ran,← ih others]
      simp [ran,Except.toOption]

theorem runOperationsRadar_ok :
    (runOperationsRadar auth clock alertTypes windowDays registry).on db = .ok returned ↔
      auth.role ≠ .restrictedSupport ∧
        (∀ alertType ∈ requestedTypes alertTypes, ∃ alerts,
          (runRule auth clock windowDays registry alertType).on db = .ok alerts) ∧
        returned = ranking ((requestedTypes alertTypes).flatMap
          (ruleAlerts db auth clock windowDays registry)) := by
  unfold runOperationsRadar
  split
  · rename_i restricted
    simp [restricted]
  · rename_i allowed
    constructor
    · intro ran
      obtain ⟨found,looked,ran⟩ := on_bind_ok.mp ran
      cases ran
      obtain ⟨each,rfl⟩ := on_collect_asking.mp looked
      exact ⟨allowed,each,by rw [rules_flatten each]; rfl⟩
    · rintro ⟨_,each,rfl⟩
      refine on_bind_ok.mpr ⟨_,on_collect_asking.mpr ⟨each,rfl⟩,?_⟩
      rw [← rules_flatten each]
      rfl

theorem one_rule_ran {alertType : AlertType} {alerts : List AlertCandidate}
    (allowed : auth.role ≠ .restrictedSupport)
    (ran : (runRule auth clock windowDays registry alertType).on db = .ok alerts) :
    (runOperationsRadar auth clock (some [alertType]) windowDays registry).on db =
      .ok (ranking alerts) := by
  refine runOperationsRadar_ok.mpr ⟨allowed,?_,?_⟩
  · intro other requested
    cases List.mem_singleton.mp requested
    exact ⟨alerts,ran⟩
  · change _ = ranking (List.flatMap _ [alertType])
    rw [List.flatMap_singleton,ruleAlerts_of ran]

-- An alert that some rule of the run produces.
def RuleProduced (db : Db) (auth : AuthContext) (clock : SnapshotClock)
    (alertTypes : Option (List AlertType)) (windowDays : Int) (registry : Registry)
    (alert : AlertCandidate) : Prop :=
  ∃ alertType ∈ requestedTypes alertTypes,
    alert ∈ ruleAlerts db auth clock windowDays registry alertType

theorem ruleAlerts_raised
    (ran : (runOperationsRadar auth clock alertTypes windowDays registry).on db = .ok returned)
    {alertType : AlertType} (requested : alertType ∈ requestedTypes alertTypes)
    (alert : AlertCandidate) : alert ∈ ruleAlerts db auth clock windowDays registry alertType ↔
      Raised db auth clock windowDays registry alertType alert := by
  obtain ⟨_,each,_⟩ := runOperationsRadar_ok.mp ran
  obtain ⟨alerts,rule⟩ := each alertType requested
  rw [ruleAlerts_of rule]
  exact runRule_raises rule

theorem produced_raised
    (ran : (runOperationsRadar auth clock alertTypes windowDays registry).on db = .ok returned)
    (alert : AlertCandidate) :
    RuleProduced db auth clock alertTypes windowDays registry alert ↔
      ∃ alertType ∈ requestedTypes alertTypes,
        Raised db auth clock windowDays registry alertType alert :=
  exists_congr fun _ => and_congr_right fun requested => ruleAlerts_raised ran requested alert

theorem returned_produced
    (ran : (runOperationsRadar auth clock alertTypes windowDays registry).on db = .ok returned)
    (listed : alert ∈ returned) : RuleProduced db auth clock alertTypes windowDays registry alert := by
  obtain ⟨_,_,rfl⟩ := runOperationsRadar_ok.mp ran
  obtain ⟨alertType,requested,member⟩ := List.mem_flatMap.mp (ranking_found listed)
  exact ⟨alertType,requested,member⟩

-- Nothing is lost between the rules and the list.
structure RadarLossless (produced : AlertCandidate → Prop) (returned : List AlertCandidate) : Prop where
  separate : ∀ one two, produced one → produced two → one.alertId = two.alertId → one = two
  complete : ∀ alert, produced alert → alert ∈ returned
  distinct : (returned.map (·.alertId)).Nodup
  sorted : returned.Pairwise alertBefore
  once : ∀ kiId, ∀ one ∈ returned, ∀ two ∈ returned,
    kiId ∈ one.knownIssues → kiId ∈ two.knownIssues → one = two

-- Different keys have different digests, as far as the run goes.
def DistinctDigests (produced : AlertCandidate → Prop) : Prop :=
  ∀ one two, produced one → produced two →
    alertIdOf one.fingerprintKey = alertIdOf two.fingerprintKey →
      one.fingerprintKey = two.fingerprintKey

-- What the records have to be like: two groups never read the same once their
-- ids are sorted and joined, and an issue that is mentioned twice is mentioned
-- with the same symptoms at the same place.
structure GroupsSeparate (db : Db) (auth : AuthContext) (clock : SnapshotClock)
    (alertTypes : Option (List AlertType)) (windowDays : Int) (registry : Registry) : Prop where
  severities : .recurringIssue ∈ requestedTypes alertTypes →
    ∀ cutoff, clock.now.minusDays windowDays = .ok cutoff →
      defaultRecurringSeverityThreshold ≤ (recurringTickets db auth clock registry cutoff .p1).length →
      defaultRecurringSeverityThreshold ≤ (recurringTickets db auth clock registry cutoff .p2).length →
        idsText ((recurringTickets db auth clock registry cutoff .p1).map (·.ticketId)) ≠
          idsText ((recurringTickets db auth clock registry cutoff .p2).map (·.ticketId))
  carriers : .carrierPattern ∈ requestedTypes alertTypes →
    ∀ cutoff, clock.now.minusDays windowDays = .ok cutoff → ∀ one two,
      defaultCarrierFaultThreshold ≤ (carrierOrders db auth clock cutoff one).length →
      defaultCarrierFaultThreshold ≤ (carrierOrders db auth clock cutoff two).length →
        idsText ((carrierOrders db auth clock cutoff one).map (·.orderId)) =
          idsText ((carrierOrders db auth clock cutoff two).map (·.orderId)) → one = two
  issues : .knownIssuePattern ∈ requestedTypes alertTypes →
    ∀ cutoff, clock.now.minusDays windowDays = .ok cutoff →
      ∀ one ∈ knownIssues db, ∀ two ∈ knownIssues db,
        reported defaultKnownIssueMinOccurrences (recentTickets db auth clock cutoff) one = true →
        reported defaultKnownIssueMinOccurrences (recentTickets db auth clock cutoff) two = true →
        (one.kiId = two.kiId ∨
          idsText (one.kiId :: (matchingTickets (recentTickets db auth clock cutoff) one).map
              (·.ticketId)) =
            idsText (two.kiId :: (matchingTickets (recentTickets db auth clock cutoff) two).map
              (·.ticketId))) →
        one.kiId = two.kiId ∧
          matchingTickets (recentTickets db auth clock cutoff) one =
            matchingTickets (recentTickets db auth clock cutoff) two ∧
          documentRef db one.sourceId one.section_ = documentRef db two.sourceId two.section_

omit [Host] in
theorem openTickets_unique {one two : Ticket} (first : one ∈ openTickets db auth clock)
    (second : two ∈ openTickets db auth clock) (same : one.ticketId = two.ticketId) : one = two := by
  obtain ⟨here,listed,rfl⟩ := List.mem_map.mp first
  obtain ⟨there,also,rfl⟩ := List.mem_map.mp second
  rw [db.tickets.same_row (Table.mem_listing.mp listed).1 (Table.mem_listing.mp also).1 same]

omit [Host] in
theorem bookedOrders_unique {one two : Order} (first : one ∈ bookedOrders db auth clock)
    (second : two ∈ bookedOrders db auth clock) (same : one.orderId = two.orderId) : one = two := by
  obtain ⟨here,listed,rfl⟩ := List.mem_map.mp first
  obtain ⟨there,also,rfl⟩ := List.mem_map.mp second
  rw [db.orders.same_row (Table.mem_listing.mp listed).1 (Table.mem_listing.mp also).1 same]

theorem raised_same (groups : GroupsSeparate db auth clock alertTypes windowDays registry)
    {alertType : AlertType} {one two : AlertCandidate}
    (requested : alertType ∈ requestedTypes alertTypes)
    (first : Raised db auth clock windowDays registry alertType one)
    (second : Raised db auth clock windowDays registry alertType two)
    (same : idsText one.entities = idsText two.entities) : one = two := by
  cases first with
  | breach listed calculated raises =>
      cases second with
      | breach also again returns =>
          obtain ⟨typed,_,_,records⟩ := slaBreachAlert_facts raises
          obtain ⟨other,_,_,others⟩ := slaBreachAlert_facts returns
          rw [entities_single (by simp [typed]) records,entities_single (by simp [other]) others] at same
          cases openTickets_unique listed also same
          cases Except.ok.inj (calculated.symm.trans again)
          exact Option.some.inj (raises.symm.trans returns)
  | approaching listed calculated raises =>
      cases second with
      | approaching also again returns =>
          obtain ⟨typed,_,_,records⟩ := slaApproachingAlert_facts raises
          obtain ⟨other,_,_,others⟩ := slaApproachingAlert_facts returns
          rw [entities_single (by simp [typed]) records,entities_single (by simp [other]) others] at same
          cases openTickets_unique listed also same
          cases Except.ok.inj (calculated.symm.trans again)
          exact Option.some.inj (raises.symm.trans returns)
  | @recurring one_severity cutoff _ within high raises =>
      cases second with
      | @recurring two_severity _ _ also again returns =>
          cases Except.ok.inj (within.symm.trans also)
          obtain ⟨enough,typed,_,_,_,records,_⟩ := recurringAlert_facts raises
          obtain ⟨plenty,other,_,_,_,others,_⟩ := recurringAlert_facts returns
          rw [entities_group (by simp [typed]) records,entities_group (by simp [other]) others] at same
          have apart := groups.severities requested cutoff within
          rcases List.mem_pair.mp high with rfl | rfl <;> rcases List.mem_pair.mp again with rfl | rfl
          · exact Option.some.inj (raises.symm.trans returns)
          · exact absurd same (apart enough plenty)
          · exact absurd same.symm (apart plenty enough)
          · exact Option.some.inj (raises.symm.trans returns)
  | @issue entry cutoff within parsed reports =>
      cases second with
      | @issue other _ also again returns =>
          cases Except.ok.inj (within.symm.trans also)
          rw [entities_issue,entities_issue] at same
          obtain ⟨named,tickets,cited⟩ := groups.issues requested cutoff within entry parsed other again
            reports returns (.inr same)
          simp only [issueAlert,knownIssueAlert,named,tickets,cited]
  | @carrier carrier cutoff _ within raises =>
      cases second with
      | @carrier other _ _ also returns =>
          cases Except.ok.inj (within.symm.trans also)
          obtain ⟨enough,typed,_,_,_,records,_⟩ := carrierAlert_facts raises
          obtain ⟨plenty,otherTyped,_,_,_,others,_⟩ := carrierAlert_facts returns
          rw [entities_group (by simp [typed]) records,
            entities_group (by simp [otherTyped]) others] at same
          cases groups.carriers requested cutoff within carrier other enough plenty same
          exact Option.some.inj (raises.symm.trans returns)
  | overdue listed raises =>
      cases second with
      | overdue also returns =>
          obtain ⟨typed,_,_,records⟩ := overduePickupAlert_facts raises
          obtain ⟨other,_,_,others⟩ := overduePickupAlert_facts returns
          rw [entities_single (by simp [typed]) records,entities_single (by simp [other]) others] at same
          cases bookedOrders_unique listed also same
          exact Option.some.inj (raises.symm.trans returns)

theorem raised_about {alertType : AlertType} {kiId : String}
    (raised : Raised db auth clock windowDays registry alertType alert)
    (about : kiId ∈ alert.knownIssues) :
    alertType = .knownIssuePattern ∧ ∃ cutoff, clock.now.minusDays windowDays = .ok cutoff ∧
      ∃ issue ∈ knownIssues db,
        reported defaultKnownIssueMinOccurrences (recentTickets db auth clock cutoff) issue = true ∧
        issue.kiId = kiId ∧ alert = issueAlert db defaultKnownIssueMinOccurrences windowDays
          (recentTickets db auth clock cutoff) issue := by
  have typed : alertType = .knownIssuePattern := by
    by_contra other
    rw [← raised_type raised] at other
    rw [no_knownIssues other] at about
    cases about
  subst typed
  cases raised with
  | @issue issue cutoff within parsed reports =>
      rw [issueAlert_knownIssues,List.mem_singleton] at about
      exact ⟨rfl,cutoff,within,issue,parsed,reports,about.symm,rfl⟩

theorem lossless_of_groups
    (ran : (runOperationsRadar auth clock alertTypes windowDays registry).on db = .ok returned)
    (digests : DistinctDigests (RuleProduced db auth clock alertTypes windowDays registry))
    (groups : GroupsSeparate db auth clock alertTypes windowDays registry) :
    RadarLossless (RuleProduced db auth clock alertTypes windowDays registry) returned := by
  have separate (one two : AlertCandidate)
      (first : RuleProduced db auth clock alertTypes windowDays registry one)
      (second : RuleProduced db auth clock alertTypes windowDays registry two)
      (same : one.alertId = two.alertId) : one = two := by
    obtain ⟨here,requested,raised⟩ := (produced_raised ran one).mp first
    obtain ⟨there,_,returns⟩ := (produced_raised ran two).mp second
    rw [raised_id raised,raised_id returns] at same
    obtain ⟨rfl,_,ids⟩ := raised_same_key raised returns (digests one two first second same)
    exact raised_same groups requested raised returns ids
  refine ⟨separate,fun alert produced => ?_,?_,?_,?_⟩
  · obtain ⟨_,_,rfl⟩ := runOperationsRadar_ok.mp ran
    obtain ⟨listed,member,same⟩ := ranking_covers (List.mem_flatMap.mpr produced)
    rwa [← separate listed alert (returned_produced ran member) produced same]
  · obtain ⟨_,_,rfl⟩ := runOperationsRadar_ok.mp ran
    exact ranking_nodup _
  · obtain ⟨_,_,rfl⟩ := runOperationsRadar_ok.mp ran
    exact ranking_sorted _
  · intro kiId one first two second about also
    obtain ⟨_,requested,raised⟩ := (produced_raised ran one).mp (returned_produced ran first)
    obtain ⟨_,_,returns⟩ := (produced_raised ran two).mp (returned_produced ran second)
    obtain ⟨rfl,cutoff,within,entry,parsed,reports,rfl,rfl⟩ := raised_about raised about
    obtain ⟨rfl,_,again,other,found,shown,named,rfl⟩ := raised_about returns also
    cases Except.ok.inj (within.symm.trans again)
    obtain ⟨_,tickets,cited⟩ := groups.issues requested cutoff within entry parsed other found reports
      shown (.inl named.symm)
    simp only [issueAlert,knownIssueAlert,named,tickets,cited]

theorem computeAlertId_congr {alertType : AlertType} {timeWindow version : String}
    {one two : List String} (same : idsText one = idsText two) :
    computeAlertId alertType timeWindow version one = computeAlertId alertType timeWindow version two := by
  rw [computeAlertId_key,computeAlertId_key,alertKey_text,alertKey_text,same]

theorem matching_of_ids {cutoff : DateTime} (issue : KnownIssue) :
    matchingTickets (recentTickets db auth clock cutoff) issue =
      (recentTickets db auth clock cutoff).filter fun ticket => ticket.ticketId ∈
        (matchingTickets (recentTickets db auth clock cutoff) issue).map (·.ticketId) := by
  refine List.filter_congr fun ticket recent => ?_
  rw [decide_eq_decide,List.mem_map]
  constructor
  · intro matched
    exact ⟨ticket,List.mem_filter.mpr ⟨recent,decide_eq_true matched⟩,rfl⟩
  · rintro ⟨other,found,same⟩
    obtain ⟨also,matched⟩ := List.mem_filter.mp found
    obtain ⟨here,listed,rfl⟩ := List.mem_map.mp (List.mem_filter.mp recent).1
    obtain ⟨there,stored,rfl⟩ := List.mem_map.mp (List.mem_filter.mp also).1
    rw [db.tickets.same_row (Table.mem_listing.mp listed).1 (Table.mem_listing.mp stored).1 same.symm]
    exact of_decide_eq_true matched

theorem recurringAlert_enough (windowDays : Int) (severity : Severity) {threshold : Int}
    {tickets : List Ticket} (enough : threshold ≤ tickets.length) :
    ∃ alert, recurringAlert threshold windowDays severity tickets = some alert := by
  simp [recurringAlert,Int.not_lt.mpr enough]

theorem carrierAlert_enough (windowDays : Int) (carrier : String) {threshold : Int}
    {orders : List Order} (enough : threshold ≤ orders.length) :
    ∃ alert, carrierAlert threshold windowDays carrier orders = some alert := by
  simp [carrierAlert,Int.not_lt.mpr enough]

theorem groups_of_lossless
    (ran : (runOperationsRadar auth clock alertTypes windowDays registry).on db = .ok returned)
    (lossless : RadarLossless (RuleProduced db auth clock alertTypes windowDays registry) returned) :
    GroupsSeparate db auth clock alertTypes windowDays registry := by
  have produces {alertType : AlertType} {alert : AlertCandidate}
      (requested : alertType ∈ requestedTypes alertTypes)
      (raised : Raised db auth clock windowDays registry alertType alert) :
      RuleProduced db auth clock alertTypes windowDays registry alert :=
    (produced_raised ran alert).mpr ⟨alertType,requested,raised⟩
  refine ⟨fun requested cutoff within enough plenty same => ?_,
    fun requested cutoff within one two enough plenty same => ?_,
    fun requested cutoff within one parsed two found reports shown same => ?_⟩
  · obtain ⟨first,raises⟩ := recurringAlert_enough windowDays .p1 enough
    obtain ⟨second,returns⟩ := recurringAlert_enough windowDays .p2 plenty
    obtain ⟨_,_,named,_,_,_,high⟩ := recurringAlert_facts raises
    obtain ⟨_,_,also,_,_,_,medium⟩ := recurringAlert_facts returns
    have equal := lossless.separate first second (produces requested (.recurring within (by simp) raises))
      (produces requested (.recurring within (by simp) returns))
      (by rw [named,also,computeAlertId_congr same])
    rw [equal,medium] at high
    cases high
  · obtain ⟨first,raises⟩ := carrierAlert_enough windowDays one enough
    obtain ⟨second,returns⟩ := carrierAlert_enough windowDays two plenty
    obtain ⟨_,_,named,_,_,_,title⟩ := carrierAlert_facts raises
    obtain ⟨_,_,also,_,_,_,other⟩ := carrierAlert_facts returns
    have equal := lossless.separate first second (produces requested (.carrier within raises))
      (produces requested (.carrier within returns)) (by rw [named,also,computeAlertId_congr same])
    rw [equal,other] at title
    exact ((String.append_right_inj _).mp title).symm
  · have first := produces requested (.issue within parsed reports)
    have second := produces requested (.issue within found shown)
    have equal : issueAlert db defaultKnownIssueMinOccurrences windowDays
        (recentTickets db auth clock cutoff) one = issueAlert db defaultKnownIssueMinOccurrences
          windowDays (recentTickets db auth clock cutoff) two := by
      rcases same with named | ids
      · refine lossless.once one.kiId _ (lossless.complete _ first) _ (lossless.complete _ second) ?_ ?_
        · rw [issueAlert_knownIssues]
          exact List.mem_singleton_self _
        · rw [issueAlert_knownIssues,named]
          exact List.mem_singleton_self _
      · exact lossless.separate _ _ first second (computeAlertId_congr ids)
    have about := congrArg AlertCandidate.knownIssues equal
    rw [issueAlert_knownIssues,issueAlert_knownIssues] at about
    have records : Py.sorted ((matchingTickets _ one).map (·.ticketId)) =
        Py.sorted ((matchingTickets _ two).map (·.ticketId)) :=
      congrArg AlertCandidate.representativeRecords equal
    have cited := congrArg (fun alert => alert.evidence.filter (·.kind = .document)) equal
    simp only [issueAlert_documents] at cited
    refine ⟨List.singleton_inj.mp about,?_,?_⟩
    · rw [matching_of_ids one,matching_of_ids two]
      refine List.filter_congr fun ticket _ => ?_
      rw [decide_eq_decide,← Py.mem_sorted,records,Py.mem_sorted]
    · exact congrArg (fun ref => {ref with note := none}) (List.singleton_inj.mp cited)

-- Deduplication by id loses nothing exactly when the records the rules group
-- are apart: of two groups that read the same one alert is dropped, and an
-- issue mentioned with other symptoms elsewhere is reported twice.
theorem radar_lossless_iff
    (ran : (runOperationsRadar auth clock alertTypes windowDays registry).on db = .ok returned)
    (digests : DistinctDigests (RuleProduced db auth clock alertTypes windowDays registry)) :
    RadarLossless (RuleProduced db auth clock alertTypes windowDays registry) returned ↔
      GroupsSeparate db auth clock alertTypes windowDays registry :=
  ⟨groups_of_lossless ran,lossless_of_groups ran digests⟩

end Radar

-- A guide that comes back to an issue in a later section.
def webhookTicket : TicketRow :=
  ⟨"TKT-901","ACCT-001",.epoch,.open_,"Refund webhook","","chat","",.epoch,none⟩

def repeatedGuide : Db := {Db.empty with
  documentChunks := [guideChunk "2" "KI-208 label printing" none,
    guideChunk "5" "KI-208 refund webhook" none]
  tickets := ⟨[labelTicket,webhookTicket],by decide⟩}

@[reducible] def repeatedHost : Host := asciiHost [
  ("known_issue_pattern|30d|v1|KI-208,TKT-900","24cbaad4aaacdbf7"),
  ("known_issue_pattern|30d|v1|KI-208,TKT-901","e4a5525c71160f55")] []

def everyAccount : AuthContext := ⟨.operationsAdmin,none⟩

def firstMention : KnownIssue := ⟨"KI-208","SRC-04",some "2",false,["label","printing"]⟩
def secondMention : KnownIssue := ⟨"KI-208","SRC-04",some "5",false,["refund","webhook"]⟩

def mentionAlert [Host] (mention : KnownIssue) : AlertCandidate :=
  issueAlert repeatedGuide 1 30 (recentTickets repeatedGuide everyAccount ⟨.epoch⟩ monthBefore) mention

theorem repeated_rule : let _ := repeatedHost
    (runRule everyAccount ⟨.epoch⟩ 30 {} .knownIssuePattern).on repeatedGuide =
      .ok [mentionAlert firstMention,mentionAlert secondMention] := by
  intro _
  have entries : (knownIssues repeatedGuide).filter (reported 1 (recentTickets repeatedGuide
      everyAccount ⟨.epoch⟩ monthBefore)) = [firstMention,secondMention] := by decide +kernel
  have ran := @detectKnownIssuePatterns_on repeatedHost repeatedGuide everyAccount ⟨.epoch⟩ 1 30
    monthBefore rfl
  rw [entries] at ran
  exact ran

theorem repeated_ran : let _ := repeatedHost
    (runOperationsRadar everyAccount ⟨.epoch⟩ (some [.knownIssuePattern]) 30 {}).on repeatedGuide =
      .ok (ranking [mentionAlert firstMention,mentionAlert secondMention]) := by
  intro _
  exact one_rule_ran (by decide) repeated_rule

theorem repeated_digests : let _ := repeatedHost
    DistinctDigests (RuleProduced repeatedGuide everyAccount ⟨.epoch⟩ (some [.knownIssuePattern]) 30 {}) := by
  intro _ one two first second same
  have mention (alert : AlertCandidate) (produced : RuleProduced repeatedGuide everyAccount ⟨.epoch⟩
      (some [.knownIssuePattern]) 30 {} alert) :
      alert = mentionAlert firstMention ∨ alert = mentionAlert secondMention := by
    obtain ⟨alertType,requested,member⟩ := produced
    cases List.mem_singleton.mp requested
    rw [ruleAlerts_of repeated_rule] at member
    simpa using member
  have apart : alertIdOf (mentionAlert firstMention).fingerprintKey ≠
      alertIdOf (mentionAlert secondMention).fingerprintKey := by decide +kernel
  rcases mention one first with rfl | rfl <;> rcases mention two second with rfl | rfl
  · rfl
  · exact absurd same apart
  · exact absurd same.symm apart
  · rfl

theorem radar_lossless_repeated : let _ := repeatedHost
    RadarLossless (RuleProduced repeatedGuide everyAccount ⟨.epoch⟩ (some [.knownIssuePattern]) 30 {})
        (ranking [mentionAlert firstMention,mentionAlert secondMention]) ↔
      GroupsSeparate repeatedGuide everyAccount ⟨.epoch⟩ (some [.knownIssuePattern]) 30 {} := by
  intro _
  exact radar_lossless_iff repeated_ran repeated_digests

theorem repeated_mention_reported_twice : let _ := repeatedHost
    ∃ returned, (runOperationsRadar everyAccount ⟨.epoch⟩ (some [.knownIssuePattern]) 30 {}).on
        repeatedGuide = .ok returned ∧
      DistinctDigests (RuleProduced repeatedGuide everyAccount ⟨.epoch⟩ (some [.knownIssuePattern]) 30 {}) ∧
      ¬ RadarLossless (RuleProduced repeatedGuide everyAccount ⟨.epoch⟩ (some [.knownIssuePattern]) 30 {})
        returned := by
  intro _
  refine ⟨_,repeated_ran,repeated_digests,fun lossless => ?_⟩
  have produced (mention : KnownIssue) (one : mention ∈ [firstMention,secondMention]) :
      mentionAlert mention ∈ ranking [mentionAlert firstMention,mentionAlert secondMention] := by
    refine lossless.complete _ ⟨_,List.mem_singleton_self _,?_⟩
    rw [ruleAlerts_of repeated_rule]
    exact List.mem_map_of_mem one
  have same := lossless.once "KI-208" _ (produced firstMention (by simp)) _
    (produced secondMention (by simp)) (by rw [mentionAlert,issueAlert_knownIssues]; simp [firstMention])
    (by rw [mentionAlert,issueAlert_knownIssues]; simp [secondMention])
  exact absurd (congrArg AlertCandidate.representativeRecords same) (by decide +kernel)

end ParcelPilot
