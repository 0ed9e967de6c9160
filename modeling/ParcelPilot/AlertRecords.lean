import ParcelPilot.OverduePickups
import ParcelPilot.RadarRuns

namespace ParcelPilot

-- The six rules, each with the parameters of its own.
inductive RuleCall where
  | slaBreaches
  | slaApproaching (warningRatio : Rat)
  | recurringSeverity (threshold windowDays : Int)
  | knownIssuePatterns (minOccurrences windowDays : Int)
  | carrierPatterns (threshold windowDays : Int)
  | overduePickups

def AlertType.table : AlertType → String
  | .carrierPattern | .overduePickup => "orders"
  | _ => "tickets"

def Db.owner (db : Db) (table recordId : String) : Option String :=
  if table = "orders" then (db.orders.row recordId).map (·.accountId)
  else (db.tickets.row recordId).map (·.accountId)

structure AlertConsistent (db : Db) (auth : AuthContext) (alert : AlertCandidate) : Prop where
  counted : alert.observedCount = alert.representativeRecords.length
  reached : alert.threshold ≤ alert.observedCount
  distinct : alert.representativeRecords.Nodup
  visible : ∀ recordId ∈ alert.representativeRecords, ∃ accountId,
    db.owner alert.alertType.table recordId = some accountId ∧ auth.allowsAccount accountId = true
  ascending : alert.affectedAccounts.Pairwise (· < ·)
  owners : ∀ accountId, accountId ∈ alert.affectedAccounts ↔
    ∃ recordId ∈ alert.representativeRecords,
      db.owner alert.alertType.table recordId = some accountId
  cited : ∀ recordId ∈ alert.representativeRecords, ∃ ref ∈ alert.evidence,
    ref.kind = .structured ∧ ref.locator = some (alert.alertType.table ++ ":" ++ recordId)

section Consistency

variable [Host] {db : Db} {auth : AuthContext} {clock : SnapshotClock} {registry : Registry}
  {alert : AlertCandidate} {alerts : List AlertCandidate}

def RuleCall.run (auth : AuthContext) (clock : SnapshotClock) (registry : Registry) :
    RuleCall → Query (List AlertCandidate)
  | .slaBreaches => detectSlaBreaches auth clock registry
  | .slaApproaching warningRatio => detectSlaApproaching warningRatio auth clock registry
  | .recurringSeverity threshold windowDays =>
      detectRecurringSeverity auth clock threshold windowDays registry
  | .knownIssuePatterns minOccurrences windowDays =>
      detectKnownIssuePatterns auth clock minOccurrences windowDays
  | .carrierPatterns threshold windowDays => detectCarrierPatterns auth clock threshold windowDays
  | .overduePickups => detectOverduePickups auth clock

-- What an alert has to be made of to be consistent: records that the caller can
-- read, each with its account and a structured reference.
structure MadeOf (db : Db) (auth : AuthContext) (id account : ρ → String) (records : List ρ)
    (alert : AlertCandidate) : Prop where
  ids : alert.representativeRecords = Py.sorted (records.map id)
  accounts : alert.affectedAccounts = Py.sortedSet (records.map account)
  counted : alert.observedCount = records.length
  reached : alert.threshold ≤ records.length
  distinct : (records.map id).Nodup
  owned : ∀ record ∈ records, db.owner alert.alertType.table (id record) = some (account record) ∧
    auth.allowsAccount (account record) = true
  cited : ∀ record ∈ records, ∃ note,
    citeStructured alert.alertType.table (id record) note ∈ alert.evidence

omit [Host] in
theorem MadeOf.consistent {id account : ρ → String} {records : List ρ}
    (made : MadeOf db auth id account records alert) : AlertConsistent db auth alert := by
  have listed (recordId : String) : recordId ∈ alert.representativeRecords ↔
      ∃ record ∈ records, id record = recordId := by
    rw [made.ids,Py.mem_sorted,List.mem_map]
  refine ⟨?_,?_,?_,?_,?_,?_,?_⟩
  · rw [made.counted,made.ids,Py.sorted,List.length_insertionSort,List.length_map]
  · rw [made.counted]
    exact made.reached
  · rw [made.ids,Py.sorted]
    exact (List.perm_insertionSort _ _).nodup_iff.mpr made.distinct
  · intro recordId member
    obtain ⟨record,one,rfl⟩ := (listed recordId).mp member
    exact ⟨account record,made.owned record one⟩
  · rw [made.accounts]
    exact Py.sortedSet_ascending _
  · intro accountId
    rw [made.accounts,Py.mem_sortedSet,List.mem_map]
    constructor
    · intro affected
      rcases affected with ⟨record,one,rfl⟩
      exact ⟨id record,(listed _).mpr ⟨record,one,rfl⟩,(made.owned record one).1⟩
    · intro owned
      rcases owned with ⟨recordId,member,owner⟩
      obtain ⟨record,one,rfl⟩ := (listed recordId).mp member
      exact ⟨record,one,Option.some.inj ((made.owned record one).1.symm.trans owner)⟩
  · intro recordId member
    obtain ⟨record,one,rfl⟩ := (listed recordId).mp member
    obtain ⟨note,cited⟩ := made.cited record one
    exact ⟨_,cited,rfl,rfl⟩

theorem ticket_owned {ticket : Ticket}
    (read : (getTicket ticket.ticketId auth clock.tz).on db = .ok ticket) :
    db.owner "tickets" ticket.ticketId = some ticket.accountId ∧
      auth.allowsAccount ticket.accountId = true := by
  obtain ⟨row,found,allowed,same⟩ := getTicket_ok.mp read
  rw [← same] at found ⊢
  exact ⟨congrArg (Option.map _) found,allowed⟩

theorem order_owned {order : Order} (read : (getOrder order.orderId auth clock.tz).on db = .ok order) :
    db.owner "orders" order.orderId = some order.accountId ∧
      auth.allowsAccount order.accountId = true := by
  obtain ⟨row,found,allowed,same⟩ := getOrder_ok.mp read
  rw [← same] at found ⊢
  exact ⟨congrArg (Option.map _) found,allowed⟩

theorem slaBreachAlert_made {ticket : Ticket} {decision : DecisionResult SlaOutcome}
    (listed : ticket ∈ openTickets db auth clock) (raises : slaBreachAlert ticket decision = some alert) :
    MadeOf db auth (·.ticketId) (·.accountId) [ticket] alert := by
  have owned := ticket_owned (mem_openTickets.mp listed).1
  unfold slaBreachAlert at raises
  split at raises
  · cases raises
  · split at raises <;> cases raises
    refine ⟨rfl,rfl,rfl,Int.le_refl 1,List.nodup_singleton _,?_,?_⟩
    · exact List.forall_mem_singleton.mpr owned
    · exact List.forall_mem_singleton.mpr ⟨_,List.mem_cons_self⟩

theorem slaApproachingAlert_made {ratio : Rat} {ticket : Ticket} {decision : DecisionResult SlaOutcome}
    (listed : ticket ∈ openTickets db auth clock)
    (raises : slaApproachingAlert ratio ticket decision = some alert) :
    MadeOf db auth (·.ticketId) (·.accountId) [ticket] alert := by
  have owned := ticket_owned (mem_openTickets.mp listed).1
  unfold slaApproachingAlert at raises
  split at raises
  · cases raises
  · split at raises
    · cases raises
    · split at raises
      · split at raises <;> cases raises
        refine ⟨rfl,rfl,rfl,Int.le_refl 1,List.nodup_singleton _,?_,?_⟩
        · exact List.forall_mem_singleton.mpr owned
        · exact List.forall_mem_singleton.mpr ⟨_,List.mem_cons_self⟩
      · cases raises

theorem recurringAlert_made {threshold windowDays : Int} {severity : Severity} {tickets : List Ticket}
    (listed : ∀ ticket ∈ tickets, (getTicket ticket.ticketId auth clock.tz).on db = .ok ticket)
    (distinct : (tickets.map (·.ticketId)).Nodup)
    (raises : recurringAlert threshold windowDays severity tickets = some alert) :
    MadeOf db auth (·.ticketId) (·.accountId) tickets alert := by
  have enough := (recurringAlert_facts raises).1
  simp only [recurringAlert,List.length_map,Int.not_lt.mpr enough,if_false,Option.some.injEq] at raises
  subst raises
  refine ⟨rfl,rfl,rfl,enough,distinct,?_,?_⟩
  · exact fun ticket member => ticket_owned (listed ticket member)
  · intro ticket member
    refine ⟨none,List.mem_map_of_mem (Py.mem_sorted.mpr ?_)⟩
    exact List.mem_map_of_mem member

theorem issueAlert_made {minOccurrences windowDays : Int} {tickets : List Ticket} {issue : KnownIssue}
    (listed : ∀ ticket ∈ tickets, (getTicket ticket.ticketId auth clock.tz).on db = .ok ticket)
    (distinct : (tickets.map (·.ticketId)).Nodup)
    (reports : reported minOccurrences tickets issue = true) :
    MadeOf db auth (·.ticketId) (·.accountId) (matchingTickets tickets issue)
      (issueAlert db minOccurrences windowDays tickets issue) := by
  have kept : (matchingTickets tickets issue).Sublist tickets := List.filter_sublist
  refine ⟨rfl,rfl,rfl,(reported_iff.mp reports).2,distinct.sublist (kept.map _),?_,?_⟩
  · exact fun ticket member => ticket_owned (listed ticket (kept.subset member))
  · intro ticket member
    refine ⟨none,List.mem_cons_of_mem _ (List.mem_map_of_mem ?_)⟩
    exact List.mem_map_of_mem member

theorem carrierAlert_made {threshold windowDays : Int} {carrier : String} {orders : List Order}
    (listed : ∀ order ∈ orders, (getOrder order.orderId auth clock.tz).on db = .ok order)
    (distinct : (orders.map (·.orderId)).Nodup)
    (raises : carrierAlert threshold windowDays carrier orders = some alert) :
    MadeOf db auth (·.orderId) (·.accountId) orders alert := by
  have enough := (carrierAlert_facts raises).1
  simp only [carrierAlert,List.length_map,Int.not_lt.mpr enough,if_false,Option.some.injEq] at raises
  subst raises
  refine ⟨rfl,rfl,rfl,enough,distinct,?_,?_⟩
  · exact fun order member => order_owned (listed order member)
  · intro order member
    refine ⟨none,List.mem_map_of_mem (Py.mem_sorted.mpr ?_)⟩
    exact List.mem_map_of_mem member

theorem overduePickupAlert_made {order : Order} (listed : order ∈ bookedOrders db auth clock)
    (raises : overduePickupAlert clock.now order = some alert) :
    MadeOf db auth (·.orderId) (·.accountId) [order] alert := by
  have owned := order_owned (mem_bookedOrders.mp listed).1
  unfold overduePickupAlert at raises
  split at raises <;> cases raises
  refine ⟨rfl,rfl,rfl,Int.le_refl 1,List.nodup_singleton _,?_,?_⟩
  · exact List.forall_mem_singleton.mpr owned
  · exact List.forall_mem_singleton.mpr ⟨_,List.mem_cons_self⟩

theorem recurringTickets_read {cutoff : DateTime} {severity : Severity} :
    (∀ ticket ∈ recurringTickets db auth clock registry cutoff severity,
      (getTicket ticket.ticketId auth clock.tz).on db = .ok ticket) ∧
    ((recurringTickets db auth clock registry cutoff severity).map (·.ticketId)).Nodup := by
  constructor
  · exact fun ticket member => (mem_openTickets.mp (List.mem_filter.mp member).1).1
  · exact (tickets_distinct _).sublist (List.filter_sublist.map _)

theorem recentTickets_read {cutoff : DateTime} :
    (∀ ticket ∈ recentTickets db auth clock cutoff,
      (getTicket ticket.ticketId auth clock.tz).on db = .ok ticket) ∧
    ((recentTickets db auth clock cutoff).map (·.ticketId)).Nodup := by
  constructor
  · exact fun ticket member => (mem_recentTickets.mp member).1
  · exact (tickets_distinct _).sublist (List.filter_sublist.map _)

theorem carrierOrders_read {cutoff : DateTime} {carrier : String} :
    (∀ order ∈ carrierOrders db auth clock cutoff carrier,
      (getOrder order.orderId auth clock.tz).on db = .ok order) ∧
    ((carrierOrders db auth clock cutoff carrier).map (·.orderId)).Nodup := by
  constructor
  · exact fun order member => (mem_faultyOrders.mp (List.mem_filter.mp member).1).1
  · exact (orders_distinct _).sublist ((List.filter_sublist.trans List.filter_sublist).map _)

theorem rule_consistent {call : RuleCall} (ran : (call.run auth clock registry).on db = .ok alerts)
    (member : alert ∈ alerts) : AlertConsistent db auth alert := by
  cases call with
  | slaBreaches =>
      obtain ⟨_,rfl⟩ := detectSla_ok.mp ran
      obtain ⟨ticket,listed,decision,_,raises⟩ := mem_slaAlerts.mp member
      exact (slaBreachAlert_made listed raises).consistent
  | slaApproaching warningRatio =>
      obtain ⟨_,rfl⟩ := detectSla_ok.mp ran
      obtain ⟨ticket,listed,decision,_,raises⟩ := mem_slaAlerts.mp member
      exact (slaApproachingAlert_made listed raises).consistent
  | recurringSeverity threshold windowDays =>
      obtain ⟨cutoff,_,_,rfl⟩ := detectRecurringSeverity_ok.mp ran
      obtain ⟨severity,_,raises⟩ := List.mem_filterMap.mp member
      obtain ⟨read,distinct⟩ := @recurringTickets_read _ db auth clock registry cutoff severity
      exact (recurringAlert_made read distinct raises).consistent
  | knownIssuePatterns minOccurrences windowDays =>
      obtain ⟨cutoff,_,rfl⟩ := detectKnownIssuePatterns_ok.mp ran
      obtain ⟨issue,_,reports,rfl⟩ := mem_alerts.mp member
      obtain ⟨read,distinct⟩ := @recentTickets_read _ db auth clock cutoff
      exact (issueAlert_made read distinct reports).consistent
  | carrierPatterns threshold windowDays =>
      obtain ⟨cutoff,_,rfl⟩ := detectCarrierPatterns_ok.mp ran
      obtain ⟨⟨carrier,orders⟩,grouped,raises⟩ := List.mem_filterMap.mp member
      obtain ⟨rfl,_⟩ := (Py.mem_grouped _ _ _ _).mp grouped
      obtain ⟨read,distinct⟩ := @carrierOrders_read _ db auth clock cutoff carrier
      exact (carrierAlert_made read distinct raises).consistent
  | overduePickups =>
      cases Except.ok.inj (detectOverduePickups_on.symm.trans ran)
      obtain ⟨order,listed,raises⟩ := List.mem_filterMap.mp member
      exact (overduePickupAlert_made listed raises).consistent

end Consistency

section Accounts

variable {alerts : List AlertCandidate} {alert : AlertCandidate} {accountId : String}

-- `grouped.setdefault(account_id, set()).add(alert.alert_id)` in two loops
def accountGroups (alerts : List AlertCandidate) : List (String × List String) :=
  alerts.foldl (fun grouped alert => alert.affectedAccounts.foldl
    (fun grouped accountId => Py.dictAppend grouped accountId alert.alertId) grouped) []

-- Each account with each alert that affects it.
def affections (alerts : List AlertCandidate) : List (String × AlertCandidate) :=
  alerts.flatMap fun alert => alert.affectedAccounts.map (·,alert)

theorem mem_affections : (accountId,alert) ∈ affections alerts ↔
    alert ∈ alerts ∧ accountId ∈ alert.affectedAccounts := by
  simp only [affections,List.mem_flatMap,List.mem_map,Prod.mk.injEq]
  constructor
  · intro pair
    rcases pair with ⟨other,stored,account,affected,rfl,rfl⟩
    exact ⟨stored,affected⟩
  · intro affects
    rcases affects with ⟨stored,affected⟩
    exact ⟨alert,stored,accountId,affected,rfl,rfl⟩

theorem accountGroups_grouped : accountGroups alerts =
    (Py.grouped (·.1) (affections alerts)).map fun group => (group.1,group.2.map (·.2.alertId)) := by
  rw [← Py.foldl_dictAppend]
  simp only [accountGroups,affections,List.foldl_flatMap,List.foldl_map]

theorem accountGroups_entries :
    (accountGroups alerts).map (fun group => (group.1,Py.sortedSet group.2)) =
      ((accountGroups alerts).map (·.1)).map fun accountId =>
        (accountId,Py.sortedSet ((alerts.filter (accountId ∈ ·.affectedAccounts)).map (·.alertId))) := by
  rw [accountGroups_grouped,List.map_map,List.map_map,List.map_map]
  refine List.map_congr_left fun group member => congrArg (Prod.mk group.1) ?_
  obtain ⟨same,_⟩ := (Py.mem_grouped _ _ group.1 group.2).mp member
  apply Py.sortedSet_congr
  intro alertId
  dsimp only
  rw [same]
  simp only [List.mem_map,List.mem_filter,decide_eq_true_eq]
  constructor
  · intro grouped
    rcases grouped with ⟨⟨accountId,alert⟩,⟨pair,rfl⟩,rfl⟩
    obtain ⟨stored,affected⟩ := mem_affections.mp pair
    exact ⟨alert,⟨stored,affected⟩,rfl⟩
  · intro affects
    rcases affects with ⟨alert,⟨stored,affected⟩,rfl⟩
    exact ⟨(group.1,alert),⟨mem_affections.mpr ⟨stored,affected⟩,rfl⟩,rfl⟩

theorem accountGroups_keys : ((accountGroups alerts).map (·.1)).insertionSort (· ≤ ·) =
    Py.sortedSet (alerts.flatMap (·.affectedAccounts)) := by
  rw [accountGroups_grouped,List.map_map]
  apply Py.sorted_set (Py.grouped_nodup _ _)
  intro accountId
  rw [Py.grouped_keys,List.mem_flatMap]
  constructor
  · intro grouped
    rcases grouped with ⟨⟨_,alert⟩,pair,rfl⟩
    exact ⟨alert,mem_affections.mp pair⟩
  · intro affects
    rcases affects with ⟨alert,affected⟩
    exact ⟨(accountId,alert),mem_affections.mpr affected,rfl⟩

theorem sorted_by_key [LinearOrder κ] (key : α → κ) (value : α → β) (other : β → κ)
    (kept : ∀ entry, other (value entry) = key entry) (entries : List α) :
    (entries.insertionSort fun one two => key one ≤ key two).map value =
      (entries.map value).insertionSort fun one two => other one ≤ other two := by
  refine List.map_insertionSort _ _ value entries fun one _ two _ => ?_
  rw [kept,kept]

-- The loops build what the comprehension over the sorted accounts states.
theorem groupByAccount_loops : groupByAccount alerts =
    ((accountGroups alerts).insertionSort fun one two => one.1 ≤ two.1).map
      fun group => (group.1,Py.sortedSet group.2) := by
  have groups := sorted_by_key (fun group : String × List String => group.1)
    (fun group => (group.1,Py.sortedSet group.2)) (·.1) (fun _ => rfl) (accountGroups alerts)
  rw [groups,accountGroups_entries,groupByAccount,← accountGroups_keys]
  exact sorted_by_key id _ (fun group : String × List String => group.1) (fun _ => rfl) _

def ListedUnder (alerts : List AlertCandidate) (accountId alertId : String) : Prop :=
  ∃ ids, (accountId,ids) ∈ groupByAccount alerts ∧ alertId ∈ ids

theorem listedUnder_iff {alertId : String} : ListedUnder alerts accountId alertId ↔
    ∃ alert ∈ alerts, alert.alertId = alertId ∧ accountId ∈ alert.affectedAccounts := by
  simp only [ListedUnder,groupByAccount,List.mem_map,Py.mem_sortedSet,List.mem_flatMap,
    Prod.mk.injEq]
  constructor
  · intro group
    rcases group with ⟨ids,⟨account,_,rfl,rfl⟩,named⟩
    obtain ⟨alert,found,rfl⟩ := List.mem_map.mp (Py.mem_sortedSet.mp named)
    obtain ⟨stored,affected⟩ := List.mem_filter.mp found
    exact ⟨alert,stored,rfl,of_decide_eq_true affected⟩
  · intro affects
    rcases affects with ⟨alert,stored,rfl,affected⟩
    refine ⟨_,⟨accountId,⟨alert,stored,affected⟩,rfl,rfl⟩,Py.mem_sortedSet.mpr ?_⟩
    exact List.mem_map_of_mem (List.mem_filter.mpr ⟨stored,decide_eq_true affected⟩)

theorem alert_listed_iff
    (apart : ∀ one ∈ alerts, ∀ two ∈ alerts, one.alertId = two.alertId → one = two)
    (member : alert ∈ alerts) :
    ListedUnder alerts accountId alert.alertId ↔ accountId ∈ alert.affectedAccounts := by
  rw [listedUnder_iff]
  constructor
  · intro group
    rcases group with ⟨other,stored,same,affected⟩
    rwa [← apart other stored alert member same]
  · intro affected
    exact ⟨alert,member,rfl,affected⟩

end Accounts

-- Every alert of every rule is consistent, and grouping the alerts of a run by
-- account says of each what its own list of accounts says.
theorem alerts_self_consistent [Host] (db : Db) (auth : AuthContext) (clock : SnapshotClock)
    (registry : Registry) :
    (∀ (call : RuleCall) alerts, (call.run auth clock registry).on db = .ok alerts →
      ∀ alert ∈ alerts, AlertConsistent db auth alert) ∧
    (∀ alerts : List AlertCandidate,
      (∀ one ∈ alerts, ∀ two ∈ alerts, one.alertId = two.alertId → one = two) →
      ∀ alert ∈ alerts, ∀ accountId,
        ListedUnder alerts accountId alert.alertId ↔ accountId ∈ alert.affectedAccounts) ∧
    ∀ alertTypes windowDays returned,
      (runOperationsRadar auth clock alertTypes windowDays registry).on db = .ok returned →
      ∀ alert ∈ returned, ∀ accountId,
        ListedUnder returned accountId alert.alertId ↔ accountId ∈ alert.affectedAccounts := by
  refine ⟨?_,?_,?_⟩
  · intro call alerts ran alert member
    exact rule_consistent ran member
  · intro alerts apart alert member accountId
    exact alert_listed_iff apart member
  · intro alertTypes windowDays returned ran alert member accountId
    obtain ⟨_,_,rfl⟩ := runOperationsRadar_ok.mp ran
    refine alert_listed_iff (fun one first two second same => ?_) member
    exact List.inj_on_of_nodup_map (ranking_nodup _) first second same

-- A day after its window an order that was never collected is an alert of its account.
theorem withdrawn_listed : let _ := asciiHost [] []
    ∃ alert, (detectOverduePickups ⟨.operationsAdmin,none⟩ dayAfter).on withdrawnOrders = .ok [alert] := by
  intro _
  rw [detectOverduePickups_on]
  exact ⟨_,rfl⟩

theorem withdrawn_consistent : let _ := asciiHost [] []
    ∃ alert returned, AlertConsistent withdrawnOrders ⟨.operationsAdmin,none⟩ alert ∧
      (runOperationsRadar ⟨.operationsAdmin,none⟩ dayAfter (some [.overduePickup]) 30 {}).on
        withdrawnOrders = .ok returned ∧ alert ∈ returned ∧
      ∀ accountId, (ListedUnder [alert] accountId alert.alertId ↔ accountId ∈ alert.affectedAccounts) ∧
        (ListedUnder returned accountId alert.alertId ↔ accountId ∈ alert.affectedAccounts) := by
  intro _
  obtain ⟨alert,ran⟩ := withdrawn_listed
  obtain ⟨consistent,grouped,listed⟩ := alerts_self_consistent withdrawnOrders ⟨.operationsAdmin,none⟩
    dayAfter {}
  have run := @one_rule_ran _ withdrawnOrders ⟨.operationsAdmin,none⟩ dayAfter {} 30 .overduePickup [alert]
    (by decide) ran
  have ranked : alert ∈ ranking [alert] := mem_ranking.mpr (by simp)
  have apart : ∀ one ∈ [alert], ∀ two ∈ [alert], one.alertId = two.alertId → one = two := by
    simp
  have only := List.mem_singleton_self alert
  refine ⟨alert,_,consistent .overduePickups _ ran alert only,run,ranked,fun accountId => ⟨?_,?_⟩⟩
  · exact grouped [alert] apart alert only accountId
  · exact listed _ _ _ run alert ranked accountId

end ParcelPilot
