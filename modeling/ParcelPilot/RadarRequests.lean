import ParcelPilot.OverduePickups
import ParcelPilot.RadarRoutes

namespace ParcelPilot

-- What two results come to together, in the order of the list.
structure IsMerge (one two merged : List AlertCandidate) : Prop where
  members : ∀ alert, alert ∈ merged ↔ alert ∈ one ∨ alert ∈ two
  sorted : merged.Pairwise alertBefore
  distinct : (merged.map (·.alertId)).Nodup

section Lists

variable {one two : List AlertCandidate}

theorem alertBefore_ids {first second : AlertCandidate} (before : alertBefore first second)
    (after : alertBefore second first) : first.alertId = second.alertId := by
  rcases before with less | ⟨same,forth⟩ <;> rcases after with more | ⟨_,back⟩
  · omega
  · omega
  · omega
  · exact le_antisymm forth back

theorem ranked_unique (sorted : one.Pairwise alertBefore) (also : two.Pairwise alertBefore)
    (distinct : (one.map (·.alertId)).Nodup) (apart : (two.map (·.alertId)).Nodup)
    (same : ∀ alert, alert ∈ one ↔ alert ∈ two) : one = two := by
  have permuted : one.Perm two :=
    (List.perm_ext_iff_of_nodup distinct.of_map apart.of_map).mpr same
  refine List.Perm.eq_of_pairwise ?_ sorted also permuted
  intro first second here there before after
  exact List.inj_on_of_nodup_map distinct here ((same second).mpr there)
    (alertBefore_ids before after)

theorem merge_unique {merged other : List AlertCandidate} (first : IsMerge one two merged)
    (second : IsMerge one two other) : merged = other :=
  ranked_unique first.sorted second.sorted first.distinct second.distinct fun alert =>
    (first.members alert).trans (second.members alert).symm

end Lists

section Requests

variable [Host] {db : Db} {auth : AuthContext} {clock : SnapshotClock} {registry : Registry}
  {windowDays : Int} {alert : AlertCandidate} {returned : List AlertCandidate}
  {one two : List AlertType}

omit [Host] in
theorem requestedTypes_some {types : List AlertType} (some_ : types ≠ []) :
    requestedTypes (some types) = types := by
  cases types with
  | nil => exact absurd rfl some_
  | cons first rest => rfl

theorem distinctDigests_of {produced wider : AlertCandidate → Prop}
    (within : ∀ alert, produced alert → wider alert) (digests : DistinctDigests wider) :
    DistinctDigests produced :=
  fun one two first second same => digests one two (within one first) (within two second) same

theorem mem_returned {alertTypes : Option (List AlertType)}
    (ran : (runOperationsRadar auth clock alertTypes windowDays registry).on db = .ok returned)
    (digests : DistinctDigests (RuleProduced db auth clock alertTypes windowDays registry)) :
    alert ∈ returned ↔ ∃ alertType ∈ requestedTypes alertTypes,
      ((ruleAlerts db auth clock windowDays registry alertType).filter
        (·.alertId = alert.alertId)).getLast? = some alert := by
  obtain ⟨_,_,ranked⟩ := runOperationsRadar_ok.mp ran
  -- Rules give no two alerts the same id, so the copies of a rule's list are all
  -- that the dictionary sees under it.
  have copies {alertType : AlertType} (requested : alertType ∈ requestedTypes alertTypes)
      (found : alert ∈ ruleAlerts db auth clock windowDays registry alertType) :
      ∀ other ∈ requestedTypes alertTypes,
        (ruleAlerts db auth clock windowDays registry other).filter (·.alertId = alert.alertId) = [] ∨
        (ruleAlerts db auth clock windowDays registry other).filter (·.alertId = alert.alertId) =
          (ruleAlerts db auth clock windowDays registry alertType).filter
            (·.alertId = alert.alertId) := by
    have raised := (ruleAlerts_raised ran requested alert).mp found
    refine fun other asked => ids_of_rule (fun other asked hit there same => ?_) asked
    have returns := (ruleAlerts_raised ran asked hit).mp there
    rw [raised_id returns,raised_id raised] at same
    exact (raised_same_key returns raised
      (digests hit alert ⟨other,asked,there⟩ ⟨alertType,requested,found⟩ same)).1
  constructor
  · intro member
    obtain ⟨alertType,requested,found⟩ := returned_produced ran member
    rw [ranked,mem_ranking,List.filter_flatMap] at member
    exact ⟨alertType,requested,((Py.getLast?_copies (copies requested found)).mp member).1⟩
  · intro found
    rcases found with ⟨alertType,requested,last⟩
    have found := (List.mem_filter.mp (List.mem_of_getLast? last)).1
    rw [ranked,mem_ranking,List.filter_flatMap]
    exact (Py.getLast?_copies (copies requested found)).mpr ⟨last,alertType,requested,rfl⟩

theorem requested_type {types : List AlertType} (some_ : types ≠ [])
    (ran : (runOperationsRadar auth clock (some types) windowDays registry).on db = .ok returned)
    (member : alert ∈ returned) : alert.alertType ∈ types := by
  obtain ⟨alertType,requested,raised⟩ := (produced_raised ran alert).mp (returned_produced ran member)
  rw [raised_type raised]
  rwa [requestedTypes_some some_] at requested

theorem appended_returns (first : one ≠ []) (second : two ≠ []) :
    (∃ merged, (runOperationsRadar auth clock (some (one ++ two)) windowDays registry).on db =
        .ok merged) ↔
      (∃ alerts, (runOperationsRadar auth clock (some one) windowDays registry).on db = .ok alerts) ∧
      ∃ alerts, (runOperationsRadar auth clock (some two) windowDays registry).on db = .ok alerts := by
  have both : one ++ two ≠ [] := List.append_ne_nil_of_left_ne_nil first two
  simp only [runOperationsRadar_ok,requestedTypes_some first,requestedTypes_some second,
    requestedTypes_some both,List.forall_mem_append]
  constructor
  · intro runs
    rcases runs with ⟨_,allowed,⟨each,others⟩,_⟩
    exact ⟨⟨_,allowed,each,rfl⟩,_,allowed,others,rfl⟩
  · intro runs
    rcases runs with ⟨⟨_,allowed,each,_⟩,_,_,others,_⟩
    exact ⟨_,allowed,⟨each,others⟩,rfl⟩

theorem produced_within {types wider : List AlertType} (some_ : types ≠ [])
    (sub : ∀ alertType ∈ types, alertType ∈ wider) (alert : AlertCandidate)
    (produced : RuleProduced db auth clock (some types) windowDays registry alert) :
    RuleProduced db auth clock (some wider) windowDays registry alert := by
  obtain ⟨alertType,requested,found⟩ := produced
  rw [requestedTypes_some some_] at requested
  have more := sub alertType requested
  exact ⟨alertType,by rwa [requestedTypes_some (List.ne_nil_of_mem more)],found⟩

theorem appended_merge {alerts others merged : List AlertCandidate} (first : one ≠ [])
    (second : two ≠ [])
    (digests : DistinctDigests (RuleProduced db auth clock (some (one ++ two)) windowDays registry))
    (ran : (runOperationsRadar auth clock (some one) windowDays registry).on db = .ok alerts)
    (also : (runOperationsRadar auth clock (some two) windowDays registry).on db = .ok others)
    (both : (runOperationsRadar auth clock (some (one ++ two)) windowDays registry).on db =
      .ok merged) : IsMerge alerts others merged := by
  have together : one ++ two ≠ [] := List.append_ne_nil_of_left_ne_nil first two
  have left := distinctDigests_of (produced_within first fun _ => List.mem_append_left two) digests
  have right := distinctDigests_of (produced_within second fun _ => List.mem_append_right one) digests
  refine ⟨fun alert => ?_,?_,?_⟩
  · rw [mem_returned both digests,mem_returned ran left,mem_returned also right,
      requestedTypes_some first,requestedTypes_some second,requestedTypes_some together]
    simp only [List.mem_append,or_and_right,exists_or]
  · obtain ⟨_,_,rfl⟩ := runOperationsRadar_ok.mp both
    exact ranking_sorted _
  · obtain ⟨_,_,rfl⟩ := runOperationsRadar_ok.mp both
    exact ranking_nodup _

theorem same_types {alerts : List AlertCandidate} (first : one ≠ [])
    (same : ∀ alertType, alertType ∈ one ↔ alertType ∈ two)
    (digests : DistinctDigests (RuleProduced db auth clock (some one) windowDays registry))
    (ran : (runOperationsRadar auth clock (some one) windowDays registry).on db = .ok alerts) :
    (runOperationsRadar auth clock (some two) windowDays registry).on db = .ok alerts := by
  have second : two ≠ [] := by
    obtain ⟨alertType,member⟩ := List.exists_mem_of_ne_nil one first
    exact List.ne_nil_of_mem ((same alertType).mp member)
  have other := distinctDigests_of (produced_within second fun t => (same t).mpr) digests
  obtain ⟨allowed,each,_⟩ := runOperationsRadar_ok.mp ran
  rw [requestedTypes_some first] at each
  have runs : (runOperationsRadar auth clock (some two) windowDays registry).on db =
      .ok (ranking ((requestedTypes (some two)).flatMap
        (ruleAlerts db auth clock windowDays registry))) := by
    refine runOperationsRadar_ok.mpr ⟨allowed,?_,rfl⟩
    rw [requestedTypes_some second]
    exact fun alertType member => each alertType ((same alertType).mpr member)
  have members (alert : AlertCandidate) : alert ∈ ranking ((requestedTypes (some two)).flatMap
      (ruleAlerts db auth clock windowDays registry)) ↔ alert ∈ alerts := by
    rw [mem_returned runs other,mem_returned ran digests,requestedTypes_some first,
      requestedTypes_some second]
    simp only [same]
  rw [runs]
  obtain ⟨_,_,rfl⟩ := runOperationsRadar_ok.mp ran
  exact congrArg Except.ok (ranked_unique (ranking_sorted _) (ranking_sorted _) (ranking_nodup _)
    (ranking_nodup _) members)

-- A request names the rules to run; one that names none asks for them all, as
-- one without a list does.
theorem radar_requests (db : Db) (auth : AuthContext) (clock : SnapshotClock) (windowDays : Int)
    (registry : Registry) :
    (∀ types returned, types ≠ [] →
      (runOperationsRadar auth clock (some types) windowDays registry).on db = .ok returned →
        ∀ alert ∈ returned, alert.alertType ∈ types) ∧
    ((runOperationsRadar auth clock (some []) windowDays registry).on db =
        (runOperationsRadar auth clock (some allRules) windowDays registry).on db ∧
      (runOperationsRadar auth clock none windowDays registry).on db =
        (runOperationsRadar auth clock (some allRules) windowDays registry).on db) ∧
    (∀ one two, one ≠ [] → two ≠ [] →
      DistinctDigests (RuleProduced db auth clock (some (one ++ two)) windowDays registry) →
      ((∃ merged, (runOperationsRadar auth clock (some (one ++ two)) windowDays registry).on db =
          .ok merged) ↔
        (∃ alerts, (runOperationsRadar auth clock (some one) windowDays registry).on db =
          .ok alerts) ∧
        ∃ others, (runOperationsRadar auth clock (some two) windowDays registry).on db =
          .ok others) ∧
      ∀ alerts others merged,
        (runOperationsRadar auth clock (some one) windowDays registry).on db = .ok alerts →
        (runOperationsRadar auth clock (some two) windowDays registry).on db = .ok others →
        (runOperationsRadar auth clock (some (one ++ two)) windowDays registry).on db =
          .ok merged → IsMerge alerts others merged) ∧
    ∀ one two, one ≠ [] → (∀ alertType, alertType ∈ one ↔ alertType ∈ two) →
      DistinctDigests (RuleProduced db auth clock (some one) windowDays registry) →
      ∀ alerts, (runOperationsRadar auth clock (some one) windowDays registry).on db = .ok alerts →
        (runOperationsRadar auth clock (some two) windowDays registry).on db = .ok alerts := by
  refine ⟨?_,⟨rfl,rfl⟩,?_,?_⟩
  · intro types returned some_ ran alert member
    exact requested_type some_ ran member
  · intro one two first second digests
    refine ⟨appended_returns first second,fun alerts others merged ran also both => ?_⟩
    exact appended_merge first second digests ran also both
  · intro one two first same digests alerts ran
    exact same_types first same digests ran

end Requests

theorem radar_requests_repeated : let _ := repeatedHost
    ∃ merged, (runOperationsRadar everyAccount ⟨.epoch⟩
        (some ([.knownIssuePattern] ++ [.knownIssuePattern])) 30 {}).on repeatedGuide = .ok merged ∧
      IsMerge (ranking [mentionAlert firstMention,mentionAlert secondMention])
        (ranking [mentionAlert firstMention,mentionAlert secondMention]) merged := by
  intro _
  have one : [AlertType.knownIssuePattern] ≠ [] := List.cons_ne_nil _ _
  have within : ∀ alertType ∈ [AlertType.knownIssuePattern] ++ [.knownIssuePattern],
      alertType ∈ [AlertType.knownIssuePattern] := by decide
  have digests := distinctDigests_of
    (produced_within (List.cons_ne_nil _ _) within) repeated_digests
  obtain ⟨_,_,merges,_⟩ := radar_requests repeatedGuide everyAccount ⟨.epoch⟩ 30 {}
  obtain ⟨returns,merge⟩ := merges _ _ one one digests
  obtain ⟨merged,ran⟩ := returns.mpr ⟨⟨_,repeated_ran⟩,_,repeated_ran⟩
  exact ⟨merged,ran,merge _ _ _ repeated_ran repeated_ran ran⟩

-- A request of no type at all is told of an overdue pickup.
theorem empty_request_answered : let _ := asciiHost [] []
    ∃ returned, (runOperationsRadar everyAccount dayAfter (some []) 30 {}).on withdrawnOrders =
        .ok returned ∧ ∃ alert ∈ returned, alert.alertType ∉ ([] : List AlertType) := by
  intro _
  have told : ((runOperationsRadar everyAccount dayAfter (some []) 30 {}).on withdrawnOrders).map
      (·.map (·.alertType)) = .ok [.overduePickup] := by decide +kernel
  obtain ⟨returned,ran,types⟩ := shown_ok told
  cases returned with
  | nil => cases types
  | cons alert rest => exact ⟨_,ran,alert,List.mem_cons_self,List.not_mem_nil⟩

end ParcelPilot
