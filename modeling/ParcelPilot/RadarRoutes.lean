import ParcelPilot.ActionRoutes
import ParcelPilot.RadarRuns

namespace ParcelPilot

-- app/api/schemas.py; a window out of bounds never reaches a route.
structure RadarRequest where
  alertTypes : Option (List AlertType)
  windowDays : Int
  groupByAccount : Bool
  windowInRange : 1 ≤ windowDays ∧ windowDays ≤ 365

structure RadarResponse where
  alerts : List AlertCandidate
  totalAlerts : Nat
  groupedByAccount : Option (List (String × List String))
  latencyMs : Rat
  viewedAs : DemoUser
  datasetSnapshot : DateTime

section Routes

variable [Host]

-- app/api/routes/radar.py: `except NotAuthorizedError`
def orForbidden (detection : Query (List AlertCandidate)) : Query (List AlertCandidate) := do
  match ← Fallible.attempt detection with
  | .ok alerts => pure alerts
  | .error (.notAuthorized reason) =>
      throw (.httpException 403 (PyError.notAuthorized reason).message)
  | .error other => throw other

def runRadar (body : RadarRequest) (user : DemoUser) (clock : SnapshotClock) (registry : Registry)
    (latencyMs : Rat) : Query RadarResponse := do
  let alerts ← orForbidden (runOperationsRadar user.toAuthContext clock body.alertTypes
    body.windowDays registry)
  pure {
    alerts := alerts
    totalAlerts := alerts.length
    groupedByAccount := if body.groupByAccount then some (groupByAccount alerts) else none
    latencyMs := latencyMs
    viewedAs := user
    datasetSnapshot := clock.now }

-- Detection runs again, with every rule and the default window.
def getAlert (alertId : String) (user : DemoUser) (clock : SnapshotClock) (registry : Registry) :
    Query AlertCandidate := do
  let alerts ← orForbidden (runOperationsRadar user.toAuthContext clock none defaultWindowDays registry)
  match alerts.find? (·.alertId = alertId) with
  | some alert => pure alert
  | none => throw (.httpException 404 ("alert " ++ alertId ++ " not found or not authorized"))

variable {db : Db} {auth : AuthContext} {user : DemoUser} {clock : SnapshotClock}
  {registry : Registry} {body : RadarRequest} {latencyMs : Rat} {windowDays : Int}

theorem orForbidden_ok {detection : Query (List AlertCandidate)} {alerts : List AlertCandidate} :
    (orForbidden detection).on db = .ok alerts ↔ detection.on db = .ok alerts := by
  unfold orForbidden
  rw [on_bind,on_attempt]
  simp only [Except.bind]
  cases detection.on db with
  | ok found => rfl
  | error error => cases error <;> simp

theorem runRadar_ok {response : RadarResponse}
    (ran : (runRadar body user clock registry latencyMs).on db = .ok response) :
    (runOperationsRadar user.toAuthContext clock body.alertTypes body.windowDays registry).on db =
      .ok response.alerts := by
  obtain ⟨alerts,detected,ran⟩ := on_bind_ok.mp ran
  cases ran
  exact orForbidden_ok.mp detected

theorem getAlert_ok {alert : AlertCandidate} :
    (getAlert alert.alertId user clock registry).on db = .ok alert ↔
      ∃ listed, (runOperationsRadar user.toAuthContext clock none defaultWindowDays registry).on db =
        .ok listed ∧ alert ∈ listed := by
  unfold getAlert
  rw [on_bind_ok]
  refine exists_congr fun listed => ?_
  rw [orForbidden_ok]
  refine and_congr_right fun detected => ?_
  obtain ⟨_,_,rfl⟩ := runOperationsRadar_ok.mp detected
  constructor
  · intro ran
    split at ran
    · rename_i found here
      cases ran
      exact List.mem_of_find?_eq_some here
    · cases ran
  · intro member
    split
    · rename_i found here
      have same : found.alertId = alert.alertId := by simpa using List.find?_some here
      rw [List.inj_on_of_nodup_map (ranking_nodup _) (List.mem_of_find?_eq_some here) member same]
      rfl
    · rename_i none
      exact absurd (List.find?_eq_none.mp none alert member) (by simp)

def DefaultRunReturns (db : Db) (auth : AuthContext) (clock : SnapshotClock) (registry : Registry) :
    Prop :=
  (∃ cutoff, clock.now.minusDays defaultWindowDays = .ok cutoff) ∧
    ∀ ticket ∈ openTickets db auth clock, ∃ decision,
      (calculateSla ticket.ticketId auth clock registry).on db = .ok decision

theorem default_run_iff (allowed : auth.role ≠ .restrictedSupport) :
    (∃ listed, (runOperationsRadar auth clock none defaultWindowDays registry).on db = .ok listed) ↔
      DefaultRunReturns db auth clock registry := by
  constructor
  · rintro ⟨listed,ran⟩
    obtain ⟨_,each,_⟩ := runOperationsRadar_ok.mp ran
    obtain ⟨breaches,detected⟩ := each .slaBreach (by decide)
    obtain ⟨issues,parsed⟩ := each .knownIssuePattern (by decide)
    obtain ⟨cutoff,within,_⟩ := detectKnownIssuePatterns_ok.mp parsed
    exact ⟨⟨cutoff,within⟩,(detectSla_ok.mp detected).1⟩
  · rintro ⟨⟨cutoff,within⟩,calculated⟩
    refine ⟨_,runOperationsRadar_ok.mpr ⟨allowed,fun alertType _ => ?_,rfl⟩⟩
    cases alertType with
    | slaBreach => exact ⟨_,detectSla_ok.mpr ⟨calculated,rfl⟩⟩
    | slaApproaching => exact ⟨_,detectSla_ok.mpr ⟨calculated,rfl⟩⟩
    | recurringIssue =>
        exact ⟨_,detectRecurringSeverity_ok.mpr
          ⟨cutoff,within,fun ticket listed _ => calculated ticket listed,rfl⟩⟩
    | knownIssuePattern => exact ⟨_,detectKnownIssuePatterns_on within⟩
    | carrierPattern => exact ⟨_,detectCarrierPatterns_ok.mpr ⟨cutoff,within,rfl⟩⟩
    | overduePickup => exact ⟨_,detectOverduePickups_on⟩

def Reports (db : Db) (auth : AuthContext) (clock : SnapshotClock) (windowDays : Int)
    (registry : Registry) (alertType : AlertType) : Prop :=
  ∃ alert, Raised db auth clock windowDays registry alertType alert

-- When what the requested run lists is what the lookup finds again.
def Reopenable (db : Db) (auth : AuthContext) (clock : SnapshotClock) (registry : Registry)
    (body : RadarRequest) : Prop :=
  (∀ alertType ∈ requestedTypes body.alertTypes,
    ¬ Reports db auth clock body.windowDays registry alertType) ∨
  (DefaultRunReturns db auth clock registry ∧
    (body.windowDays = defaultWindowDays ∨ ∀ alertType ∈ requestedTypes body.alertTypes,
      alertType.windowed = true → ¬ Reports db auth clock body.windowDays registry alertType))

def ProducedByEither (db : Db) (auth : AuthContext) (clock : SnapshotClock) (registry : Registry)
    (body : RadarRequest) (alert : AlertCandidate) : Prop :=
  RuleProduced db auth clock body.alertTypes body.windowDays registry alert ∨
    RuleProduced db auth clock none defaultWindowDays registry alert

omit [Host] in
theorem windowDesc_inj {one two : Int} : windowDesc one = windowDesc two ↔ one = two := by
  unfold windowDesc
  rw [String.append_left_inj,Texts.int_text_inj]

theorem ids_of_rule {types : List AlertType} {alertType : AlertType} {alert : AlertCandidate}
    (own : ∀ other ∈ types, ∀ found ∈ ruleAlerts db auth clock windowDays registry other,
      found.alertId = alert.alertId → other = alertType) {other : AlertType} (member : other ∈ types) :
    (ruleAlerts db auth clock windowDays registry other).filter (·.alertId = alert.alertId) = [] ∨
      (ruleAlerts db auth clock windowDays registry other).filter (·.alertId = alert.alertId) =
        (ruleAlerts db auth clock windowDays registry alertType).filter
          (·.alertId = alert.alertId) := by
  by_cases same : other = alertType
  · exact .inr (by rw [same])
  · refine .inl (List.filter_eq_nil_iff.mpr fun found here named => same ?_)
    exact own other member found here (by simpa using named)

theorem ruleAlerts_window {alertType : AlertType} {otherDays : Int} (point : alertType.windowed = false) :
    ruleAlerts db auth clock windowDays registry alertType =
      ruleAlerts db auth clock otherDays registry alertType := by
  cases alertType <;> first | rfl | cases point

theorem listed_again
    (ran : (runRadar body user clock registry latencyMs).on db = .ok response)
    (digests : DistinctDigests (ProducedByEither db user.toAuthContext clock registry body))
    (again : (runOperationsRadar user.toAuthContext clock none defaultWindowDays registry).on db =
      .ok listed)
    (window : body.windowDays = defaultWindowDays ∨ ∀ alertType ∈ requestedTypes body.alertTypes,
      alertType.windowed = true →
        ¬ Reports db user.toAuthContext clock body.windowDays registry alertType)
    (member : alert ∈ response.alerts) : alert ∈ listed := by
  have detected := runRadar_ok ran
  have first := returned_produced detected member
  obtain ⟨alertType,requested,raised⟩ := (produced_raised detected alert).mp first
  have own (found : AlertCandidate) (other : AlertType) (days : Int)
      (either : ProducedByEither db user.toAuthContext clock registry body found)
      (returns : Raised db user.toAuthContext clock days registry other found)
      (same : found.alertId = alert.alertId) : other = alertType := by
    rw [raised_id returns,raised_id raised] at same
    exact (raised_same_key returns raised (digests found alert either (.inl first) same)).1
  have agree (other : AlertType) (asked : other ∈ requestedTypes body.alertTypes) :
      ruleAlerts db user.toAuthContext clock body.windowDays registry other = [] ∨
        ruleAlerts db user.toAuthContext clock body.windowDays registry other =
          ruleAlerts db user.toAuthContext clock defaultWindowDays registry other := by
    rcases window with same | silent
    · exact .inr (by rw [same])
    · cases windowed : other.windowed with
      | false => exact .inr (ruleAlerts_window windowed)
      | true =>
          refine .inl (List.eq_nil_iff_forall_not_mem.mpr fun found here => silent other asked windowed ?_)
          exact ⟨found,(ruleAlerts_raised detected asked found).mp here⟩
  have last : ((ruleAlerts db user.toAuthContext clock defaultWindowDays registry alertType).filter
      (·.alertId = alert.alertId)).getLast? = some alert := by
    obtain ⟨_,_,ranked⟩ := runOperationsRadar_ok.mp detected
    rw [ranked,mem_ranking,List.filter_flatMap] at member
    refine ((Py.getLast?_copies fun other asked => ?_).mp member).1
    rcases ids_of_rule (fun other asked found here => own found other _ (.inl ⟨other,asked,here⟩)
      ((ruleAlerts_raised detected asked found).mp here)) asked with none | one
    · exact .inl none
    · rw [one]
      rcases agree alertType requested with none | same
      · exact .inl (by rw [none]; rfl)
      · exact .inr (by rw [same])
  obtain ⟨_,_,rfl⟩ := runOperationsRadar_ok.mp again
  rw [mem_ranking,List.filter_flatMap]
  refine (Py.getLast?_copies fun other asked => ?_).mpr ⟨last,alertType,?_,rfl⟩
  · exact ids_of_rule (fun other asked found here => own found other _ (.inr ⟨other,asked,here⟩)
      ((ruleAlerts_raised again asked found).mp here)) asked
  · cases alertType <;> decide

-- The lookup runs detection again with the default window, and ids depend on
-- the window: what was listed for another window is not found.
theorem radar_reopens_iff
    (ran : (runRadar body user clock registry latencyMs).on db = .ok response)
    (digests : DistinctDigests (ProducedByEither db user.toAuthContext clock registry body)) :
    (∀ alert ∈ response.alerts, (getAlert alert.alertId user clock registry).on db = .ok alert) ↔
      Reopenable db user.toAuthContext clock registry body := by
  have detected := runRadar_ok ran
  have allowed : user.toAuthContext.role ≠ .restrictedSupport := (runOperationsRadar_ok.mp detected).1
  have covered {alertType : AlertType} {found : AlertCandidate}
      (requested : alertType ∈ requestedTypes body.alertTypes)
      (raised : Raised db user.toAuthContext clock body.windowDays registry alertType found) :
      ∃ alert ∈ response.alerts, alert.alertId = found.alertId := by
    have produced := (produced_raised detected found).mpr ⟨alertType,requested,raised⟩
    obtain ⟨_,_,ranked⟩ := runOperationsRadar_ok.mp detected
    rw [ranked]
    exact ranking_covers (List.mem_flatMap.mpr produced)
  constructor
  · intro opens
    by_cases silent : ∀ alertType ∈ requestedTypes body.alertTypes,
        ¬ Reports db user.toAuthContext clock body.windowDays registry alertType
    · exact .inl silent
    · simp only [not_forall,not_not] at silent
      obtain ⟨alertType,requested,found,raised⟩ := silent
      obtain ⟨alert,member,_⟩ := covered requested raised
      obtain ⟨listed,again,_⟩ := getAlert_ok.mp (opens alert member)
      refine .inr ⟨(default_run_iff allowed).mp ⟨listed,again⟩,?_⟩
      by_cases window : body.windowDays = defaultWindowDays
      · exact .inl window
      · refine .inr fun other asked windowed ⟨hit,reports⟩ => window ?_
        -- Its id was made for the requested window, and found for the default one.
        obtain ⟨shown,there,same⟩ := covered asked reports
        obtain ⟨relisted,once_more,back⟩ := getAlert_ok.mp (opens shown there)
        obtain ⟨otherType,_,returns⟩ :=
          (produced_raised detected shown).mp (returned_produced detected there)
        have digested : alertIdOf shown.fingerprintKey = alertIdOf hit.fingerprintKey := by
          rw [← raised_id returns,← raised_id reports,same]
        have keys := digests shown hit (.inl (returned_produced detected there))
          (.inl ((produced_raised detected hit).mpr ⟨other,asked,reports⟩)) digested
        obtain ⟨rfl,_,_⟩ := raised_same_key returns reports keys
        obtain ⟨lastType,_,later⟩ :=
          (produced_raised once_more shown).mp (returned_produced once_more back)
        have typed : lastType = otherType := (raised_type later).symm.trans (raised_type returns)
        subst typed
        exact windowDesc_inj.mp ((raised_window returns windowed).symm.trans (raised_window later windowed))
  · rintro (silent | ⟨returns,window⟩) alert member
    · obtain ⟨alertType,requested,raised⟩ :=
        (produced_raised detected alert).mp (returned_produced detected member)
      exact absurd ⟨alert,raised⟩ (silent alertType requested)
    · obtain ⟨listed,again⟩ := (default_run_iff allowed).mpr returns
      exact getAlert_ok.mpr ⟨listed,again,listed_again ran digests again window member⟩

end Routes

-- A week's detection of one issue with one closed ticket.
def closedGuide : Db := {Db.empty with
  documentChunks := [guideChunk "2" "KI-208 label printing" none]
  tickets := ⟨[{labelTicket with status := .closed}],by decide⟩}

@[reducible] def weekHost : Host := asciiHost [
  ("known_issue_pattern|7d|v1|KI-208,TKT-900","24cbaad4aaacdbf7"),
  ("known_issue_pattern|30d|v1|KI-208,TKT-900","e4a5525c71160f55")] []

def opsUser : DemoUser := ⟨"ops_admin","Operations admin",.operationsAdmin,none⟩

def weekRequest : RadarRequest := ⟨some [.knownIssuePattern],7,false,by decide⟩

def weekBefore : DateTime := ⟨719155 * microsPerDay,0,by decide⟩

def guideAlert [Host] (windowDays : Int) (cutoff : DateTime) : AlertCandidate :=
  issueAlert closedGuide 1 windowDays (recentTickets closedGuide everyAccount ⟨.epoch⟩ cutoff)
    firstMention

theorem guide_rule {cutoff : DateTime} [Host] (windowDays : Int)
    (within : DateTime.epoch.minusDays windowDays = .ok cutoff)
    (entries : (knownIssues closedGuide).filter (reported 1 (recentTickets closedGuide everyAccount
      ⟨.epoch⟩ cutoff)) = [firstMention]) :
    (runRule everyAccount ⟨.epoch⟩ windowDays {} .knownIssuePattern).on closedGuide =
      .ok [guideAlert windowDays cutoff] := by
  have ran := @detectKnownIssuePatterns_on _ closedGuide everyAccount ⟨.epoch⟩ 1 windowDays cutoff within
  rw [entries] at ran
  exact ran

theorem week_rule : let _ := weekHost
    (runRule everyAccount ⟨.epoch⟩ 7 {} .knownIssuePattern).on closedGuide =
      .ok [guideAlert 7 weekBefore] := by
  intro _
  exact guide_rule 7 rfl (by decide +kernel)

theorem month_rule : let _ := weekHost
    (runRule everyAccount ⟨.epoch⟩ 30 {} .knownIssuePattern).on closedGuide =
      .ok [guideAlert 30 monthBefore] := by
  intro _
  exact guide_rule 30 rfl (by decide +kernel)

theorem month_only [Host] {alertType : AlertType} {alert : AlertCandidate}
    (raised : Raised closedGuide everyAccount ⟨.epoch⟩ 30 {} alertType alert) :
    alertType = .knownIssuePattern := by
  have none_open : openTickets closedGuide everyAccount ⟨.epoch⟩ = [] := rfl
  cases raised with
  | breach listed calculated raises => rw [none_open] at listed; cases listed
  | approaching listed calculated raises => rw [none_open] at listed; cases listed
  | recurring within high raises =>
      have enough := (recurringAlert_facts raises).1
      rw [recurringTickets,none_open] at enough
      cases enough
  | issue within parsed reports => rfl
  | carrier within raises => cases (carrierAlert_facts raises).1
  | overdue listed raises => cases listed

theorem week_ran : let _ := weekHost
    ∃ response, (runRadar weekRequest opsUser ⟨.epoch⟩ {} 0).on closedGuide = .ok response ∧
      response.alerts = ranking [guideAlert 7 weekBefore] := by
  intro _
  exact ⟨_,on_bind_ok.mpr ⟨_,orForbidden_ok.mpr (one_rule_ran (by decide) week_rule),rfl⟩,rfl⟩

theorem month_default : let _ := weekHost
    ∃ listed, (runOperationsRadar everyAccount ⟨.epoch⟩ none 30 {}).on closedGuide = .ok listed := by
  intro _
  refine (default_run_iff (by decide)).mpr ⟨⟨monthBefore,rfl⟩,fun ticket listed => ?_⟩
  cases listed

theorem month_produced : let _ := weekHost
    ∀ alert, RuleProduced closedGuide everyAccount ⟨.epoch⟩ none 30 {} alert →
      alert = guideAlert 30 monthBefore := by
  intro _ alert produced
  obtain ⟨listed,ran⟩ := month_default
  obtain ⟨alertType,_,raised⟩ := (produced_raised ran alert).mp produced
  cases month_only raised
  exact List.mem_singleton.mp ((runRule_raises month_rule).mpr raised)

theorem week_digests : let _ := weekHost
    DistinctDigests (ProducedByEither closedGuide everyAccount ⟨.epoch⟩ {} weekRequest) := by
  intro _ one two first second same
  have known (alert : AlertCandidate)
      (either : ProducedByEither closedGuide everyAccount ⟨.epoch⟩ {} weekRequest alert) :
      alert = guideAlert 7 weekBefore ∨ alert = guideAlert 30 monthBefore := by
    rcases either with ⟨alertType,requested,member⟩ | default
    · cases List.mem_singleton.mp requested
      rw [show weekRequest.windowDays = 7 from rfl,ruleAlerts_of week_rule] at member
      exact .inl (List.mem_singleton.mp member)
    · exact .inr (month_produced alert default)
  have apart : alertIdOf (guideAlert 7 weekBefore).fingerprintKey ≠
      alertIdOf (guideAlert 30 monthBefore).fingerprintKey := by decide +kernel
  rcases known one first with rfl | rfl <;> rcases known two second with rfl | rfl
  · rfl
  · exact absurd same apart
  · exact absurd same.symm apart
  · rfl

theorem radar_reopens_week : let _ := weekHost
    ∃ response, (runRadar weekRequest opsUser ⟨.epoch⟩ {} 0).on closedGuide = .ok response ∧
      ((∀ alert ∈ response.alerts,
          (getAlert alert.alertId opsUser ⟨.epoch⟩ {}).on closedGuide = .ok alert) ↔
        Reopenable closedGuide everyAccount ⟨.epoch⟩ {} weekRequest) := by
  intro _
  obtain ⟨response,ran,_⟩ := week_ran
  exact ⟨response,ran,radar_reopens_iff ran week_digests⟩

theorem week_alert_not_found : let _ := weekHost
    ∃ response, (runRadar weekRequest opsUser ⟨.epoch⟩ {} 0).on closedGuide = .ok response ∧
      ∃ alert ∈ response.alerts,
        (getAlert alert.alertId opsUser ⟨.epoch⟩ {}).on closedGuide ≠ .ok alert := by
  intro _
  obtain ⟨response,ran,alerts⟩ := week_ran
  obtain ⟨alert,member,_⟩ := ranking_covers (List.mem_singleton_self (guideAlert 7 weekBefore))
  refine ⟨response,ran,alert,alerts ▸ member,fun found => ?_⟩
  obtain ⟨listed,again,there⟩ := getAlert_ok.mp found
  cases List.mem_singleton.mp (ranking_found member)
  have same := month_produced _ (returned_produced again there)
  exact absurd (congrArg AlertCandidate.timeWindow same) (by decide +kernel)

end ParcelPilot
