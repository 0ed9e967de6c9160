import ParcelPilot.IngestedData
import ParcelPilot.RadarRequests
import ParcelPilot.TargetTexts

namespace ParcelPilot

open Fallible Interleaving

section Rules

variable [Formats] {db : Db} {auth : AuthContext} {clock : SnapshotClock} {registry : Registry}
  {windowDays : Int}

-- A rule gets through when its window begins within the calendar, and every open
-- ticket whose deadline it looks at has one that can be told.
def RuleReturns (db : Db) (auth : AuthContext) (clock : SnapshotClock) (windowDays : Int)
    (registry : Registry) : AlertType → Prop
  | .slaBreach | .slaApproaching => ∀ row, OpenTo db auth row → Evaluable db clock registry row
  | .recurringIssue => ∃ cutoff, clock.now.minusDays windowDays = .ok cutoff ∧
      ∀ row, OpenTo db auth row → cutoff ≤ row.createdAt.read clock.tz → Evaluable db clock registry row
  | .knownIssuePattern | .carrierPattern => ∃ cutoff, clock.now.minusDays windowDays = .ok cutoff
  | .overduePickup => True

theorem runRule_returns_iff (accepted : FromAcceptedTexts db.slaTargets) (held : AccountsHeld db)
    (alertType : AlertType) :
    (∃ alerts, (runRule auth clock windowDays registry alertType).on db = .ok alerts) ↔
      RuleReturns db auth clock windowDays registry alertType := by
  cases alertType with
  | slaBreach => exact detectSla_returns_iff accepted held _
  | slaApproaching => exact detectSla_returns_iff accepted held _
  | recurringIssue =>
      constructor
      · rintro ⟨alerts,ran⟩
        obtain ⟨cutoff,within,_⟩ := detectRecurringSeverity_ok.mp ran
        exact ⟨cutoff,within,(recurring_returns_iff accepted held within _).mp ⟨alerts,ran⟩⟩
      · rintro ⟨cutoff,within,evaluable⟩
        exact (recurring_returns_iff accepted held within _).mpr evaluable
  | knownIssuePattern =>
      constructor
      · rintro ⟨alerts,ran⟩
        obtain ⟨cutoff,within,_⟩ := detectKnownIssuePatterns_ok.mp ran
        exact ⟨cutoff,within⟩
      · rintro ⟨cutoff,within⟩
        exact ⟨_,detectKnownIssuePatterns_on within⟩
  | carrierPattern =>
      constructor
      · rintro ⟨alerts,ran⟩
        obtain ⟨cutoff,within,_⟩ := detectCarrierPatterns_ok.mp ran
        exact ⟨cutoff,within⟩
      · rintro ⟨cutoff,within⟩
        exact ⟨_,detectCarrierPatterns_ok.mpr ⟨cutoff,within,rfl⟩⟩
  | overduePickup => exact iff_of_true ⟨_,detectOverduePickups_on⟩ trivial

theorem radar_returns_iff (accepted : FromAcceptedTexts db.slaTargets) (held : AccountsHeld db)
    {alertTypes : Option (List AlertType)} :
    (∃ alerts, (runOperationsRadar auth clock alertTypes windowDays registry).on db = .ok alerts) ↔
      auth.role ≠ .restrictedSupport ∧ ∀ alertType ∈ requestedTypes alertTypes,
        RuleReturns db auth clock windowDays registry alertType := by
  constructor
  · rintro ⟨alerts,ran⟩
    obtain ⟨allowed,each,_⟩ := runOperationsRadar_ok.mp ran
    exact ⟨allowed,fun alertType requested =>
      (runRule_returns_iff accepted held alertType).mp (each alertType requested)⟩
  · rintro ⟨allowed,each⟩
    exact ⟨_,runOperationsRadar_ok.mpr ⟨allowed,fun alertType requested =>
      (runRule_returns_iff accepted held alertType).mpr (each alertType requested),rfl⟩⟩

theorem runRadar_returns_iff {body : RadarRequest} {user : DemoUser} {latencyMs : Rat} :
    (∃ response, (runRadar body user clock registry latencyMs).on db = .ok response) ↔
      ∃ alerts, (runOperationsRadar user.toAuthContext clock body.alertTypes body.windowDays
        registry).on db = .ok alerts := by
  constructor
  · rintro ⟨response,ran⟩
    exact ⟨response.alerts,runRadar_ok ran⟩
  · rintro ⟨alerts,ran⟩
    exact ⟨_,on_bind_ok.mpr ⟨alerts,orForbidden_ok.mpr ran,rfl⟩⟩

end Rules

section Serving

variable [Formats] {pack : SourcePack} {manifest : List ManifestEntry} {dbPath ingestedAt : String}
  {file : Option Stored} {summary : IngestSummary} {stored : Stored} {service : Deployment}
  {config : Config Stmt Stmt.Answer Db Request HttpResponse} {i : Nat} {request : Request}
  {response : HttpResponse} {body : RadarRequest} {user : DemoUser} {clock : SnapshotClock}

theorem ingested_accepted (ran : runIngest pack manifest dbPath ingestedAt file = (.ok summary,some stored)) :
    FromAcceptedTexts stored.db.slaTargets := by
  intro target member
  obtain ⟨_,_,_,_,_,_,_,rows,given,among⟩ := (ingested_coherent ran).target member
  exact (sectionTargets_held given target among).2

omit [Formats] in
theorem respond_radar {result : Except PyError RadarResponse} :
    (∃ listed, respond (result.map Body.radar) = ⟨200,.radar listed⟩) ↔ ∃ listed, result = .ok listed := by
  cases result with
  | error error =>
      refine iff_of_false ?_ (by simp)
      rintro ⟨listed,told⟩
      obtain ⟨text,detail⟩ := response_detail error
      have radar : error.response.body = .radar listed := congrArg HttpResponse.body told
      rw [detail] at radar
      cases radar
  | ok listed => exact iff_of_true ⟨listed,rfl⟩ ⟨listed,rfl⟩

-- Over what an ingest has written the radar answers with a listing exactly when the
-- rules that were asked for get through, whatever else goes on.
theorem radar_served_iff (ran : runIngest pack manifest dbPath ingestedAt file = (.ok summary,some stored))
    (path : Reached (serviceSystem service) stored.db config)
    (finished : config.threads[i]? = some ⟨request,.ret response⟩) (asked : request.endpoint = .runRadar body)
    (known : service.getCurrentUser request.xDemoUser = .ok user) (conn : service.getConn = .ok ())
    (ticking : service.getClock = .ok clock) :
    (∃ listed, response = ⟨200,.radar listed⟩) ↔
      user.role ≠ .restrictedSupport ∧ ∀ alertType ∈ requestedTypes body.alertTypes,
        RuleReturns stored.db user.toAuthContext clock body.windowDays service.registry alertType := by
  have held : AccountsHeld stored.db := (ingested_coherent ran).constrained.tickets
  have reads : ¬ request.acts service := by simp [Request.acts,Request.actionCall,asked]
  have told := (isolated_response path).2 i request response reads finished
  have served : serve service request = Body.radar <$>
      reading (runRadar body user clock service.registry request.latencyMs) := by
    unfold serve
    simp only [known,conn,asked,ticking,raising_then]
  rw [reading_alone served] at told
  have detects := @radar_returns_iff _ stored.db user.toAuthContext clock service.registry
    body.windowDays (ingested_accepted ran) held body.alertTypes
  rw [told,respond_radar,runRadar_returns_iff,detects]
  rfl

end Serving

-- The open ticket is past its deadline.
theorem northstar_radar : let _ := packFormats
    ∃ summary stored,
      runIngest northstarPack northstarManifest "db" "now" none = (.ok summary,some stored) ∧
      (everyRule.alone opsService stored.db).1.lists "TKT-104" .slaBreach = true ∧
      ∀ alertType ∈ allRules,
        RuleReturns stored.db opsUser.toAuthContext snapshotClock 30 {} alertType := by
  intro _
  obtain ⟨summary,stored,ran,_,lists⟩ := northstar_ingested
  obtain ⟨log,path⟩ := @reached_request packFormats.toHost opsService stored.db ⟨stored.db,[],[]⟩
    .initial everyRule
  obtain ⟨listing,told,_⟩ := lists_alert lists
  refine ⟨summary,stored,ran,lists,?_⟩
  exact ((@radar_served_iff packFormats northstarPack northstarManifest "db" "now" none summary stored
    opsService _ 0 everyRule _ _ opsUser snapshotClock ran path rfl rfl rfl rfl rfl).mp
      ⟨listing,told⟩).2

end ParcelPilot
