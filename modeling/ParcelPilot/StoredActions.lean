import ParcelPilot.Actions
import ParcelPilot.IsoText
import ParcelPilot.Json
import ParcelPilot.StoredWorkbook

namespace ParcelPilot

def EvidenceKind.value : EvidenceKind → String
  | .document => "document"
  | .structured => "structured"
  | .calculation => "calculation"

def evidenceKinds : List EvidenceKind := [.document,.structured,.calculation]

def actionTypes : List ActionType := [.prepareEscalation]

def actionStatuses : List ActionStatus :=
  [.pendingConfirmation,.confirmed,.executed,.rejected,.expired,.failed,.cancelled]

namespace Json

def ofOptional : Option String → Json
  | none => .null
  | some text => .str text

-- `value[key]` of a dict, and what the models take for a `str`, a `str | None` and a `bool`
def get (key : String) : Json → Option Json
  | .dict entries => Py.dictGet entries key
  | _ => none

def asText : Json → Option String
  | .str value => some value
  | _ => none

def asOptional : Json → Option (Option String)
  | .null => some none
  | .str value => some (some value)
  | _ => none

def asBool : Json → Option Bool
  | .bool value => some value
  | _ => none

end Json

-- the dict that `prepare_escalation` builds
def ProposedChange.dump (change : ProposedChange) : Json := .dict [
  ("new_priority",.str change.newPriority),("previous_status",.str change.previousStatus),
  ("severity",.str change.severity),("sla_breached",.bool change.slaBreached)]

-- `e.model_dump(mode="json")`
def EvidenceRef.dump (ref : EvidenceRef) : Json := .dict [("kind",.str ref.kind.value),
  ("source_id",.str ref.sourceId),("locator",.ofOptional ref.locator),("note",.ofOptional ref.note)]

-- The columns of the actions table in app/db/schema.sql, as `insert_action` lists
-- them, and the values it binds.
def actionColumns : List String := ["action_id","request_id","user_id","action_type","target",
  "proposed_change","reason","evidence","risk","payload_hash","status","prepared_at","expires_at",
  "confirmed_at","executed_at","idempotency_key","failure_reason"]

def ActionRecord.values (record : ActionRecord) : List SqlValue := [.text record.actionId,
  .text record.requestId,.text record.userId,.text record.actionType.value,.text record.target,
  .text record.proposedChange.dump.dumps,.text record.reason,
  .text (Json.list (record.evidence.map (·.dump))).dumps,.text record.risk,.text record.payloadHash,
  .text record.status.value,.ofInstant record.preparedAt,.ofInstant record.expiresAt,
  .ofInstantOptional record.confirmedAt,.ofInstantOptional record.executedAt,
  .text record.idempotencyKey,.ofOptional record.failureReason]

def ActionRecord.row (record : ActionRecord) : SqlRow := actionColumns.zip record.values

-- What the UPDATE of `save_action_if_status` sets, in its order.
def ActionRecord.settings (record : ActionRecord) : SqlRow := [("status",.text record.status.value),
  ("confirmed_at",.ofInstantOptional record.confirmedAt),
  ("executed_at",.ofInstantOptional record.executedAt),
  ("failure_reason",.ofOptional record.failureReason)]

-- A column that is set takes the new value.
def SqlRow.set (row settings : SqlRow) : SqlRow :=
  row.map fun column => (column.1,(settings.value column.1).getD column.2)

-- `EvidenceRef(**e)`: a locator or a note may be missing.
def evidenceRef (e : Json) : Option EvidenceRef := do
  let kind ← (← e.get "kind").asText
  pure {
    kind := ← evidenceKinds.find? fun known => known.value = kind
    sourceId := ← (← e.get "source_id").asText
    locator := ← ((e.get "locator").getD .null).asOptional
    note := ← ((e.get "note").getD .null).asOptional }

-- A dict of the one shape `proposed_change` is given
def proposedChange (dict : Json) : Option ProposedChange := do
  pure {
    newPriority := ← (← dict.get "new_priority").asText
    previousStatus := ← (← dict.get "previous_status").asText
    severity := ← (← dict.get "severity").asText
    slaBreached := ← (← dict.get "sla_breached").asBool }

def Json.items : Json → Option (List Json)
  | .list items => some items
  | _ => none

theorem proposedChange_dump (change : ProposedChange) : proposedChange change.dump = some change := rfl

theorem evidenceRef_dump (ref : EvidenceRef) : evidenceRef ref.dump = some ref := by
  obtain ⟨kind,sourceId,locator,note⟩ := ref
  cases kind <;> cases locator <;> cases note <;> rfl

theorem evidence_dumps (evidence : List EvidenceRef) :
    evidence.mapM (evidenceRef ∘ (·.dump)) = some evidence := by
  induction evidence with
  | nil => rfl
  | cons ref rest ih =>
      rw [List.mapM_cons,ih,Function.comp_apply,evidenceRef_dump]
      rfl

theorem change_keyed (change : ProposedChange) : change.dump.Keyed := by
  simp [ProposedChange.dump,Json.Keyed,Json.KeyedEntries]

theorem evidence_keyed (evidence : List EvidenceRef) : (Json.list (evidence.map (·.dump))).Keyed := by
  change Json.KeyedItems (evidence.map (·.dump))
  induction evidence with
  | nil => trivial
  | cons ref rest ih =>
      refine ⟨?_,ih⟩
      obtain ⟨kind,sourceId,locator,note⟩ := ref
      cases locator <;> cases note <;>
        simp [EvidenceRef.dump,Json.ofOptional,Json.Keyed,Json.KeyedEntries]

theorem asMember_action (status : ActionStatus) :
    (SqlValue.text status.value).asMember actionStatuses ActionStatus.value = some status := by
  cases status <;> decide

theorem asMember_actionType (kind : ActionType) :
    (SqlValue.text kind.value).asMember actionTypes ActionType.value = some kind := by
  cases kind
  decide

theorem isoformat_nonempty (instant : DateTime) : (SqlValue.ofInstant instant).truthy = true := by
  unfold SqlValue.ofInstant SqlValue.truthy
  simp only [bne_iff_ne]
  intro empty
  have length := congrArg String.length empty
  simp [DateTime.isoformat,isoLocal,isoDate] at length

section Columns

variable [Formats]

-- `datetime.fromisoformat(value)`, and of an empty column nothing
def storedInstant : SqlValue → Option DateTime
  | .text text =>
      match Formats.fromisoformat text with
      | .ok ⟨wall,some offset,inRange⟩ => some ⟨wall,offset,inRange⟩
      | _ => none
  | _ => none

def storedInstantOptional (value : SqlValue) : Option (Option DateTime) :=
  if value.truthy then (storedInstant value).map some else some none

-- `_row_to_record`
def rowToRecord (row : SqlRow) : Option ActionRecord := do
  pure {
    actionId := ← (← row.value "action_id").asText
    requestId := ← (← row.value "request_id").asText
    userId := ← (← row.value "user_id").asText
    actionType := ← (← row.value "action_type").asMember actionTypes ActionType.value
    target := ← (← row.value "target").asText
    proposedChange := ← proposedChange (← Json.loads (← (← row.value "proposed_change").asText))
    reason := ← (← row.value "reason").asText
    evidence := ← (← (← Json.loads (← (← row.value "evidence").asText)).items).mapM evidenceRef
    risk := ← (← row.value "risk").asText
    payloadHash := ← (← row.value "payload_hash").asText
    status := ← (← row.value "status").asMember actionStatuses ActionStatus.value
    preparedAt := ← storedInstant (← row.value "prepared_at")
    expiresAt := ← storedInstant (← row.value "expires_at")
    confirmedAt := ← storedInstantOptional (← row.value "confirmed_at")
    executedAt := ← storedInstantOptional (← row.value "executed_at")
    idempotencyKey := ← (← row.value "idempotency_key").asText
    failureReason := ← (← row.value "failure_reason").asOptional }

-- What is read of the extended format holds of `fromisoformat`.
def ReadsIso : Prop :=
  ∀ text stamp, IsoText.isoStamp text = some stamp → Formats.fromisoformat text = .ok stamp

theorem readsIso_inverse (iso : ReadsIso) {instant : DateTime} (whole : IsoText.Whole instant.offset) :
    IsoInverse instant := iso _ _ (IsoText.isoStamp_isoformat whole)

theorem storedInstant_ofInstant {instant : DateTime} (inverse : IsoInverse instant) :
    storedInstant (.ofInstant instant) = some instant := by
  unfold storedInstant SqlValue.ofInstant
  dsimp only
  rw [inverse]
  rfl

theorem storedInstant_ofInstantOptional {instant : Option DateTime}
    (inverse : ∀ known ∈ instant, IsoInverse known) :
    storedInstantOptional (.ofInstantOptional instant) = some instant := by
  cases instant with
  | none => rfl
  | some known =>
      change (if (SqlValue.ofInstant known).truthy then
        (storedInstant (.ofInstant known)).map some else some none) = _
      rw [if_pos (isoformat_nonempty known),storedInstant_ofInstant (inverse known rfl)]
      rfl

def ActionRecord.instants (record : ActionRecord) : List DateTime :=
  [record.preparedAt,record.expiresAt] ++ record.confirmedAt.toList ++ record.executedAt.toList

theorem action_columns {record : ActionRecord} (inverse : ∀ instant ∈ record.instants, IsoInverse instant) :
    rowToRecord record.row = some record := by
  have prepared := storedInstant_ofInstant (inverse record.preparedAt (by simp [ActionRecord.instants]))
  have expires := storedInstant_ofInstant (inverse record.expiresAt (by simp [ActionRecord.instants]))
  have confirmed := @storedInstant_ofInstantOptional _ record.confirmedAt
    fun known here => inverse known (by simp [ActionRecord.instants,Option.mem_def.mp here])
  have executed := @storedInstant_ofInstantOptional _ record.executedAt
    fun known here => inverse known (by simp [ActionRecord.instants,Option.mem_def.mp here])
  have change := Json.loads_dumps (change_keyed record.proposedChange)
  have evidence := Json.loads_dumps (evidence_keyed record.evidence)
  simp [rowToRecord,ActionRecord.row,actionColumns,ActionRecord.values,SqlRow.value,Py.dictGet,
    SqlValue.asText,prepared,expires,confirmed,executed,change,evidence,proposedChange_dump,
    asMember_action,asMember_actionType,Json.items,evidence_dumps]

end Columns

end ParcelPilot
