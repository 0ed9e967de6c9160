import ParcelPilot.ServiceGuarantees
import ParcelPilot.StoredStatements

namespace ParcelPilot

open Interleaving

section Columns

variable [Formats]

-- Every statement of an action finds its match in the columns.
def Encoded (action : Action α) (post : α → Prop) : Prop :=
  sqlite3.Tracks Db.exec StoredDb.exec Encodes (ExceptT.run action) fun result =>
    ∀ value, result = .ok value → post value

def WholeInstants (record : ActionRecord) : Prop :=
  ∀ instant ∈ record.instants, IsoText.Whole instant.offset

theorem encoded_pure {value : α} {post : α → Prop} (holds : post value) :
    Encoded (pure value : Action α) post := by
  intro other same
  cases same
  exact holds

theorem encoded_throw {error : PyError} {post : α → Prop} : Encoded (throw error : Action α) post := by
  intro other same
  cases same

theorem encoded_bind {action : Action α} {rest : α → Action β} {middle : α → Prop} {post : β → Prop}
    (first : Encoded action middle) (second : ∀ value, middle value → Encoded (rest value) post) :
    Encoded (action >>= rest) post := by
  unfold Encoded at first ⊢
  rw [ExceptT.run_bind]
  apply Lowering.tracks_bind first
  intro result holds
  cases result with
  | ok value => exact second value (holds value rfl)
  | error error => exact encoded_throw (α := β)

theorem encoded_map {action : Action α} {f : α → β} (first : Encoded action fun _ => True) :
    Encoded (f <$> action) fun _ => True := by
  rw [map_eq_pure_bind]
  exact encoded_bind first fun value _ => encoded_pure trivial

omit [Formats] in
theorem plusMinutes_offset {d later : DateTime} {n : Int} (within : d.plusMinutes n = .ok later) :
    later.offset = d.offset := by
  unfold DateTime.plusMinutes at within
  cases length : timedelta (n * microsPerMinute) with
  | error error =>
      rw [length] at within
      cases within
  | ok length_ =>
      rw [length] at within
      simp only [Except.bind,DateTime.shift] at within
      split at within
      · cases within
        rfl
      · cases within

theorem encoded_raising (result : Except PyError α) :
    Encoded (raising result) fun value => result = .ok value := by
  cases result with
  | ok value => exact encoded_pure rfl
  | error error => exact encoded_throw

theorem encoded_reading (iso : ReadsIso) (query : Query α) : Encoded (reading query) fun _ => True := by
  apply Lowering.tracks_mono (Lowering.tracks_embed
    (fun select db stored encodes => matches_query iso encodes select) (ExceptT.run query))
  intros
  trivial

theorem encoded_getAction (iso : ReadsIso) (actionId : String) :
    Encoded (getAction actionId) fun found => ∀ record, found = some record → WholeInstants record := by
  intro db stored encodes
  refine ⟨matches_query iso encodes _,?_⟩
  intro found same record here
  cases same
  exact encodes.whole record (Table.row_eq_some.mp here).1

theorem encoded_insert {record : ActionRecord} (whole : WholeInstants record) :
    Encoded (insertAction record) fun _ => True := by
  intro db stored encodes
  refine ⟨matches_insert encodes whole,?_⟩
  cases (Db.exec (.insertAction record) db).1 with
  | true => exact encoded_pure trivial
  | false => exact encoded_throw (α := Unit)

omit [Formats] in
theorem settings_whole {record new : ActionRecord} {now : DateTime} (known : WholeInstants record)
    (whole : IsoText.Whole now.offset)
    (confirmed : new.confirmedAt = record.confirmedAt ∨ new.confirmedAt = some now)
    (executed : new.executedAt = record.executedAt ∨ new.executedAt = some now) :
    ∀ instant ∈ new.confirmedAt.toList ++ new.executedAt.toList, IsoText.Whole instant.offset := by
  intro instant listed
  have old : ∀ one, record.confirmedAt = some one ∨ record.executedAt = some one →
      IsoText.Whole one.offset := by
    intro one here
    apply known one
    rcases here with here | here <;> simp [ActionRecord.instants,here]
  rcases List.mem_append.mp listed with first | second
  · have set_ := Option.mem_toList.mp first
    rcases confirmed with same | fresh
    · exact old instant (.inl (same ▸ set_))
    · rw [fresh] at set_
      cases set_
      exact whole
  · have set_ := Option.mem_toList.mp second
    rcases executed with same | fresh
    · exact old instant (.inr (same ▸ set_))
    · rw [fresh] at set_
      cases set_
      exact whole

theorem encoded_save {record : ActionRecord} {expectedStatus : ActionStatus}
    (whole : ∀ instant ∈ record.confirmedAt.toList ++ record.executedAt.toList,
      IsoText.Whole instant.offset) :
    Encoded (saveActionIfStatus record expectedStatus) fun _ => True := by
  intro db stored encodes
  exact ⟨matches_update encodes whole,fun _ _ => trivial⟩

theorem encoded_prepare (iso : ReadsIso) {ticketId reason userId requestId uuidHex : String}
    {auth : AuthContext} {clock : SnapshotClock} {registry : Registry}
    (whole : IsoText.Whole clock.now.offset) :
    Encoded (prepareEscalation ticketId reason auth clock userId requestId registry uuidHex)
      fun _ => True := by
  unfold prepareEscalation
  apply encoded_bind (encoded_reading iso _)
  intro found _
  rcases found with error | ticket
  · cases error with
    | notAuthorized why => exact encoded_pure trivial
    | unknownEntity entityType entityId => exact encoded_pure trivial
    | _ => exact encoded_throw
  · dsimp only
    split
    · exact encoded_pure trivial
    · apply encoded_bind (encoded_reading iso _)
      intro slaResult _
      split
      · exact encoded_pure trivial
      · split
        · apply encoded_bind (encoded_raising _)
          intro expiresAt later
          apply encoded_bind (encoded_insert _) fun _ _ => encoded_pure trivial
          intro instant listed
          simp only [ActionRecord.instants,escalationRecord,Option.toList_none,List.append_nil,
            List.mem_cons,List.not_mem_nil,or_false] at listed
          rcases listed with rfl | rfl
          · exact whole
          · rw [plusMinutes_offset later]
            exact whole
        · exact encoded_pure trivial

theorem encoded_wrongState (iso : ReadsIso) (actionId verb : String) :
    Encoded (wrongStateOutcome actionId verb) fun _ => True := by
  unfold wrongStateOutcome
  apply encoded_bind (encoded_getAction iso actionId)
  intro found _
  cases found with
  | none => exact encoded_throw
  | some current => exact encoded_pure trivial

theorem encoded_confirm (iso : ReadsIso) {actionId payloadHash userId : String} {auth : AuthContext}
    {clock : SnapshotClock} (whole : IsoText.Whole clock.now.offset) :
    Encoded (confirmAction actionId payloadHash auth clock userId) fun _ => True := by
  unfold confirmAction
  apply encoded_bind (encoded_getAction iso actionId)
  intro found known
  cases found with
  | none => exact encoded_pure trivial
  | some record =>
      have instants := known record rfl
      dsimp only
      split
      · exact encoded_pure trivial
      · split
        · have written := @settings_whole record record.expired clock.now instants whole (.inl rfl) (.inl rfl)
          apply encoded_bind (encoded_save written)
          intro won _
          cases won with
          | true => exact encoded_pure trivial
          | false => exact encoded_wrongState iso _ _
        · split
          · exact encoded_pure trivial
          · split
            · exact encoded_pure trivial
            · apply encoded_bind (encoded_reading iso _)
              intro found _
              rcases found with error | ticket
              · cases error with
                | notAuthorized why => exact encoded_pure trivial
                | unknownEntity entityType entityId => exact encoded_pure trivial
                | _ => exact encoded_throw
              · dsimp only
                split
                · exact encoded_pure trivial
                · have written := @settings_whole record (record.confirmed clock.now) clock.now instants whole
                    (.inr rfl) (.inl rfl)
                  apply encoded_bind (encoded_save written)
                  intro won _
                  cases won with
                  | true => exact encoded_pure trivial
                  | false => exact encoded_wrongState iso _ _

theorem encoded_execute (iso : ReadsIso) {actionId : String} {clock : SnapshotClock}
    (whole : IsoText.Whole clock.now.offset) : Encoded (executeAction actionId clock) fun _ => True := by
  unfold executeAction
  apply encoded_bind (encoded_getAction iso actionId)
  intro found known
  cases found with
  | none => exact encoded_pure trivial
  | some record =>
      have instants := known record rfl
      dsimp only
      split
      · exact encoded_pure trivial
      · split
        · exact encoded_pure trivial
        · have written := @settings_whole record (record.executed clock.now) clock.now instants whole
            (.inl rfl) (.inr rfl)
          apply encoded_bind (encoded_save written)
          intro won _
          cases won with
          | true => exact encoded_pure trivial
          | false =>
              apply encoded_bind (encoded_getAction iso actionId)
              intro current _
              cases current with
              | none => exact encoded_throw
              | some current => exact encoded_pure trivial

theorem encoded_owner (iso : ReadsIso) (actionId : String) (user : DemoUser) :
    Encoded (requireOwnerOrAdmin actionId user) fun _ => True := by
  unfold requireOwnerOrAdmin
  apply encoded_bind (encoded_getAction iso actionId)
  intro found _
  cases found with
  | none => exact encoded_throw
  | some record =>
      dsimp only
      split
      · exact encoded_pure trivial
      · exact encoded_throw

theorem encoded_getOwned (iso : ReadsIso) (actionId : String) (user : DemoUser) :
    Encoded (getOwnedActionOr404 actionId user) fun _ => True := by
  unfold getOwnedActionOr404
  apply encoded_bind (encoded_getAction iso actionId)
  intro found _
  cases found with
  | none => exact encoded_throw
  | some record =>
      dsimp only
      split
      · exact encoded_pure trivial
      · exact encoded_throw

variable {service : Deployment} {start : Db}

-- The offset of the snapshot is one that `isoformat` writes in full.
def WholeClock (service : Deployment) : Prop :=
  ∀ snapshot, service.snapshotTime = .aware snapshot → IsoText.Whole snapshot.offset

omit [Formats] in
theorem wholeClock_getClock (whole : WholeClock service) {clock : SnapshotClock}
    (ticking : service.getClock = .ok clock) : IsoText.Whole clock.now.offset := by
  unfold Deployment.getClock at ticking
  split at ticking
  · cases ticking
  · cases ticking
  · cases ticking
  · rename_i snapshot stored
    cases ticking
    exact whole snapshot stored

theorem encoded_serve (iso : ReadsIso) (whole : WholeClock service) (request : Request) :
    Encoded (serve service request) fun _ => True := by
  unfold serve
  apply encoded_bind (encoded_raising _)
  intro user _
  apply encoded_bind (encoded_raising _)
  intro _ _
  have clocked {action : SnapshotClock → Action Body}
      (each : ∀ clock, IsoText.Whole clock.now.offset → Encoded (action clock) fun _ => True) :
      Encoded (raising service.getClock >>= action) fun _ => True := by
    apply encoded_bind (encoded_raising _)
    intro clock ticking
    exact each clock (wholeClock_getClock whole ticking)
  have reads {α : Type} (query : SnapshotClock → Query α) (wrap : α → Body) :
      Encoded (raising service.getClock >>= fun clock => wrap <$> reading (query clock)) fun _ => True := by
    apply clocked
    intro clock _
    apply encoded_map
    exact encoded_reading iso _
  have provided {α : Type} (query : SnapshotClock → String → Query α) (wrap : α → Body) :
      Encoded (raising service.getClock >>= fun clock => raising service.getProvider >>= fun model =>
        wrap <$> reading (query clock model)) fun _ => True := by
    apply clocked
    intro clock _
    apply encoded_bind (encoded_raising _)
    intro model _
    apply encoded_map
    exact encoded_reading iso _
  cases request.endpoint with
  | getAction actionId =>
      apply encoded_map
      exact encoded_bind (encoded_getOwned iso actionId user) fun _ _ => encoded_pure trivial
  | prepare body =>
      apply clocked
      intro clock exact_
      apply encoded_map
      exact encoded_bind (encoded_prepare iso exact_) fun _ _ => encoded_pure trivial
  | confirm body =>
      apply clocked
      intro clock exact_
      apply encoded_map
      exact encoded_bind (encoded_confirm iso exact_) fun _ _ => encoded_pure trivial
  | execute body =>
      apply clocked
      intro clock exact_
      apply encoded_map
      unfold executeRoute
      apply encoded_bind (encoded_owner iso body.actionId user)
      intro _ _
      exact encoded_bind (encoded_execute iso exact_) fun _ _ => encoded_pure trivial
  | chat body => exact provided (chat body request user) .chat
  | runRadar body =>
      exact reads (fun clock => runRadar body user clock service.registry request.latencyMs) .radar
  | getAlert alertId => exact reads (fun clock => getAlert alertId user clock service.registry) .alert

-- The service over the columns. A row that does not read back ends a request as any
-- unexpected exception does.
def storedSystem (service : Deployment) :
    System SqlStmt SqlStmt.Answer StoredDb Request HttpResponse where
  step := StoredDb.exec
  script request := (request.script service).lowered sqlite3 PyError.response
  admits _ := True
  outside _ _ := False

theorem stored_refines (iso : ReadsIso) (whole : WholeClock service) :
    Lowering.Refines sqlite3 PyError.response (serviceSystem service) (storedSystem service) Encodes where
  script _ := rfl
  admits _ := Iff.rfl
  tracks request _ := Lowering.tracks_bind (encoded_serve iso whole request) fun _ _ => trivial
  below _ changed := changed.elim
  above _ changed := changed.elim

-- Whatever requests do over the columns they do over the records, and the other way
-- round: same responses, and the rows of the same records.
theorem columns_refine (iso : ReadsIso) (whole : WholeClock service) {stored : StoredDb}
    (encodes : Encodes start stored) :
    (∀ config', Reached (storedSystem service) stored config' →
      ∃ config, Reached (serviceSystem service) start config ∧ Encodes config.store config'.store ∧
        ∀ (i : Nat) request response, config'.threads[i]? = some ⟨request,.ret response⟩ ↔
          config.threads[i]? = some ⟨request,.ret response⟩) ∧
    ∀ config, Reached (serviceSystem service) start config →
      ∃ config', Reached (storedSystem service) stored config' ∧ Encodes config.store config'.store ∧
        ∀ (i : Nat) request response, config'.threads[i]? = some ⟨request,.ret response⟩ ↔
          config.threads[i]? = some ⟨request,.ret response⟩ := by
  have refines := stored_refines iso whole
  constructor
  · intro config' path
    obtain ⟨config,above,tracked⟩ := Lowering.reached_above refines encodes path
    exact ⟨config,above,tracked.stores,fun i request response => Lowering.tracked_answer tracked⟩
  · intro config path
    obtain ⟨config',below,tracked⟩ := Lowering.reached_below refines encodes path
    exact ⟨config',below,tracked.stores,fun i request response => Lowering.tracked_answer tracked⟩

end Columns

-- Formats that read the extended form of ISO 8601 and no other.
@[reducible] def isoFormats : Formats := {asciiFormats [] [] with
  toHost := digestHost
  fromisoformat := fun text => match IsoText.isoStamp text with
    | none => .error ("Invalid isoformat string: '" ++ text ++ "'")
    | some stamp => .ok stamp }

theorem isoFormats_readsIso : @ReadsIso isoFormats := by
  intro text stamp read
  change (match IsoText.isoStamp text with
    | none => .error ("Invalid isoformat string: '" ++ text ++ "'")
    | some stamp => .ok stamp : Except String Stamp) = .ok stamp
  rw [read]

-- No action yet, and no row of one.
def storedTargeted : StoredDb := ⟨targetedDb,Table.empty⟩

theorem targeted_encodes : Encodes targetedDb storedTargeted :=
  ⟨rfl,rfl,fun _ member => absurd member (List.not_mem_nil)⟩

theorem outage_whole : WholeClock outageService := by
  intro snapshot stored
  cases stored
  decide

theorem columns_outage : let _ := isoFormats
    ∃ config, Reached (storedSystem outageService) storedTargeted config ∧
      ∃ row ∈ config.store.actions.rows, row.value "status" = some (.text "PENDING_CONFIRMATION") := by
  intro _
  obtain ⟨above,row,path,stored,pending⟩ := outage_pending
  obtain ⟨config,below,encodes,_⟩ :=
    (columns_refine isoFormats_readsIso outage_whole targeted_encodes).2 above path
  refine ⟨config,below,row.row,?_,?_⟩
  · rw [encodes.actions]
    exact List.mem_map_of_mem stored
  · rw [row_status_value,pending]
    rfl

end ParcelPilot
