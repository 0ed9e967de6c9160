import ParcelPilot.Lowering
import ParcelPilot.ServiceRuns
import ParcelPilot.StoredActions

namespace ParcelPilot

open Interleaving

-- The primary key of a stored action
def storedKey (row : SqlRow) : Option SqlValue := row.value "action_id"

-- The database as SQLite keeps it: the actions are rows of columns. The actions of
-- `tables` are not used.
structure StoredDb where
  tables : Db
  actions : Table storedKey

-- The statements of app/actions/store.py, by the record whose values they bind, and the
-- SELECTs of the other tables
inductive SqlStmt where
  | select (query : Select)
  | selectAction (actionId : String)
  | insertAction (record : ActionRecord)
  | updateAction (record : ActionRecord) (expectedStatus : ActionStatus)

def SqlStmt.Answer : SqlStmt → Type
  | .select query => query.Answer
  | .selectAction _ => Option SqlRow
  | .insertAction _ => Bool
  | .updateAction .. => Bool

-- `WHERE action_id = ? AND status = ?`
def SqlRow.isAt (row : SqlRow) (actionId expectedStatus : String) : Bool :=
  row.value "action_id" = some (.text actionId) && row.value "status" = some (.text expectedStatus)

theorem SqlRow.value_set (row settings : SqlRow) (name : String) :
    (row.set settings).value name = (row.value name).map fun old => (settings.value name).getD old := by
  induction row with
  | nil => rfl
  | cons column rest ih =>
      obtain ⟨here,old⟩ := column
      unfold SqlRow.value SqlRow.set Py.dictGet at ih ⊢
      by_cases same : here = name
      · subst same
        simp
        rfl
      · simpa [same] using ih

theorem storedKey_set (row : SqlRow) (record : ActionRecord) :
    storedKey (row.set record.settings) = storedKey row := by
  unfold storedKey
  rw [SqlRow.value_set]
  cases row.value "action_id" <;> rfl

-- UPDATE actions SET ... WHERE action_id = ? AND status = ?
def updatedActions (actions : Table storedKey) (record : ActionRecord) (expectedStatus : ActionStatus) :
    Table storedKey :=
  actions.update (·.isAt record.actionId expectedStatus.value) (·.set record.settings)
    (storedKey_set · record)

def StoredDb.exec [Host] : (stmt : SqlStmt) → StoredDb → stmt.Answer × StoredDb
  | .select query,db => (db.tables.answer query,db)
  | .selectAction actionId,db => (db.actions.row (some (.text actionId)),db)
  | .insertAction record,db =>
      match db.actions.insert (actionColumns.zip record.values) with
      | none => (false,db)
      | some actions => (true,{db with actions := actions})
  | .updateAction record expectedStatus,db =>
      (db.actions.rows.any (·.isAt record.actionId expectedStatus.value),
        {db with actions := updatedActions db.actions record expectedStatus})

-- The rows of the records, and no others, in their order
structure Encodes (db : Db) (stored : StoredDb) : Prop where
  tables : stored.tables = {db with actions := Table.empty}
  actions : stored.actions.rows = db.actions.rows.map (·.row)
  whole : ∀ record ∈ db.actions.rows, ∀ instant ∈ record.instants, IsoText.Whole instant.offset

theorem row_key_value (record : ActionRecord) : storedKey record.row = some (.text record.actionId) := rfl

theorem row_status_value (record : ActionRecord) :
    record.row.value "status" = some (.text record.status.value) := rfl

theorem actionStatus_inj {one two : ActionStatus} : one.value = two.value ↔ one = two := by
  cases one <;> cases two <;> decide

theorem row_isAt (record : ActionRecord) (actionId : String) (status : ActionStatus) :
    record.row.isAt actionId status.value = record.isAt actionId status := by
  unfold SqlRow.isAt ActionRecord.isAt
  rw [row_status_value,show record.row.value "action_id" = some (.text record.actionId) from rfl]
  simp only [Option.some.injEq,SqlValue.text.injEq,actionStatus_inj]

theorem row_set (row record : ActionRecord) :
    row.row.set record.settings = (row.overwrite record).row := rfl

section Encoded

variable {db : Db} {stored : StoredDb} {record : ActionRecord} {status : ActionStatus}

theorem encodes_row (encodes : Encodes db stored) (actionId : String) :
    stored.actions.row (some (.text actionId)) = (db.actions.row actionId).map (·.row) := by
  unfold Table.row
  rw [encodes.actions,List.find?_map]
  congr 2
  funext record
  simp [row_key_value]

theorem encodes_insert (encodes : Encodes db stored)
    (whole : ∀ instant ∈ record.instants, IsoText.Whole instant.offset) :
    (db.actions.insert record = none ∧ stored.actions.insert record.row = none) ∨
      ∃ actions rows, db.actions.insert record = some actions ∧
        stored.actions.insert record.row = some rows ∧
        Encodes {db with actions := actions} {stored with actions := rows} := by
  have key := encodes_row encodes record.actionId
  cases present : db.actions.row record.actionId with
  | some other =>
      left
      rw [present] at key
      constructor
      · simp [Table.insert,present]
      · have taken : stored.actions.row (storedKey record.row) ≠ none := by
          rw [row_key_value,key]
          exact Option.some_ne_none _
        simp [Table.insert,taken]
  | none =>
      right
      rw [present] at key
      obtain ⟨actions,inserted⟩ := Table.insert_of_fresh present
      have absent : stored.actions.row (storedKey record.row) = none := key
      obtain ⟨rows,written⟩ := Table.insert_of_fresh absent
      refine ⟨actions,rows,inserted,written,encodes.tables,?_,?_⟩
      · change rows.rows = actions.rows.map (·.row)
        rw [Table.insert_rows written,Table.insert_rows inserted,encodes.actions,List.map_append]
        rfl
      · intro one member
        rw [Table.insert_rows inserted] at member
        rcases List.mem_append.mp member with old | new
        · exact encodes.whole one old
        · cases List.mem_singleton.mp new
          exact whole

theorem encodes_update (encodes : Encodes db stored)
    (whole : ∀ instant ∈ record.confirmedAt.toList ++ record.executedAt.toList,
      IsoText.Whole instant.offset) :
    Encodes {db with actions := savedActions db.actions record status}
      {stored with actions := updatedActions stored.actions record status} := by
  refine ⟨encodes.tables,?_,?_⟩
  · change (stored.actions.rows.map _) = (db.actions.rows.map _).map _
    rw [encodes.actions,List.map_map,List.map_map]
    apply List.map_congr_left
    intro row _
    simp only [Function.comp_apply,row_isAt]
    split
    · exact row_set row record
    · rfl
  · intro row member
    obtain ⟨old,listed,rfl⟩ := List.mem_map.mp member
    have before := encodes.whole old listed
    split
    · intro instant among
      simp only [ActionRecord.instants,ActionRecord.overwrite,List.append_assoc] at among before
      rcases List.mem_append.mp among with kept | set_
      · exact before instant (List.mem_append_left _ kept)
      · exact whole instant set_
    · exact before

theorem encodes_any (encodes : Encodes db stored) :
    stored.actions.rows.any (·.isAt record.actionId status.value) =
      db.actions.rows.any (·.isAt record.actionId status) := by
  rw [encodes.actions,List.any_map]
  congr 1
  funext row
  exact row_isAt row record.actionId status

end Encoded

def lowerSelect : Select → SqlStmt
  | .action actionId => .selectAction actionId
  | query => .select query

def lowerStmt : Stmt → SqlStmt
  | .query query => lowerSelect query
  | .insertAction record => .insertAction record
  | .saveActionIfStatus record expectedStatus => .updateAction record expectedStatus

section Columns

variable [Formats]

-- `_row_to_record(row) if row else None`; whatever an unreadable row raises is
-- answered with 500 and without its text.
def readRow : Option SqlRow → Except PyError (Option ActionRecord)
  | none => .ok none
  | some row =>
      match rowToRecord row with
      | none => .error (.valueError "unreadable row")
      | some record => .ok (some record)

def raiseSelect : (query : Select) → (lowerSelect query).Answer → Except PyError query.Answer
  | .action _,answer => readRow answer
  | .account _,answer | .accountNames,answer | .order _,answer | .orders ..,answer | .ticket _,answer
  | .tickets ..,answer | .source _,answer | .chunkPage ..,answer | .knownIssueChunks,answer
  | .slaTarget ..,answer | .search ..,answer => .ok answer

def raiseStmt : (stmt : Stmt) → (lowerStmt stmt).Answer → Except PyError stmt.Answer
  | .query query,answer => raiseSelect query answer
  | .insertAction _,answer => .ok answer
  | .saveActionIfStatus ..,answer => .ok answer

def sqlite3 : Lowering Stmt Stmt.Answer SqlStmt SqlStmt.Answer PyError := ⟨lowerStmt,raiseStmt⟩

abbrev Carried (stmt : Stmt) (db : Db) (stored : StoredDb) : Prop :=
  sqlite3.Matches Db.exec StoredDb.exec Encodes stmt db stored

variable {db : Db} {stored : StoredDb}

theorem matches_query (iso : ReadsIso) (encodes : Encodes db stored) (query : Select) :
    Carried (.query query) db stored := by
  cases query with
  | action actionId =>
      refine ⟨encodes,?_⟩
      change readRow (stored.actions.row (some (.text actionId))) = .ok (db.actions.row actionId)
      rw [encodes_row encodes]
      cases found : db.actions.row actionId with
      | none => rfl
      | some record =>
          have member := (Table.row_eq_some.mp found).1
          simp only [Option.map_some,readRow,action_columns fun instant listed =>
            readsIso_inverse iso (encodes.whole record member instant listed)]
  | _ =>
      obtain ⟨tables,rows⟩ := stored
      have same : tables = {db with actions := Table.empty} := encodes.tables
      subst same
      exact ⟨encodes,rfl⟩

theorem matches_insert {record : ActionRecord} (encodes : Encodes db stored)
    (whole : ∀ instant ∈ record.instants, IsoText.Whole instant.offset) :
    Carried (.insertAction record) db stored := by
  have columns : actionColumns.zip record.values = record.row := rfl
  rcases encodes_insert encodes whole with ⟨taken,refused⟩ | ⟨actions,rows,inserted,written,still⟩
  · have here : Db.exec (.insertAction record) db = (false,db) := by
      simp only [Db.exec,taken]
      rfl
    have there : StoredDb.exec (.insertAction record) stored = (false,stored) := by
      simp only [StoredDb.exec,columns,refused]
      rfl
    refine ⟨?_,?_⟩
    · change Encodes _ (StoredDb.exec (.insertAction record) stored).2
      rw [here,there]
      exact encodes
    · change Except.ok (StoredDb.exec (.insertAction record) stored).1 = _
      rw [here,there]
      rfl
  · have here : Db.exec (.insertAction record) db = (true,{db with actions := actions}) := by
      simp only [Db.exec,inserted]
      rfl
    have there : StoredDb.exec (.insertAction record) stored = (true,{stored with actions := rows}) := by
      simp only [StoredDb.exec,columns,written]
      rfl
    refine ⟨?_,?_⟩
    · change Encodes _ (StoredDb.exec (.insertAction record) stored).2
      rw [here,there]
      exact still
    · change Except.ok (StoredDb.exec (.insertAction record) stored).1 = _
      rw [here,there]
      rfl

theorem matches_update {record : ActionRecord} {expectedStatus : ActionStatus} (encodes : Encodes db stored)
    (whole : ∀ instant ∈ record.confirmedAt.toList ++ record.executedAt.toList,
      IsoText.Whole instant.offset) : Carried (.saveActionIfStatus record expectedStatus) db stored :=
  ⟨encodes_update encodes whole,congrArg Except.ok (encodes_any encodes)⟩

end Columns

end ParcelPilot
