import ParcelPilot.SlaTable
import ParcelPilot.SourceMetadata
import ParcelPilot.Transaction
import ParcelPilot.Workbook

namespace ParcelPilot

-- A file of the pack, as far as the libraries can read it.
structure SourceFile where
  sha256 : Except String String
  bytes : Nat
  pages : Except String (List String)
  workbook : Except String Workbook

structure SourcePack where
  path : String
  isDir : Bool
  files : String → Option SourceFile

-- What the pipeline has parsed and checked when it turns to the database.
structure Prepared where
  sources : List (String × SourceDocument)
  chunks : List DocumentChunk
  slaTargets : List SlaTarget
  workbook : WorkbookData
deriving DecidableEq

-- `entry["filename"].endswith(suffix)`
def ManifestEntry.endsWith (suffix : String) (entry : ManifestEntry) : Bool :=
  suffix.toList.isSuffixOf entry.filename.toList

-- `filepath.name`
def baseName (path : String) : String :=
  String.ofList (path.toList.reverse.takeWhile (· ≠ '/')).reverse

-- `next(...)`
def firstOf : List α → Ingest α
  | [] => .error .stopIteration
  | item :: _ => .ok item

section Prepare

variable [Formats]

-- scripts/ingest_sources.py; each entry goes on with its file.
def validateFilesPresent (pack : SourcePack) (manifest : List ManifestEntry) :
    Ingest (List (ManifestEntry × SourceFile)) :=
  if !pack.isDir then .error (.sourceDirectoryNotFound pack.path)
  else manifest.mapM fun entry =>
    match pack.files entry.filename with
    | none => .error (.missingSourceFile entry.filename pack.path)
    | some file => .ok (entry,file)

def verifyChecksum (entry : ManifestEntry) (file : SourceFile) : Ingest String :=
  match file.sha256 with
  | .error message => .error (.library message)
  | .ok actual =>
      if actual ≠ entry.sha256 then
        .error (.checksumMismatch (baseName entry.filename) entry.sha256 actual)
      else .ok actual

def sectionTargets (source : SourceDocument) (section_ : ParsedSection) : Ingest (List SlaTarget) :=
  if Py.occursIn "response targets" (Host.lower section_.title) then
    parseGridTable section_.body source.sourceId
  else if section_.title = "Support terms" ∧ source.scope.kind = .account then
    match source.scope.accountId with
    | none => .error (.raised .assertionError)
    | some accountId => parseBulletTargets section_.body source.sourceId accountId
  else .ok []

def extractSlaTargets (source : SourceDocument) (pages : List ParsedPage) : Ingest (List SlaTarget) := do
  let found ← (pages.flatMap (·.sections)).mapM (sectionTargets source)
  pure found.flatten

-- The pages and the checksum of every source, each a dict by source id.
def parseSources (pdfs : List (ManifestEntry × SourceFile)) :
    Ingest (List (String × List ParsedPage) × List (String × String)) :=
  pdfs.foldlM (fun (pages,checksums) (entry,file) => do
    let checksum ← verifyChecksum entry file
    let parsed ← parsePdf (baseName entry.filename) file.pages
    pure (Py.dictSet pages entry.sourceId parsed,Py.dictSet checksums entry.sourceId checksum)) ([],[])

-- `pages[0]`
def firstPage (pages : List ParsedPage) : Ingest ParsedPage :=
  match pages with
  | [] => .error (.library "list index out of range")
  | page :: _ => .ok page

def buildSources (pages : List (String × List ParsedPage)) (checksums : List (String × String))
    (pdfs : List (ManifestEntry × SourceFile)) : Ingest (List (String × SourceDocument)) :=
  pdfs.foldlM (fun sources (entry,file) => do
    let page ← firstPage (← subscript pages entry.sourceId)
    let checksum ← subscript checksums entry.sourceId
    let source ← buildSourceDocument entry.sourceId entry.filename page checksum file.bytes entry
    pure (Py.dictSet sources entry.sourceId source)) []

def openWorkbook (entry : ManifestEntry) (file : SourceFile) : Ingest WorkbookData := do
  let _ ← verifyChecksum entry file
  match file.workbook with
  | .error message => throw (.library message)
  | .ok book => loadWorkbook book

-- Everything `ingest` does before it opens the database.
def prepareSources (pack : SourcePack) (manifest : List ManifestEntry) : Ingest Prepared := do
  let manifestById := manifest.foldl (fun byId entry => Py.dictSet byId entry.sourceId entry) []
  let _ ← firstOf (manifest.filter (·.endsWith ".xlsx"))
  let present ← validateFilesPresent pack manifest
  let pdfs := present.filter (·.1.endsWith ".pdf")
  let (pagesById,checksums) ← parseSources pdfs
  let built ← buildSources pagesById checksums pdfs
  let firstPages ← pagesById.mapM fun (sourceId,pages) => do
    let page ← firstPage pages
    pure (sourceId,page)
  let sources ← resolveSupersession built firstPages manifestById
  let extracted ← sources.mapM fun (sourceId,source) => do
    let pages ← subscript pagesById sourceId
    let targets ← extractSlaTargets source pages
    pure (buildChunks source pages,targets)
  let (xlsxEntry,xlsxFile) ← firstOf (present.filter (·.1.endsWith ".xlsx"))
  let workbook ← openWorkbook xlsxEntry xlsxFile
  pure ⟨sources,extracted.flatMap (·.1),extracted.flatMap (·.2),workbook⟩

end Prepare

-- The whole database, with the table no reader of the model asks for.
structure Stored where
  db : Db
  metaRows : Table (Prod.fst : String × String → String)

def Stored.empty : Stored := ⟨Db.empty,Table.empty⟩

-- `isoformat()` keeps the offset: read back, a stamp is the datetime it was.
def DateTime.stamp (d : DateTime) : Stamp := ⟨d.wall,some d.offset,d.inRange⟩

def Order.toRow (order : Order) : OrderRow where
  orderId := order.orderId
  accountId := order.accountId
  carrier := order.carrier
  status := order.status
  bookedAt := order.bookedAt.stamp
  pickupWindowStart := order.pickupWindowStart.stamp
  pickupWindowEnd := order.pickupWindowEnd.stamp
  pickupActualAt := order.pickupActualAt.map (·.stamp)
  shipmentFeeInr := order.shipmentFeeInr
  carrierFault := order.carrierFault
  customerFault := order.customerFault
  cancellationRequestedAt := order.cancellationRequestedAt.map (·.stamp)
  notes := order.notes

def Ticket.toRow (ticket : Ticket) : TicketRow where
  ticketId := ticket.ticketId
  accountId := ticket.accountId
  createdAt := ticket.createdAt.stamp
  status := ticket.status
  subject := ticket.subject
  description := ticket.description
  channel := ticket.channel
  assignedTo := ticket.assignedTo
  lastCustomerMessageAt := ticket.lastCustomerMessageAt.stamp
  historicalResolution := ticket.historicalResolution

theorem order_round_trip (order : Order) (tz : Int) : order.toRow.toOrder tz = order := by
  cases order with
  | mk orderId accountId carrier status bookedAt start end_ actual fee carrierFault customerFault
      requested notes =>
      cases actual <;> cases requested <;> rfl

theorem ticket_round_trip (ticket : Ticket) (tz : Int) : ticket.toRow.toTicket tz = ticket := rfl

-- One INSERT.
inductive Row where
  | source (source : SourceDocument)
  | chunk (chunk : DocumentChunk)
  | slaTarget (target : SlaTarget)
  | account (account : Account)
  | order (order : Order)
  | ticket (ticket : Ticket)
  | entry (key value : String)

def uniqueFailed (columns : String) : IngestError :=
  .raised (.integrityError ("UNIQUE constraint failed: " ++ columns))

def notNullFailed (column : String) : IngestError :=
  .raised (.integrityError ("NOT NULL constraint failed: " ++ column))

def foreignKeyFailed : IngestError := .raised (.integrityError "FOREIGN KEY constraint failed")

-- An integer column holds 64 bits.
def bindInt (value : Int) : Ingest Unit :=
  if value < -2 ^ 63 ∨ 2 ^ 63 ≤ value then
    .error (.raised (.overflowError "Python int too large to convert to SQLite INTEGER"))
  else .ok ()

-- A NaN is bound as NULL.
def bindFloat (column : String) (value : PyFloat) : Ingest Unit :=
  if value = .nan then .error (notNullFailed column) else .ok ()

def keyedInsert [DecidableEq κ] {key : ρ → κ} (columns : String) (table : Table key) (row : ρ) :
    Ingest (Table key) :=
  match table.insert row with
  | none => .error (uniqueFailed columns)
  | some after => .ok after

-- `idx_sla_targets_identity`
def SlaTarget.identity (target : SlaTarget) : String × String × String × String :=
  (target.sourceId,target.severity,target.plan.getD "",target.accountId.getD "")

def references (parent : Option ρ) : Ingest Unit :=
  match parent with
  | none => .error foreignKeyFailed
  | some _ => .ok ()

-- The constraints of app/db/schema.sql: the columns, then the keys, then the references.
def insertRow : Row → Stored → Ingest Stored
  | .source source,stored => do
      bindInt source.bytes
      let sources ← keyedInsert "sources.source_id" stored.db.sources source
      pure {stored with db := {stored.db with sources := sources}}
  | .chunk chunk,stored => do
      bindInt chunk.page
      if chunk.chunkId ∈ stored.db.documentChunks.map (·.chunkId) then
        throw (uniqueFailed "document_chunks.chunk_id")
      references (stored.db.sources.row chunk.sourceId)
      pure {stored with db := {stored.db with documentChunks := stored.db.documentChunks ++ [chunk]}}
  | .slaTarget target,stored => do
      bindInt (target.targetMinutes.getD 0)
      if target.identity ∈ stored.db.slaTargets.map (·.identity) then
        throw (uniqueFailed "index 'idx_sla_targets_identity'")
      references (stored.db.sources.row target.sourceId)
      pure {stored with db := {stored.db with slaTargets := stored.db.slaTargets ++ [target]}}
  | .account account,stored => do
      let accounts ← keyedInsert "accounts.account_id" stored.db.accounts account
      pure {stored with db := {stored.db with accounts := accounts}}
  | .order order,stored => do
      bindFloat "orders.shipment_fee_inr" order.shipmentFeeInr
      let orders ← keyedInsert "orders.order_id" stored.db.orders order.toRow
      references (stored.db.accounts.row order.accountId)
      pure {stored with db := {stored.db with orders := orders}}
  | .ticket ticket,stored => do
      let tickets ← keyedInsert "tickets.ticket_id" stored.db.tickets ticket.toRow
      references (stored.db.accounts.row ticket.accountId)
      pure {stored with db := {stored.db with tickets := tickets}}
  | .entry key value,stored => do
      let metaRows ← keyedInsert "meta.key" stored.metaRows (key,value)
      pure {stored with metaRows := metaRows}

-- What a row adds to the accounts, the orders and the tickets
def Row.accounts : Row → List Account
  | .account holder => [holder]
  | _ => []

def Row.orders : Row → List OrderRow
  | .order placed => [placed.toRow]
  | _ => []

def Row.tickets : Row → List TicketRow
  | .ticket opened => [opened.toRow]
  | _ => []

-- The records of the workbook among the stored ones.
def Stored.records (stored : Stored) : List Account × List OrderRow × List TicketRow :=
  (stored.db.accounts.rows,stored.db.orders.rows,stored.db.tickets.rows)

theorem keyedInsert_rows [DecidableEq κ] {key : ρ → κ} {columns : String} {table after : Table key}
    {row : ρ} (inserted : keyedInsert columns table row = .ok after) :
    after.rows = table.rows ++ [row] := by
  unfold keyedInsert at inserted
  split at inserted
  · cases inserted
  · rename_i grown made
    cases inserted
    exact Table.insert_rows made

theorem insertRow_records {row : Row} {seen after : Stored} (inserted : insertRow row seen = .ok after) :
    after.records = (seen.db.accounts.rows ++ row.accounts,seen.db.orders.rows ++ row.orders,
      seen.db.tickets.rows ++ row.tickets) := by
  unfold insertRow at inserted
  cases row with
  | source source =>
      obtain ⟨_,_,inserted⟩ := except_bind_ok.mp inserted
      obtain ⟨sources,_,inserted⟩ := except_bind_ok.mp inserted
      cases inserted
      simp [Stored.records,Row.accounts,Row.orders,Row.tickets]
  | chunk chunk =>
      obtain ⟨_,_,inserted⟩ := except_bind_ok.mp inserted
      dsimp only at inserted
      split at inserted
      · cases inserted
      · obtain ⟨_,_,inserted⟩ := except_bind_ok.mp inserted
        cases inserted
        simp [Stored.records,Row.accounts,Row.orders,Row.tickets]
  | slaTarget target =>
      obtain ⟨_,_,inserted⟩ := except_bind_ok.mp inserted
      dsimp only at inserted
      split at inserted
      · cases inserted
      · obtain ⟨_,_,inserted⟩ := except_bind_ok.mp inserted
        cases inserted
        simp [Stored.records,Row.accounts,Row.orders,Row.tickets]
  | account account =>
      obtain ⟨accounts,kept,inserted⟩ := except_bind_ok.mp inserted
      cases inserted
      simp [Stored.records,Row.accounts,Row.orders,Row.tickets,keyedInsert_rows kept]
  | order order =>
      obtain ⟨_,_,inserted⟩ := except_bind_ok.mp inserted
      obtain ⟨orders,kept,inserted⟩ := except_bind_ok.mp inserted
      obtain ⟨_,_,inserted⟩ := except_bind_ok.mp inserted
      cases inserted
      simp [Stored.records,Row.accounts,Row.orders,Row.tickets,keyedInsert_rows kept]
  | ticket ticket =>
      obtain ⟨tickets,kept,inserted⟩ := except_bind_ok.mp inserted
      obtain ⟨_,_,inserted⟩ := except_bind_ok.mp inserted
      cases inserted
      simp [Stored.records,Row.accounts,Row.orders,Row.tickets,keyedInsert_rows kept]
  | entry key value =>
      obtain ⟨metaRows,_,inserted⟩ := except_bind_ok.mp inserted
      cases inserted
      simp [Stored.records,Row.accounts,Row.orders,Row.tickets]

theorem bindFloat_ok {column : String} {value : PyFloat} :
    bindFloat column value = .ok () ↔ value ≠ .nan := by
  unfold bindFloat
  split <;> simp_all

theorem insertRow_fees {row : Row} {seen after : Stored} (inserted : insertRow row seen = .ok after) :
    ∀ placed ∈ row.orders, placed.shipmentFeeInr ≠ .nan := by
  cases row with
  | order order =>
      obtain ⟨_,bound,_⟩ := except_bind_ok.mp inserted
      intro placed listed
      cases List.mem_singleton.mp listed
      exact bindFloat_ok.mp bound
  | _ =>
      intro placed listed
      cases listed

def sqlite : Engine Stored Row IngestError where
  fresh := .empty
  add := insertRow
  tableExists := .library "table meta already exists"
  noSuchTable := .library "no such table"

-- `_write_db`: the rows in the order of its loops.
def rowsToWrite (prepared : Prepared) (ingestedAt : String) : List Row :=
  prepared.sources.map (fun source => Row.source source.2) ++ prepared.chunks.map Row.chunk ++
    prepared.slaTargets.map Row.slaTarget ++ prepared.workbook.accounts.map Row.account ++
    prepared.workbook.orders.map Row.order ++ prepared.workbook.tickets.map Row.ticket ++
    [Row.entry "snapshot_time" prepared.workbook.snapshot.isoformat,
      Row.entry "currency" prepared.workbook.currency,Row.entry "ingested_at" ingestedAt]

section Written

variable {prepared : Prepared} {ingestedAt : String} {stored : Stored}

theorem none_added {α τ : Type} (items : List α) : items.flatMap (fun _ => ([] : List τ)) = [] :=
  List.flatMap_eq_nil_iff.mpr fun _ _ => rfl

theorem written_accounts
    (written : sqlite.addAll (rowsToWrite prepared ingestedAt) Stored.empty = .ok stored) :
    stored.db.accounts.rows = prepared.workbook.accounts := by
  have appended := sqlite.addAll_appends (fun stored => stored.db.accounts.rows) Row.accounts
    (fun _ _ _ inserted => (Prod.mk.inj (insertRow_records inserted)).1) written
  rw [appended]
  simp [rowsToWrite,Row.accounts,Stored.empty,Db.empty,Table.empty,List.flatMap_map,none_added]

theorem written_orders
    (written : sqlite.addAll (rowsToWrite prepared ingestedAt) Stored.empty = .ok stored) :
    stored.db.orders.rows = prepared.workbook.orders.map Order.toRow := by
  have appended := sqlite.addAll_appends (fun stored => stored.db.orders.rows) Row.orders
    (fun _ _ _ inserted => (Prod.mk.inj (Prod.mk.inj (insertRow_records inserted)).2).1) written
  rw [appended,List.map_eq_flatMap]
  simp [rowsToWrite,Row.orders,Stored.empty,Db.empty,Table.empty,List.flatMap_map,none_added]

theorem written_tickets
    (written : sqlite.addAll (rowsToWrite prepared ingestedAt) Stored.empty = .ok stored) :
    stored.db.tickets.rows = prepared.workbook.tickets.map Ticket.toRow := by
  have appended := sqlite.addAll_appends (fun stored => stored.db.tickets.rows) Row.tickets
    (fun _ _ _ inserted => (Prod.mk.inj (Prod.mk.inj (insertRow_records inserted)).2).2) written
  rw [appended,List.map_eq_flatMap]
  simp [rowsToWrite,Row.tickets,Stored.empty,Db.empty,Table.empty,List.flatMap_map,none_added]

theorem written_fees
    (written : sqlite.addAll (rowsToWrite prepared ingestedAt) Stored.empty = .ok stored) :
    ∀ order ∈ prepared.workbook.orders, order.shipmentFeeInr ≠ .nan := by
  have known : ∀ row ∈ stored.db.orders.rows, row.shipmentFeeInr ≠ .nan := by
    refine @Engine.addAll_keeps _ _ _ _ (fun seen => ∀ row ∈ seen.db.orders.rows,
      row.shipmentFeeInr ≠ .nan) _ _ _ ?_ ?_ written
    · intro placed listed
      cases listed
    intro row seen after held inserted placed listed
    rw [(Prod.mk.inj (Prod.mk.inj (insertRow_records inserted)).2).1] at listed
    rcases List.mem_append.mp listed with before | added
    · exact held placed before
    · exact insertRow_fees inserted placed added
  intro order listed
  refine known order.toRow ?_
  rw [written_orders written]
  exact List.mem_map_of_mem listed

theorem written_order {order : Order}
    (written : sqlite.addAll (rowsToWrite prepared ingestedAt) Stored.empty = .ok stored)
    (listed : order ∈ prepared.workbook.orders) :
    stored.db.orders.row order.orderId = some order.toRow := by
  rw [Table.row_eq_some,written_orders written]
  exact ⟨List.mem_map_of_mem listed,rfl⟩

end Written

abbrev IngestScript (α : Type) := DiskScript IngestError Row α

-- app/db/connection.py
def initDb : IngestScript Unit := do
  if ← DiskScript.present then
    DiskScript.unlink
  DiskScript.executescript
  DiskScript.commit

def writeDb (prepared : Prepared) (ingestedAt : String) : IngestScript Unit := do
  DiskScript.insertAll (rowsToWrite prepared ingestedAt)
  DiskScript.commit

theorem initDb_fresh (file : Option Stored) :
    Fallible.perform sqlite.step initDb ⟨file,none⟩ = (.ok (),⟨some Stored.empty,none⟩) := by
  cases file <;> rfl

structure IngestSummary where
  dbPath : String
  sources : Nat
  chunks : Nat
  slaTargets : Nat
  accounts : Nat
  orders : Nat
  tickets : Nat
  snapshot : String
deriving DecidableEq,Repr

def Prepared.summary (prepared : Prepared) (dbPath : String) : IngestSummary where
  dbPath := dbPath
  sources := prepared.sources.length
  chunks := prepared.chunks.length
  slaTargets := prepared.slaTargets.length
  accounts := prepared.workbook.accounts.length
  orders := prepared.workbook.orders.length
  tickets := prepared.workbook.tickets.length
  snapshot := prepared.workbook.snapshot.isoformat

section Run

variable [Formats]

def ingest (pack : SourcePack) (manifest : List ManifestEntry) (dbPath ingestedAt : String) :
    IngestScript IngestSummary := do
  let prepared ← DiskScript.orFail (prepareSources pack manifest)
  initDb
  writeDb prepared ingestedAt
  pure (prepared.summary dbPath)

-- A run from a database file (or none), with what a later connection finds.
def runIngest (pack : SourcePack) (manifest : List ManifestEntry) (dbPath ingestedAt : String)
    (file : Option Stored) : Ingest IngestSummary × Option Stored :=
  let (result,disk) := Fallible.perform sqlite.step (ingest pack manifest dbPath ingestedAt) ⟨file,none⟩
  (result,disk.file)

theorem runIngest_cases (pack : SourcePack) (manifest : List ManifestEntry)
    (dbPath ingestedAt : String) (file : Option Stored) :
    runIngest pack manifest dbPath ingestedAt file =
      match prepareSources pack manifest with
      | .error error => (.error error,file)
      | .ok prepared =>
          match sqlite.addAll (rowsToWrite prepared ingestedAt) Stored.empty with
          | .error error => (.error error,some Stored.empty)
          | .ok stored => (.ok (prepared.summary dbPath),some stored) := by
  unfold runIngest ingest
  rw [Fallible.perform_bind,DiskScript.perform_orFail]
  cases prepareSources pack manifest with
  | error error => rfl
  | ok prepared =>
      dsimp only
      rw [Fallible.perform_bind,initDb_fresh]
      dsimp only
      unfold writeDb
      have open_ : Disk.contents ⟨some Stored.empty,none⟩ = some Stored.empty := rfl
      cases added : sqlite.addAll (rowsToWrite prepared ingestedAt) Stored.empty with
      | error error =>
          obtain ⟨pending,ran⟩ := DiskScript.insertAll_refused open_ added
          rw [Fallible.perform_bind,Fallible.perform_bind,ran]
      | ok stored =>
          obtain ⟨pending,ran,seen⟩ := DiskScript.insertAll_added open_ added
          rw [Fallible.perform_bind,Fallible.perform_bind,ran]
          dsimp only
          rw [DiskScript.perform_commit,seen]
          rfl

-- A failure before the database is opened leaves it alone; a row that is refused
-- leaves the schema alone, with neither the old rows nor the new.
theorem failed_ingest (raised : runIngest pack manifest dbPath ingestedAt file = (.error error,after)) :
    (prepareSources pack manifest = .error error ∧ after = file) ∨
      (∃ prepared, prepareSources pack manifest = .ok prepared ∧
        sqlite.addAll (rowsToWrite prepared ingestedAt) Stored.empty = .error error ∧
        after = some Stored.empty) := by
  rw [runIngest_cases] at raised
  cases parsed : prepareSources pack manifest with
  | error failure =>
      rw [parsed] at raised
      cases raised
      exact .inl ⟨rfl,rfl⟩
  | ok prepared =>
      rw [parsed] at raised
      dsimp only at raised
      cases added : sqlite.addAll (rowsToWrite prepared ingestedAt) Stored.empty with
      | error failure =>
          rw [added] at raised
          cases raised
          exact .inr ⟨prepared,rfl,added,rfl⟩
      | ok stored =>
          rw [added] at raised
          cases raised

end Run

-- A pack of one workbook that lists an order twice.
def workbookEntry : ManifestEntry where
  sourceId := "SRC-07"
  filename := "data.xlsx"
  sourceType := .structuredData
  status := "CURRENT"
  effectiveDate := "2026-08-16"
  authorityClass := .structured
  checksum := "sha256:ab"
  provenance := ""

def orderCells (carrierFault customerFault : Cell) : List Cell := [.str "ORD-1",.str "ACCT-001",
  .str "Acme",.str "BOOKED",.str "t",.str "t",.str "t",.blank,.int 100,carrierFault,customerFault,
  .blank,.blank]

def orderHeader : List Cell := [.str "order_id",.str "account_id",.str "carrier",.str "status",
  .str "booked_at",.str "pickup_window_start",.str "pickup_window_end",.str "pickup_actual_at",
  .str "shipment_fee_inr",.str "carrier_fault",.str "customer_fault",
  .str "cancellation_requested_at",.str "notes"]

def accountHeader : List Cell := [.str "account_id",.str "account_name",.str "plan",.str "status",
  .str "csm",.str "contract_file",.str "premium_support",.str "notes"]

def accountCells : List Cell := [.str "ACCT-001",.str "One",.str "Growth",.str "active",.str "C",
  .blank,.bool false,.blank]

def bookOf (orders : List (List Cell)) : Workbook := ⟨[
  ("README",[[.str "Dataset snapshot",.str "2026-08-16 10:00 Asia/Kolkata"]]),
  ("accounts",[accountHeader,accountCells]),("orders",orderHeader :: orders),
  ("tickets",[[.str "ticket_id"]])]⟩

def packOf (book : Workbook) : SourcePack where
  path := "pack"
  isDir := true
  files := fun filename => if filename = "data.xlsx" then
    some ⟨.ok "ab",0,.error "not a PDF",.ok book⟩ else none

def bookStamps : List (String × Stamp) := [("2026-08-16T10:00",Stamp.epoch),("t",Stamp.epoch)]

def twiceListed : SourcePack := packOf (bookOf
  [orderCells (.bool true) (.bool false),orderCells (.bool true) (.bool false)])

def listedTwice : IngestError := uniqueFailed "orders.order_id"

def oldAccount : Account := ⟨"ACCT-009","Old","Growth","active","C",none,false,""⟩

def oldStored : Stored := ⟨{Db.empty with accounts := ⟨[oldAccount],by simp⟩},Table.empty⟩

-- The pack is read in full; the second order is refused after the old file is gone.
theorem twice_listed_raises : let _ := asciiFormats bookStamps []
    runIngest twiceListed [workbookEntry] "db" "now" (some oldStored) =
      (.error listedTwice,some Stored.empty) := by
  intro _
  obtain ⟨prepares,told⟩ : (prepareSources twiceListed [workbookEntry]).map (fun _ => ()) = .ok () ∧
      (runIngest twiceListed [workbookEntry] "db" "now" (some oldStored)).1.map (fun _ => ()) =
        .error listedTwice := by
    decide +kernel
  obtain ⟨prepared,parsed⟩ := returned_of_map prepares
  rw [runIngest_cases,parsed] at told ⊢
  dsimp only at told ⊢
  cases added : sqlite.addAll (rowsToWrite prepared "now") Stored.empty with
  | error error =>
      rw [added] at told
      cases told
      rfl
  | ok stored =>
      rw [added] at told
      cases told

theorem failed_ingest_twice_listed : let _ := asciiFormats bookStamps []
    (prepareSources twiceListed [workbookEntry] = .error listedTwice ∧
      some Stored.empty = some oldStored) ∨
    (∃ prepared, prepareSources twiceListed [workbookEntry] = .ok prepared ∧
      sqlite.addAll (rowsToWrite prepared "now") Stored.empty = .error listedTwice ∧
      some Stored.empty = some Stored.empty) := by
  intro _
  exact failed_ingest twice_listed_raises

theorem duplicate_order_empties : ¬ ∀ (pack : SourcePack) (manifest : List ManifestEntry)
    (dbPath ingestedAt : String) (old : Stored) (error : IngestError) (after : Option Stored),
    @runIngest (asciiFormats bookStamps []) pack manifest dbPath ingestedAt (some old) =
      (.error error,after) → after = some old := by
  intro law
  have kept := congrArg (Option.map fun stored => stored.db.accounts.rows)
    (law _ _ _ _ _ _ _ twice_listed_raises)
  simp [oldStored,Stored.empty,Db.empty,Table.empty] at kept

end ParcelPilot
