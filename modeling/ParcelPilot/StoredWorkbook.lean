import ParcelPilot.FaultCells

namespace ParcelPilot

-- A value as it is bound to an INSERT and comes back in a row.
inductive SqlValue where
  | null
  | integer (value : Int)
  | real (value : PyFloat)
  | text (value : String)
deriving DecidableEq

-- `sqlite3.Row`: the values of a SELECT * by the names of their columns
abbrev SqlRow := List (String × SqlValue)

def SqlRow.value (row : SqlRow) (name : String) : Option SqlValue := Py.dictGet row name

namespace SqlValue

-- `int(flag)`, a text, `instant.isoformat()`, and what may be missing
def ofBool (flag : Bool) : SqlValue := .integer (if flag then 1 else 0)

def ofOptional (text : Option String) : SqlValue :=
  match text with
  | none => .null
  | some text => .text text

-- SQLite has no NaN.
def ofFloat (value : PyFloat) : SqlValue := if value = .nan then .null else .real value

def ofInstant (instant : DateTime) : SqlValue := .text instant.isoformat

def ofInstantOptional (instant : Option DateTime) : SqlValue := ofOptional (instant.map (·.isoformat))

-- `bool(value)`
def truthy : SqlValue → Bool
  | .null => false
  | .integer value => value != 0
  | .real value => value != 0
  | .text value => value != ""

-- What the models take for a `str`, a `str | None` and a `float`
def asText : SqlValue → Option String
  | .text value => some value
  | _ => none

def asOptional : SqlValue → Option (Option String)
  | .null => some none
  | .text value => some (some value)
  | _ => none

def asFloat : SqlValue → Option PyFloat
  | .real value => some value
  | .integer value => some (value : Rat)
  | _ => none

-- A member of an enumeration by its value
def asMember (members : List α) (valueOf : α → String) (value : SqlValue) : Option α :=
  match value with
  | .text wanted => members.find? fun member => valueOf member = wanted
  | _ => none

end SqlValue

-- The columns of app/db/schema.sql, as the INSERT statements list them, with the
-- values of the statements.
def accountColumns : List String := ["account_id","account_name","plan","status","csm",
  "contract_file","premium_support","notes"]

def Account.values (account : Account) : List SqlValue := [.text account.accountId,
  .text account.accountName,.text account.plan,.text account.status,.text account.csm,
  .ofOptional account.contractFile,.ofBool account.premiumSupport,.text account.notes]

def orderColumns : List String := ["order_id","account_id","carrier","status","booked_at",
  "pickup_window_start","pickup_window_end","pickup_actual_at","shipment_fee_inr","carrier_fault",
  "customer_fault","cancellation_requested_at","notes"]

def Order.values (order : Order) : List SqlValue := [.text order.orderId,.text order.accountId,
  .text order.carrier,.text order.status.value,.ofInstant order.bookedAt,
  .ofInstant order.pickupWindowStart,.ofInstant order.pickupWindowEnd,
  .ofInstantOptional order.pickupActualAt,.ofFloat order.shipmentFeeInr,.ofBool order.carrierFault,
  .ofBool order.customerFault,.ofInstantOptional order.cancellationRequestedAt,.text order.notes]

def ticketColumns : List String := ["ticket_id","account_id","created_at","status","subject",
  "description","channel","assigned_to","last_customer_message_at","historical_resolution"]

def Ticket.values (ticket : Ticket) : List SqlValue := [.text ticket.ticketId,.text ticket.accountId,
  .ofInstant ticket.createdAt,.text ticket.status.value,.text ticket.subject,.text ticket.description,
  .text ticket.channel,.text ticket.assignedTo,.ofInstant ticket.lastCustomerMessageAt,
  .ofOptional ticket.historicalResolution]

section Columns

variable [Formats]

-- `_dt_optional` and `_dt`: a naive value takes the caller's zone.
def dtOptional (tz : Int) : SqlValue → Option (Option DateTime)
  | .null => some none
  | .text text =>
      match Formats.fromisoformat text with
      | .error _ => none
      | .ok stamp => some (some (stamp.read tz))
  | _ => none

def dt (tz : Int) (value : SqlValue) : Option DateTime := (dtOptional tz value).join

-- `_row_to_account`, `_row_to_order`, `_row_to_ticket`
def rowToAccount (row : SqlRow) : Option Account := do
  pure {
    accountId := ← (← row.value "account_id").asText
    accountName := ← (← row.value "account_name").asText
    plan := ← (← row.value "plan").asText
    status := ← (← row.value "status").asText
    csm := ← (← row.value "csm").asText
    contractFile := ← (← row.value "contract_file").asOptional
    premiumSupport := (← row.value "premium_support").truthy
    notes := ← (← row.value "notes").asText }

def rowToOrder (row : SqlRow) (tz : Int) : Option Order := do
  pure {
    orderId := ← (← row.value "order_id").asText
    accountId := ← (← row.value "account_id").asText
    carrier := ← (← row.value "carrier").asText
    status := ← (← row.value "status").asMember orderStatuses OrderStatus.value
    bookedAt := ← dt tz (← row.value "booked_at")
    pickupWindowStart := ← dt tz (← row.value "pickup_window_start")
    pickupWindowEnd := ← dt tz (← row.value "pickup_window_end")
    pickupActualAt := ← dtOptional tz (← row.value "pickup_actual_at")
    shipmentFeeInr := ← (← row.value "shipment_fee_inr").asFloat
    carrierFault := (← row.value "carrier_fault").truthy
    customerFault := (← row.value "customer_fault").truthy
    cancellationRequestedAt := ← dtOptional tz (← row.value "cancellation_requested_at")
    notes := ← (← row.value "notes").asText }

def rowToTicket (row : SqlRow) (tz : Int) : Option Ticket := do
  pure {
    ticketId := ← (← row.value "ticket_id").asText
    accountId := ← (← row.value "account_id").asText
    createdAt := ← dt tz (← row.value "created_at")
    status := ← (← row.value "status").asMember ticketStatuses TicketStatus.value
    subject := ← (← row.value "subject").asText
    description := ← (← row.value "description").asText
    channel := ← (← row.value "channel").asText
    assignedTo := ← (← row.value "assigned_to").asText
    lastCustomerMessageAt := ← dt tz (← row.value "last_customer_message_at")
    historicalResolution := ← (← row.value "historical_resolution").asOptional }

-- What `isoformat()` writes `fromisoformat` reads.
def IsoInverse (instant : DateTime) : Prop :=
  Formats.fromisoformat instant.isoformat = .ok instant.stamp

theorem dt_ofInstant {instant : DateTime} (inverse : IsoInverse instant) (tz : Int) :
    dt tz (.ofInstant instant) = some instant := by
  unfold dt dtOptional SqlValue.ofInstant
  dsimp only
  rw [inverse]
  rfl

theorem dtOptional_ofInstant {instant : Option DateTime} (inverse : ∀ known ∈ instant, IsoInverse known)
    (tz : Int) : dtOptional tz (.ofInstantOptional instant) = some instant := by
  cases instant with
  | none => rfl
  | some known =>
      unfold dtOptional SqlValue.ofInstantOptional SqlValue.ofOptional
      rw [Option.map_some]
      dsimp only
      rw [inverse known rfl]
      rfl

omit [Formats] in
@[simp] theorem truthy_ofBool (flag : Bool) : (SqlValue.ofBool flag).truthy = flag := by
  cases flag <;> rfl

omit [Formats] in
@[simp] theorem asOptional_ofOptional (text : Option String) :
    (SqlValue.ofOptional text).asOptional = some text := by cases text <;> rfl

omit [Formats] in
theorem account_columns (account : Account) :
    rowToAccount (accountColumns.zip account.values) = some account := by
  simp [rowToAccount,accountColumns,Account.values,SqlRow.value,Py.dictGet,SqlValue.asText]

omit [Formats] in
@[simp] theorem asMember_order (status : OrderStatus) :
    (SqlValue.text status.value).asMember orderStatuses OrderStatus.value = some status := by
  cases status <;> decide

omit [Formats] in
@[simp] theorem asMember_ticket (status : TicketStatus) :
    (SqlValue.text status.value).asMember ticketStatuses TicketStatus.value = some status := by
  cases status <;> decide

def Order.instants (order : Order) : List DateTime :=
  [order.bookedAt,order.pickupWindowStart,order.pickupWindowEnd] ++ order.pickupActualAt.toList ++
    order.cancellationRequestedAt.toList

def Ticket.instants (ticket : Ticket) : List DateTime :=
  [ticket.createdAt,ticket.lastCustomerMessageAt]

theorem order_columns {order : Order} (known : order.shipmentFeeInr ≠ .nan)
    (inverse : ∀ instant ∈ order.instants, IsoInverse instant) (tz : Int) :
    rowToOrder (orderColumns.zip order.values) tz = some order := by
  have booked := dt_ofInstant (inverse order.bookedAt (by simp [Order.instants])) tz
  have starts := dt_ofInstant (inverse order.pickupWindowStart (by simp [Order.instants])) tz
  have ends_ := dt_ofInstant (inverse order.pickupWindowEnd (by simp [Order.instants])) tz
  have actual := @dtOptional_ofInstant _ order.pickupActualAt
    (fun known member => inverse known (by simp [Order.instants,Option.mem_def.mp member])) tz
  have requested := @dtOptional_ofInstant _ order.cancellationRequestedAt
    (fun known member => inverse known (by simp [Order.instants,Option.mem_def.mp member])) tz
  simp [rowToOrder,orderColumns,Order.values,SqlRow.value,Py.dictGet,SqlValue.asText,SqlValue.ofFloat,
    SqlValue.asFloat,known,booked,starts,ends_,actual,requested]

theorem ticket_columns {ticket : Ticket} (inverse : ∀ instant ∈ ticket.instants, IsoInverse instant)
    (tz : Int) : rowToTicket (ticketColumns.zip ticket.values) tz = some ticket := by
  have created := dt_ofInstant (inverse ticket.createdAt (by simp [Ticket.instants])) tz
  have last := dt_ofInstant (inverse ticket.lastCustomerMessageAt (by simp [Ticket.instants])) tz
  simp [rowToTicket,ticketColumns,Ticket.values,SqlRow.value,Py.dictGet,SqlValue.asText,created,last]

-- A row of the model's tables stands for columns that have its key and read as its
-- record.
structure Account.StandsFor (account : Account) (columns : SqlRow) : Prop where
  key : columns.value "account_id" = some (.text account.accountId)
  read : rowToAccount columns = some account

structure OrderRow.StandsFor (row : OrderRow) (columns : SqlRow) : Prop where
  key : columns.value "order_id" = some (.text row.orderId)
  read : ∀ tz, rowToOrder columns tz = some (row.toOrder tz)

structure TicketRow.StandsFor (row : TicketRow) (columns : SqlRow) : Prop where
  key : columns.value "ticket_id" = some (.text row.ticketId)
  read : ∀ tz, rowToTicket columns tz = some (row.toTicket tz)

-- The tables are the rows that the INSERT statements send, in their order.
structure HoldsInserts (db : Db) (workbook : WorkbookData) : Prop where
  accounts : List.Forall₂ Account.StandsFor db.accounts.rows
    (workbook.accounts.map fun account => accountColumns.zip account.values)
  orders : List.Forall₂ OrderRow.StandsFor db.orders.rows
    (workbook.orders.map fun order => orderColumns.zip order.values)
  tickets : List.Forall₂ TicketRow.StandsFor db.tickets.rows
    (workbook.tickets.map fun ticket => ticketColumns.zip ticket.values)

-- The repository gives back the records of the workbook, and no others.
structure ReadsBack (db : Db) (auth : AuthContext) (tz : Int) (workbook : WorkbookData) : Prop where
  account : ∀ account ∈ workbook.accounts, (getAccount account.accountId auth).on db = .ok account
  noAccount : ∀ id, (∀ account ∈ workbook.accounts, account.accountId ≠ id) →
    (getAccount id auth).on db = .error (.unknownEntity "account" id)
  order : ∀ order ∈ workbook.orders, (getOrder order.orderId auth tz).on db = .ok order
  noOrder : ∀ id, (∀ order ∈ workbook.orders, order.orderId ≠ id) →
    (getOrder id auth tz).on db = .error (.unknownEntity "order" id)
  ticket : ∀ ticket ∈ workbook.tickets, (getTicket ticket.ticketId auth tz).on db = .ok ticket
  noTicket : ∀ id, (∀ ticket ∈ workbook.tickets, ticket.ticketId ≠ id) →
    (getTicket id auth tz).on db = .error (.unknownEntity "ticket" id)
  orders : (searchOrders auth tz none none none).on db =
    .ok (workbook.orders.insertionSort fun one two => one.orderId ≤ two.orderId)
  tickets : (searchTickets auth tz none none).on db =
    .ok (workbook.tickets.insertionSort fun one two => one.ticketId ≤ two.ticketId)

structure Wrote (db : Db) (workbook : WorkbookData) : Prop where
  accounts : db.accounts.rows = workbook.accounts
  orders : db.orders.rows = workbook.orders.map Order.toRow
  tickets : db.tickets.rows = workbook.tickets.map Ticket.toRow
  fees : ∀ order ∈ workbook.orders, order.shipmentFeeInr ≠ .nan

variable {db : Db} {auth : AuthContext} {tz : Int} {workbook : WorkbookData} {prepared : Prepared}
  {ingestedAt : String} {file : Option Stored} {disk : Disk Stored}

def WorkbookData.instants (workbook : WorkbookData) : List DateTime :=
  workbook.orders.flatMap (·.instants) ++ workbook.tickets.flatMap (·.instants)

omit [Formats] in
theorem listing_back {ρ τ κ : Type} [LinearOrder κ] {key : ρ → κ} {table : Table key}
    {records : List τ} {write : τ → ρ} {read : ρ → τ} (stored : table.rows = records.map write)
    (back : ∀ record, read (write record) = record) :
    (table.listing fun _ => true).map read =
      records.insertionSort fun one two => key (write one) ≤ key (write two) := by
  have sorted : (records.insertionSort fun one two => key (write one) ≤ key (write two)).map write =
      (records.map write).insertionSort fun one two => key one ≤ key two :=
    List.map_insertionSort _ _ write records fun _ _ _ _ => Iff.rfl
  have all : table.rows.filter (fun _ => true) = records.map write := by
    rw [stored]
    exact List.filter_eq_self.mpr fun _ _ => rfl
  rw [Table.listing,all,← sorted,List.map_map]
  exact (List.map_congr_left fun record _ => back record).trans (List.map_id _)

theorem wrote_inserts (wrote : Wrote db workbook)
    (inverse : ∀ instant ∈ workbook.instants, IsoInverse instant) : HoldsInserts db workbook := by
  refine ⟨?_,?_,?_⟩
  · rw [wrote.accounts,List.forall₂_map_right_iff]
    exact List.forall₂_same.mpr fun account _ => ⟨rfl,account_columns account⟩
  · rw [wrote.orders,List.forall₂_map_left_iff,List.forall₂_map_right_iff]
    refine List.forall₂_same.mpr fun order listed => ⟨rfl,fun tz => ?_⟩
    rw [order_round_trip]
    refine order_columns (wrote.fees order listed) (fun instant held => inverse instant ?_) tz
    exact List.mem_append_left _ (List.mem_flatMap.mpr ⟨order,listed,held⟩)
  · rw [wrote.tickets,List.forall₂_map_left_iff,List.forall₂_map_right_iff]
    refine List.forall₂_same.mpr fun ticket listed => ⟨rfl,fun tz => ?_⟩
    rw [ticket_round_trip]
    refine ticket_columns (fun instant held => inverse instant ?_) tz
    exact List.mem_append_right _ (List.mem_flatMap.mpr ⟨ticket,listed,held⟩)

theorem searchOrders_all (unrestricted : auth.accountScope = none) :
    (searchOrders auth tz none none none).on db =
      .ok ((db.orders.listing fun _ => true).map (·.toOrder tz)) := by
  have listed : (searchOrders auth tz none none none).on db =
      .ok ((db.orders.listing (Db.orderChosen auth.accountScope none none none)).map (·.toOrder tz)) := rfl
  rw [listed,unrestricted]
  rfl

theorem searchTickets_all (unrestricted : auth.accountScope = none) :
    (searchTickets auth tz none none).on db =
      .ok ((db.tickets.listing fun _ => true).map (·.toTicket tz)) := by
  have listed : (searchTickets auth tz none none).on db =
      .ok ((db.tickets.listing (Db.ticketChosen auth.accountScope none none)).map (·.toTicket tz)) := rfl
  rw [listed,unrestricted]
  rfl

theorem wrote_reads (wrote : Wrote db workbook) (unrestricted : auth.accountScope = none) :
    ReadsBack db auth tz workbook := by
  have allowed (id : String) : auth.allowsAccount id = true := by
    rw [AuthContext.allowsAccount,unrestricted]
  refine ⟨?_,?_,?_,?_,?_,?_,?_,?_⟩
  · intro account listed
    exact getAccount_ok.mpr ⟨allowed _,Table.row_eq_some.mpr ⟨by rw [wrote.accounts]; exact listed,rfl⟩⟩
  · intro id other
    have absent : db.accounts.row id = none := by
      rw [Table.row_eq_none,wrote.accounts]
      exact other
    rw [getAccount_on,if_pos (allowed id),absent]
  · intro order listed
    have stored : db.orders.row order.orderId = some order.toRow := by
      rw [Table.row_eq_some,wrote.orders]
      exact ⟨List.mem_map_of_mem listed,rfl⟩
    exact getOrder_ok.mpr ⟨_,stored,allowed _,order_round_trip order tz⟩
  · intro id other
    have absent : db.orders.row id = none := by
      rw [Table.row_eq_none,wrote.orders]
      intro row stored
      obtain ⟨order,listed,rfl⟩ := List.mem_map.mp stored
      exact other order listed
    rw [getOrder_on,absent]
  · intro ticket listed
    have stored : db.tickets.row ticket.ticketId = some ticket.toRow := by
      rw [Table.row_eq_some,wrote.tickets]
      exact ⟨List.mem_map_of_mem listed,rfl⟩
    exact getTicket_ok.mpr ⟨_,stored,allowed _,ticket_round_trip ticket tz⟩
  · intro id other
    have absent : db.tickets.row id = none := by
      rw [Table.row_eq_none,wrote.tickets]
      intro row stored
      obtain ⟨ticket,listed,rfl⟩ := List.mem_map.mp stored
      exact other ticket listed
    rw [getTicket_on,absent]
  · rw [searchOrders_all unrestricted,listing_back wrote.orders fun order => order_round_trip order tz]
    rfl
  · rw [searchTickets_all unrestricted,listing_back wrote.tickets fun ticket => ticket_round_trip ticket tz]
    rfl

-- What the pipeline writes into a new database is what the repository reads from it.
theorem stored_workbook (tz : Int) (unrestricted : auth.accountScope = none)
    (inverse : ∀ instant ∈ prepared.workbook.instants, IsoInverse instant)
    (written : Fallible.perform sqlite.step (do initDb; writeDb prepared ingestedAt) ⟨file,none⟩ =
      (.ok (),disk)) :
    ∃ stored, disk.file = some stored ∧ HoldsInserts stored.db prepared.workbook ∧
      ReadsBack stored.db auth tz prepared.workbook := by
  have open_ : Disk.contents ⟨some Stored.empty,none⟩ = some Stored.empty := rfl
  rw [Fallible.perform_bind,initDb_fresh] at written
  dsimp only at written
  unfold writeDb at written
  cases added : sqlite.addAll (rowsToWrite prepared ingestedAt) Stored.empty with
  | error error =>
      obtain ⟨pending,ran⟩ := DiskScript.insertAll_refused open_ added
      rw [Fallible.perform_bind,ran] at written
      cases written
  | ok stored =>
      obtain ⟨pending,ran,seen⟩ := DiskScript.insertAll_added open_ added
      rw [Fallible.perform_bind,ran] at written
      dsimp only at written
      rw [DiskScript.perform_commit,seen] at written
      cases written
      have wrote : Wrote stored.db prepared.workbook :=
        ⟨written_accounts added,written_orders added,written_tickets added,written_fees added⟩
      exact ⟨stored,rfl,wrote_inserts wrote inverse,wrote_reads wrote unrestricted⟩

end Columns

-- A workbook of one account, an order that was not picked up and a ticket.
def keptTicket : Ticket := ⟨"TKT-1","ACCT-001",kolkataEpoch,.open_,"Late","No pickup yet","email","Asha",
  kolkataEpoch,none⟩

def keptData : Prepared := {unstatedData with
  workbook := {unstatedData.workbook with tickets := [keptTicket]}}

theorem stored_workbook_kept : let _ := asciiFormats [(kolkataEpoch.isoformat,kolkataEpoch.stamp)] []
    ∃ disk, Fallible.perform sqlite.step (do initDb; writeDb keptData "now") ⟨none,none⟩ = (.ok (),disk) ∧
      ∃ stored, disk.file = some stored ∧ HoldsInserts stored.db keptData.workbook ∧
        ReadsBack stored.db anyAccount 0 keptData.workbook := by
  intro _
  have ran : (Fallible.perform sqlite.step (do initDb; writeDb keptData "now") ⟨none,none⟩).1 = .ok () := by
    decide +kernel
  have written : Fallible.perform sqlite.step (do initDb; writeDb keptData "now") ⟨none,none⟩ =
      (.ok (),_) := Prod.ext ran rfl
  have inverse : ∀ instant ∈ keptData.workbook.instants, IsoInverse instant := by
    have each : ∀ instant ∈ keptData.workbook.instants, instant = kolkataEpoch := by decide +kernel
    intro instant listed
    rw [each instant listed]
    exact (show Formats.fromisoformat kolkataEpoch.isoformat = .ok kolkataEpoch.stamp by decide +kernel)
  exact ⟨_,written,stored_workbook 0 rfl inverse written⟩

end ParcelPilot
