import Mathlib.Algebra.Group.Int.Defs
import ParcelPilot.Formats

namespace ParcelPilot

-- An opened workbook: each sheet with the rows `iter_rows(values_only=True)` gives.
structure Workbook where
  sheets : List (String × List (List Cell))

def Workbook.sheet (book : Workbook) (name : String) : Option (List (List Cell)) :=
  Py.dictGet book.sheets name

-- A row under its header.
abbrev SheetRow := List (Cell × Cell)

-- app/structured_data/workbook.py
structure WorkbookData where
  snapshot : DateTime
  currency : String
  accounts : List Account
  orders : List Order
  tickets : List Ticket
deriving DecidableEq

-- `dict(zip(header, r))[name]`: the last column of that name
def SheetRow.get (row : SheetRow) (name : String) : Option Cell :=
  (row.reverse.find? fun column => column.1 = .str name).map (·.2)

-- The columns a row is read by; what a failed validation prints is the library's.
inductive RowError where
  | keyError (name : String)
  | validation (model : String) (failed : List (String × Cell))
  | escaped (error : IngestError)

section Reading

variable [Formats]

open Pattern

-- app/time/clock.py
def snapshotText : Pattern := sequence ([Pattern.many Host.isDigit 4 (some 4),.one (· = '-'),
  .many Host.isDigit 2 (some 2),.one (· = '-'),.many Host.isDigit 2 (some 2),
  .many Host.isSpace 1 none,.many Host.isDigit 2 (some 2),.one (· = ':'),
  .many Host.isDigit 2 (some 2),.many Host.isSpace 1 none] ++
  [Pattern.many zoneChar 1 none,.one (· = '/'),.many zoneChar 1 none])
where
  zoneChar (c : Char) : Bool := c.isAlpha || c = '_'

-- `match["date"]`, `match["time"]`, `match["tz"]`: blanks stand between them.
def snapshotParts (raw : List Char) : Option (String × String × String) :=
  if (ends Host.isWord snapshotText (.start raw)).any (·.after.isEmpty) then
    let rest := Py.lstrip (raw.drop 10)
    some (String.ofList (raw.take 10),String.ofList (rest.take 5),
      String.ofList (Py.lstrip (rest.drop 5)))
  else none

-- The snapshot with the zone it is in.
def parseSnapshot (raw : String) : Ingest (DateTime × (Int → Int)) :=
  match snapshotParts (Py.stripped raw.toList) with
  | none => .error (.invalidSnapshotTimestamp raw "expected format 'YYYY-MM-DD HH:MM Area/Location'")
  | some (date,time,name) =>
      match Formats.zoneInfo name with
      | none => .error (.invalidSnapshotTimestamp raw ("unknown timezone " ++ Host.reprStr name))
      | some zone =>
          match Formats.fromisoformat (date ++ "T" ++ time) with
          | .error reason => .error (.invalidSnapshotTimestamp raw ("unparseable date/time: " ++ reason))
          | .ok naive => .ok (⟨naive.wall,zone naive.wall,naive.inRange⟩,zone)

-- `naive if naive.tzinfo is not None else naive.replace(tzinfo=tz)`
def localized (zone : Int → Int) (stamp : Stamp) : DateTime :=
  ⟨stamp.wall,stamp.offset.getD (zone stamp.wall),stamp.inRange⟩

def parseDtOptional (value : Cell) (zone : Int → Int) (field : String) :
    Except RowError (Option DateTime) :=
  match value with
  | .blank => .ok none
  | .datetime wall inRange => .ok (some (localized zone ⟨wall,none,inRange⟩))
  | value =>
      if value = .str "" then .ok none
      else match Formats.fromisoformat (Formats.strCell value) with
        | .error _ => .error (.escaped (.malformedWorkbook
            (field ++ ": unparseable datetime " ++ Formats.reprCell value)))
        | .ok stamp => .ok (some (localized zone stamp))

def parseDt (value : Cell) (zone : Int → Int) (field : String) : Except RowError DateTime := do
  match ← parseDtOptional value zone field with
  | none => throw (.escaped (.malformedWorkbook (field ++ ": required datetime is missing")))
  | some parsed => pure parsed

-- `float(value)`
def largestFloat : Int := 2 ^ 1024 - 2 ^ 970

def floatOf : Cell → Ingest PyFloat
  | .bool value => .ok (if value then 1 else 0)
  | .int value =>
      if largestFloat ≤ value.natAbs then
        .error (.raised (.overflowError "int too large to convert to float"))
      else .ok (value : Rat)
  | .float value => .ok value
  | .str text =>
      match Formats.parseFloat text with
      | none => .error (.raised (.valueError
          ("could not convert string to float: " ++ Host.reprStr text)))
      | some value => .ok value
  | other => .error (.raised (.typeError
      ("float() argument must be a string or a real number, not '" ++ other.typeName ++ "'")))

-- `row[name]`
def column (row : SheetRow) (name : String) : Except RowError Cell :=
  match row.get name with
  | none => .error (.keyError name)
  | some cell => .ok cell

-- `row.get(name) or ...`
def presentOr (row : SheetRow) (name : String) (fallback : Cell) : Cell :=
  match row.get name with
  | none => fallback
  | some cell => if cell.truthy then cell else fallback

-- What pydantic makes of the cells given for text fields: a text is kept, any
-- other value fails the model.
def textOf : Cell → Option String
  | .str text => some text
  | _ => none

def optionalText : Cell → Option (Option String)
  | .blank => some none
  | .str text => some (some text)
  | _ => none

-- A member of an enumeration, by its value.
def memberOf (members : List σ) (value : σ → String) (cell : Cell) : Option σ :=
  (textOf cell).bind fun text => members.find? fun member => value member = text

def validated (model : String) (fields : List (String × Cell)) (built : Option β) :
    Except RowError β :=
  match built with
  | none => .error (.validation model fields)
  | some value => .ok value

-- `except (KeyError, ValidationError)`
def orMalformed (sheet : String) (row : SheetRow) : Except RowError β → Ingest β
  | .ok value => .ok value
  | .error (.escaped error) => .error error
  | .error (.keyError name) => .error (.malformedWorkbook
      ("invalid " ++ sheet ++ " row " ++ Formats.reprRow row ++ ": " ++ Host.reprStr name))
  | .error (.validation model failed) => .error (.malformedWorkbook
      ("invalid " ++ sheet ++ " row " ++ Formats.reprRow row ++ ": " ++
        Formats.validationError model failed))

def escaping (result : Ingest β) : Except RowError β :=
  match result with
  | .ok value => .ok value
  | .error error => .error (.escaped error)

def buildAccount (row : SheetRow) : Ingest Account := orMalformed "accounts" row do
  let accountId ← column row "account_id"
  let accountName ← column row "account_name"
  let plan ← column row "plan"
  let status ← column row "status"
  let csm ← column row "csm"
  let contractFile := presentOr row "contract_file" .blank
  let premiumSupport ← column row "premium_support"
  let notes := presentOr row "notes" (.str "")
  validated "Account" [("account_id",accountId),("account_name",accountName),("plan",plan),
      ("status",status),("csm",csm),("contract_file",contractFile),("notes",notes)] do
    pure {
      accountId := ← textOf accountId, accountName := ← textOf accountName, plan := ← textOf plan
      status := ← textOf status, csm := ← textOf csm, contractFile := ← optionalText contractFile
      premiumSupport := premiumSupport.truthy, notes := ← textOf notes }

def orderStatuses : List OrderStatus := [.draft,.booked,.pickedUp,.delivered]

def buildOrder (zone : Int → Int) (row : SheetRow) : Ingest Order := orMalformed "orders" row do
  let orderId ← column row "order_id"
  let accountId ← column row "account_id"
  let carrier ← column row "carrier"
  let status ← column row "status"
  let bookedAt ← parseDt (← column row "booked_at") zone "booked_at"
  let pickupWindowStart ← parseDt (← column row "pickup_window_start") zone "pickup_window_start"
  let pickupWindowEnd ← parseDt (← column row "pickup_window_end") zone "pickup_window_end"
  let pickupActualAt ← parseDtOptional ((row.get "pickup_actual_at").getD .blank) zone
    "pickup_actual_at"
  let shipmentFeeInr ← escaping (floatOf (← column row "shipment_fee_inr"))
  let carrierFault ← column row "carrier_fault"
  let customerFault ← column row "customer_fault"
  let cancellationRequestedAt ← parseDtOptional ((row.get "cancellation_requested_at").getD .blank)
    zone "cancellation_requested_at"
  let notes := presentOr row "notes" (.str "")
  validated "Order" [("order_id",orderId),("account_id",accountId),("carrier",carrier),
      ("status",status),("notes",notes)] do
    pure {
      orderId := ← textOf orderId, accountId := ← textOf accountId, carrier := ← textOf carrier
      status := ← memberOf orderStatuses OrderStatus.value status, bookedAt := bookedAt
      pickupWindowStart := pickupWindowStart, pickupWindowEnd := pickupWindowEnd
      pickupActualAt := pickupActualAt, shipmentFeeInr := shipmentFeeInr
      carrierFault := carrierFault.truthy, customerFault := customerFault.truthy
      cancellationRequestedAt := cancellationRequestedAt, notes := ← textOf notes }

def ticketStatuses : List TicketStatus := [.open_,.closed]

def buildTicket (zone : Int → Int) (row : SheetRow) : Ingest Ticket := orMalformed "tickets" row do
  let ticketId ← column row "ticket_id"
  let accountId ← column row "account_id"
  let createdAt ← parseDt (← column row "created_at") zone "created_at"
  let status ← column row "status"
  let subject ← column row "subject"
  let description ← column row "description"
  let channel ← column row "channel"
  let assignedTo ← column row "assigned_to"
  let lastCustomerMessageAt ← parseDt (← column row "last_customer_message_at") zone
    "last_customer_message_at"
  let historicalResolution := presentOr row "historical_resolution" .blank
  validated "Ticket" [("ticket_id",ticketId),("account_id",accountId),("status",status),
      ("subject",subject),("description",description),("channel",channel),
      ("assigned_to",assignedTo),("historical_resolution",historicalResolution)] do
    pure {
      ticketId := ← textOf ticketId, accountId := ← textOf accountId, createdAt := createdAt
      status := ← memberOf ticketStatuses TicketStatus.value status, subject := ← textOf subject
      description := ← textOf description, channel := ← textOf channel
      assignedTo := ← textOf assignedTo, lastCustomerMessageAt := lastCustomerMessageAt
      historicalResolution := ← optionalText historicalResolution }

-- A README line needs a key and a value; a later line of a key replaces the value.
def readmeEntries (rows : List (List Cell)) : List (String × String) :=
  (rows.filterMap fun row =>
    match row with
    | key :: value :: _ =>
        if key = .blank ∨ value = .blank then none
        else some (Py.strip (Formats.strCell key),Py.strip (Formats.strCell value))
    | _ => none).foldl (fun kv pair => Py.dictSet kv pair.1 pair.2) []

def readReadme (book : Workbook) : Ingest (String × String) :=
  match book.sheet "README" with
  | none => .error (.malformedWorkbook "no README sheet")
  | some rows =>
      let kv := readmeEntries rows
      match Py.dictGet kv "Dataset snapshot" with
      | none => .error (.malformedWorkbook "README missing 'Dataset snapshot' row")
      | some snapshot => .ok (snapshot,(Py.dictGet kv "Currency").getD "")

-- `zip(header, r, strict=True)`
def zipStrict (header row : List Cell) : Ingest SheetRow :=
  if row.length < header.length then
    .error (.raised (.valueError "zip() argument 2 is shorter than argument 1"))
  else if header.length < row.length then
    .error (.raised (.valueError "zip() argument 2 is longer than argument 1"))
  else .ok (header.zip row)

def sheetRows (title : String) (rows : List (List Cell)) : Ingest (List SheetRow) :=
  match rows with
  | [] => .error (.malformedWorkbook ("sheet " ++ Host.reprStr title ++ " is empty"))
  | header :: rest =>
      if .blank ∈ header then
        .error (.malformedWorkbook ("sheet " ++ Host.reprStr title ++ " has a blank header cell"))
      else (rest.filter fun row => row.any (· ≠ .blank)).mapM (zipStrict header)

def requireSheet (book : Workbook) (name : String) : Ingest (List (List Cell)) :=
  match book.sheet name with
  | none => .error (.malformedWorkbook ("missing sheet " ++ Host.reprStr name))
  | some rows => .ok rows

-- The first record whose account is not listed.
def requireKnown (entity : String) (records : List (String × String)) (accountIds : List String) :
    Ingest Unit :=
  match records.find? fun record => record.2 ∉ accountIds with
  | none => .ok ()
  | some (recordId,accountId) => .error (.malformedWorkbook
      (entity ++ " " ++ recordId ++ " references unknown account " ++ accountId))

def loadWorkbook (book : Workbook) : Ingest WorkbookData := do
  let (snapshotRaw,currency) ← readReadme book
  let (snapshot,zone) ← parseSnapshot snapshotRaw
  let accountSheet ← requireSheet book "accounts"
  let orderSheet ← requireSheet book "orders"
  let ticketSheet ← requireSheet book "tickets"
  let accounts ← (← sheetRows "accounts" accountSheet).mapM buildAccount
  let accountIds := accounts.map (·.accountId)
  let orders ← (← sheetRows "orders" orderSheet).mapM (buildOrder zone)
  let tickets ← (← sheetRows "tickets" ticketSheet).mapM (buildTicket zone)
  requireKnown "order" (orders.map fun order => (order.orderId,order.accountId)) accountIds
  requireKnown "ticket" (tickets.map fun ticket => (ticket.ticketId,ticket.accountId)) accountIds
  pure ⟨snapshot,currency,accounts,orders,tickets⟩

end Reading

end ParcelPilot
