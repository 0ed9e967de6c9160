import ParcelPilot.Database

namespace ParcelPilot

-- app/structured_data/repository.py
def cannotAccess (auth : AuthContext) (entityType entityId : String) : PyError :=
  .notAuthorized (auth.role.value ++ " cannot access " ++ entityType ++ " " ++ entityId)

def checkScope (auth : AuthContext) (accountId entityType entityId : String) : Query Unit :=
  if auth.allowsAccount accountId then pure () else throw (cannotAccess auth entityType entityId)

def getAccount (accountId : String) (auth : AuthContext) : Query Account := do
  checkScope auth accountId "account" accountId
  match ← select (.account accountId) with
  | none => throw (.unknownEntity "account" accountId)
  | some row => pure row

-- The row is read first: whether an order exists is known before its scope is.
def getOrder (orderId : String) (auth : AuthContext) (tz : Int) : Query Order := do
  match ← select (.order orderId) with
  | none => throw (.unknownEntity "order" orderId)
  | some row =>
      checkScope auth row.accountId "order" orderId
      pure (row.toOrder tz)

def getTicket (ticketId : String) (auth : AuthContext) (tz : Int) : Query Ticket := do
  match ← select (.ticket ticketId) with
  | none => throw (.unknownEntity "ticket" ticketId)
  | some row =>
      checkScope auth row.accountId "ticket" ticketId
      pure (row.toTicket tz)

def checkAccount (auth : AuthContext) : Option String → Query Unit
  | none => pure ()
  | some accountId => checkScope auth accountId "account" accountId

def searchOrders (auth : AuthContext) (tz : Int) (accountId : Option String)
    (status : Option OrderStatus) (carrier : Option String) : Query (List Order) := do
  checkAccount auth accountId
  let rows ← select (.orders auth.accountScope accountId status carrier)
  pure (rows.map (·.toOrder tz))

def searchTickets (auth : AuthContext) (tz : Int) (accountId : Option String)
    (status : Option TicketStatus) : Query (List Ticket) := do
  checkAccount auth accountId
  let rows ← select (.tickets auth.accountScope accountId status)
  pure (rows.map (·.toTicket tz))

-- app/documents/source_repository.py
def getSource (sourceId : String) : Query SourceDocument := do
  match ← select (.source sourceId) with
  | none => throw (.unknownEntity "source" sourceId)
  | some row => pure row

-- app/domain/evidence.py
def structuredSourceId : String := "SRC-07"

def citeDocument (sourceId : String) (section_ : Option String) (note : Option String := none) :
    Query EvidenceRef := do
  let row ← select (.chunkPage sourceId section_)
  let page := row.getD 1
  pure ⟨.document,sourceId,some ("p" ++ toString page ++ ":" ++ section_.getD "None"),note⟩

def citeStructured (table recordId : String) (note : Option String := none) : EvidenceRef :=
  ⟨.structured,structuredSourceId,some (table ++ ":" ++ recordId),note⟩

section Outcomes

variable [Host] {db : Db} {auth : AuthContext} {tz : Int}

@[simp] theorem on_pure (value : α) : Query.on (pure value : Query α) db = .ok value := rfl

@[simp] theorem on_throw (error : PyError) : Query.on (throw error : Query α) db = .error error := rfl

@[simp] theorem on_select (query : Select) : (select query).on db = .ok (db.answer query) := rfl

@[simp] theorem on_bind (query : Query α) (rest : α → Query β) :
    Query.on (query >>= rest) db = (query.on db).bind (fun value => (rest value).on db) := by
  unfold Query.on
  rw [Fallible.outcome_bind]
  cases Fallible.outcome db.answer query <;> rfl

theorem on_bind_ok {query : Query α} {rest : α → Query β} :
    (query >>= rest).on db = .ok value ↔
      ∃ middle, query.on db = .ok middle ∧ (rest middle).on db = .ok value := by
  rw [on_bind]
  cases query.on db <;> simp [Except.bind]

@[simp] theorem on_attempt (query : Query α) :
    Query.on (Fallible.attempt query) db = .ok (query.on db) := Fallible.outcome_attempt _ _

theorem on_collect {choose : α → Query (Option β)} {items : List α} {found : List β} :
    Query.on (Fallible.collect choose items) db = .ok found ↔
      (∀ item ∈ items, ∃ value, (choose item).on db = .ok value) ∧
        found = items.filterMap fun item => ((choose item).on db).toOption.join :=
  Fallible.outcome_collect

omit [Host] in
theorem admitsAny_scope (auth : AuthContext) (accountId : String) :
    Db.admitsAny auth.accountScope accountId = auth.allowsAccount accountId := by
  unfold Db.admitsAny AuthContext.allowsAccount
  cases auth.accountScope <;> rfl

theorem checkScope_on (accountId entityType entityId : String) :
    (checkScope auth accountId entityType entityId).on db =
      if auth.allowsAccount accountId then .ok ()
      else .error (cannotAccess auth entityType entityId) := by
  unfold checkScope
  split <;> rfl

theorem getTicket_on (ticketId : String) :
    (getTicket ticketId auth tz).on db = match db.tickets.row ticketId with
      | none => .error (.unknownEntity "ticket" ticketId)
      | some row =>
          if auth.allowsAccount row.accountId then .ok (row.toTicket tz)
          else .error (cannotAccess auth "ticket" ticketId) := by
  simp only [getTicket,on_bind,on_select,Except.bind]
  cases found : db.tickets.row ticketId with
  | none => simp only [Db.answer,found,on_throw]
  | some row =>
      simp only [Db.answer,found,on_bind,checkScope_on]
      split <;> rfl

theorem getTicket_ok {ticketId : String} {ticket : Ticket} :
    (getTicket ticketId auth tz).on db = .ok ticket ↔ ∃ row, db.tickets.row ticketId = some row ∧
      auth.allowsAccount row.accountId = true ∧ row.toTicket tz = ticket := by
  rw [getTicket_on]
  cases db.tickets.row ticketId with
  | none => simp
  | some row =>
      by_cases allowed : auth.allowsAccount row.accountId = true <;> simp [allowed]

theorem getOrder_on (orderId : String) :
    (getOrder orderId auth tz).on db = match db.orders.row orderId with
      | none => .error (.unknownEntity "order" orderId)
      | some row =>
          if auth.allowsAccount row.accountId then .ok (row.toOrder tz)
          else .error (cannotAccess auth "order" orderId) := by
  simp only [getOrder,on_bind,on_select,Except.bind]
  cases found : db.orders.row orderId with
  | none => simp only [Db.answer,found,on_throw]
  | some row =>
      simp only [Db.answer,found,on_bind,checkScope_on]
      split <;> rfl

theorem getOrder_ok {orderId : String} {order : Order} :
    (getOrder orderId auth tz).on db = .ok order ↔ ∃ row, db.orders.row orderId = some row ∧
      auth.allowsAccount row.accountId = true ∧ row.toOrder tz = order := by
  rw [getOrder_on]
  cases db.orders.row orderId with
  | none => simp
  | some row =>
      by_cases allowed : auth.allowsAccount row.accountId = true <;> simp [allowed]

theorem getAccount_on (accountId : String) :
    (getAccount accountId auth).on db =
      if auth.allowsAccount accountId then
        match db.accounts.row accountId with
        | none => .error (.unknownEntity "account" accountId)
        | some row => .ok row
      else .error (cannotAccess auth "account" accountId) := by
  simp only [getAccount,on_bind,checkScope_on]
  split
  · simp only [Except.bind,on_select]
    cases found : db.accounts.row accountId with
    | none => simp only [Db.answer,found,on_throw]
    | some row => simp only [Db.answer,found,on_pure]
  · rfl

theorem getAccount_ok {accountId : String} {account : Account} :
    (getAccount accountId auth).on db = .ok account ↔
      auth.allowsAccount accountId = true ∧ db.accounts.row accountId = some account := by
  rw [getAccount_on]
  by_cases allowed : auth.allowsAccount accountId = true
  · cases db.accounts.row accountId <;> simp [allowed]
  · simp [allowed]

theorem getSource_on (sourceId : String) :
    (getSource sourceId).on db = match db.sources.row sourceId with
      | none => .error (.unknownEntity "source" sourceId)
      | some row => .ok row := by
  simp only [getSource,on_bind,on_select,Except.bind]
  cases found : db.sources.row sourceId with
  | none => simp only [Db.answer,found,on_throw]
  | some row => simp only [Db.answer,found,on_pure]

-- What a citation of a clause comes to.
def documentRef (db : Db) (sourceId : String) (section_ : Option String) : EvidenceRef :=
  let page := (db.answer (.chunkPage sourceId section_)).getD 1
  ⟨.document,sourceId,some ("p" ++ toString page ++ ":" ++ section_.getD "None"),none⟩

theorem citeDocument_ref (sourceId : String) (section_ : Option String) :
    (citeDocument sourceId section_).on db = .ok (documentRef db sourceId section_) := rfl

end Outcomes

end ParcelPilot
