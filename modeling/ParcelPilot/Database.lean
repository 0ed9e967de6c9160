import ParcelPilot.Records
import ParcelPilot.Script

namespace ParcelPilot

-- app/documents/retrieval.py: the filters of a document search
structure DocumentSearchFilter where
  sourceTypes : Option (List SourceType)
  authorityClasses : Option (List AuthorityClass)
  statuses : Option (List SourceStatus)
  accountScope : Option (List String)
deriving DecidableEq,Repr

structure DocumentSearchResult where
  chunkId : String
  sourceId : String
  filename : String
  page : Nat
  section_ : Option String
  snippet : String
  score : Rat
  status : SourceStatus
  sourceType : SourceType
  authorityClass : AuthorityClass
  effectiveDate : Date
  accountScope : Option String
deriving DecidableEq,Repr

-- Every SELECT the program issues, with the parameters it binds.
inductive Select where
  | account (accountId : String)
  | accountNames
  | order (orderId : String)
  | orders (scope : Option (List String)) (accountId : Option String)
      (status : Option OrderStatus) (carrier : Option String)
  | ticket (ticketId : String)
  | tickets (scope : Option (List String)) (accountId : Option String) (status : Option TicketStatus)
  | source (sourceId : String)
  | chunkPage (sourceId : String) (section_ : Option String)
  | knownIssueChunks
  | slaTarget (sourceId severity plan accountId : String)
  | search (ftsQuery : String) (filters : DocumentSearchFilter) (topK : Nat)
  | action (actionId : String)

def Select.Answer : Select → Type
  | .account _ => Option Account
  | .accountNames => List (String × String)
  | .order _ => Option OrderRow
  | .orders .. => List OrderRow
  | .ticket _ => Option TicketRow
  | .tickets .. => List TicketRow
  | .source _ => Option SourceDocument
  | .chunkPage .. => Option Nat
  | .knownIssueChunks => List DocumentChunk
  | .slaTarget .. => Option SlaTarget
  | .search .. => List DocumentSearchResult
  | .action _ => Option ActionRecord

namespace Db

variable [Host]

-- `account_id IN (...)`, `status = ?` and so on: an absent clause admits all.
def admits {α : Type} [DecidableEq α] (clause : Option α) (value : α) : Bool :=
  match clause with
  | none => true
  | some wanted => value = wanted

def admitsAny {α : Type} [DecidableEq α] (clause : Option (List α)) (value : α) : Bool :=
  match clause with
  | none => true
  | some wanted => value ∈ wanted

-- `if filters.source_types:` - an empty list adds no clause
def admitsListed {α : Type} [DecidableEq α] (clause : Option (List α)) (value : α) : Bool :=
  match clause with
  | none => true
  | some wanted => wanted.isEmpty || value ∈ wanted

def inScope (scope : Option (List String)) : Option String → Bool
  | none => true
  | some account => admitsAny scope account

def orderChosen (scope : Option (List String)) (accountId : Option String)
    (status : Option OrderStatus) (carrier : Option String) (row : OrderRow) : Bool :=
  admitsAny scope row.accountId && admits accountId row.accountId && admits status row.status &&
    admits carrier row.carrier

def ticketChosen (scope : Option (List String)) (accountId : Option String)
    (status : Option TicketStatus) (row : TicketRow) : Bool :=
  admitsAny scope row.accountId && admits accountId row.accountId && admits status row.status

-- The FTS5 join: every chunk the index matches, with its snippet and score.
def matches_ (chunks : List DocumentChunk) (ftsQuery : String) : List DocumentSearchResult :=
  let corpus := chunks.map (·.normalizedText)
  chunks.zipIdx.filterMap fun (chunk,position) =>
    (Host.fts5 corpus ftsQuery position).map fun (snippet,score) =>
      { chunkId := chunk.chunkId, sourceId := chunk.sourceId, filename := chunk.filename
        page := chunk.page, section_ := chunk.section_, snippet := snippet, score := score
        status := chunk.status, sourceType := chunk.sourceType
        authorityClass := chunk.authorityClass, effectiveDate := chunk.effectiveDate
        accountScope := chunk.accountScope }

def resultChosen (filters : DocumentSearchFilter) (result : DocumentSearchResult) : Bool :=
  admitsListed filters.sourceTypes result.sourceType &&
    admitsListed filters.authorityClasses result.authorityClass &&
    admitsListed filters.statuses result.status && inScope filters.accountScope result.accountScope

-- `ORDER BY score ASC, chunk_id ASC`
def resultBefore (one two : DocumentSearchResult) : Prop :=
  one.score < two.score ∨ one.score = two.score ∧ one.chunkId ≤ two.chunkId

instance (one two : DocumentSearchResult) : Decidable (resultBefore one two) :=
  inferInstanceAs (Decidable (_ ∨ _))

-- `source_type = 'product_doc' AND status = 'CURRENT' AND text LIKE '%KI-%'`;
-- LIKE ignores the case of ASCII letters.
def mentionsKnownIssue (chunk : DocumentChunk) : Bool :=
  chunk.sourceType = .productDoc && chunk.status = .current &&
    chunk.text.toList.tails.any fun rest => ['K','I','-'].isPrefixOf (rest.map Char.toUpper)

def slaTargetRow (targets : List SlaTarget) (sourceId severity plan accountId : String) :
    Option SlaTarget :=
  let found := targets.filter fun target =>
    target.sourceId = sourceId && target.severity = severity &&
      (target.plan = some plan || target.accountId = some accountId)
  -- `ORDER BY (account_id IS NOT NULL) DESC LIMIT 1`
  (found.filter (·.accountId.isSome) ++ found.filter (·.accountId.isNone)).head?

-- What a SELECT returns. Without ORDER BY rows come in stored order.
def answer (db : Db) : (query : Select) → query.Answer
  | .account accountId => db.accounts.row accountId
  | .accountNames => db.accounts.rows.map fun row => (row.accountId,row.accountName)
  | .order orderId => db.orders.row orderId
  | .orders scope accountId status carrier =>
      db.orders.listing (orderChosen scope accountId status carrier)
  | .ticket ticketId => db.tickets.row ticketId
  | .tickets scope accountId status => db.tickets.listing (ticketChosen scope accountId status)
  | .source sourceId => db.sources.row sourceId
  | .chunkPage sourceId section_ =>
      (db.documentChunks.find? fun chunk =>
        chunk.sourceId = sourceId && section_.isSome && chunk.section_ = section_).map (·.page)
  | .knownIssueChunks => db.documentChunks.filter mentionsKnownIssue
  | .slaTarget sourceId severity plan accountId =>
      slaTargetRow db.slaTargets sourceId severity plan accountId
  | .search ftsQuery filters topK =>
      (((matches_ db.documentChunks ftsQuery).filter (resultChosen filters)).insertionSort
        resultBefore).take topK
  | .action actionId => db.actions.row actionId

end Db

-- Functions that only read, and may raise.
abbrev Query := Fallible PyError Select Select.Answer

def select (query : Select) : Query query.Answer := Fallible.ask query

def Query.on [Host] {α : Type} (query : Query α) (db : Db) : Except PyError α :=
  Fallible.outcome db.answer query

end ParcelPilot
