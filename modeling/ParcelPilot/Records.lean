import ParcelPilot.Time
import ParcelPilot.Table

namespace ParcelPilot

-- app/models/enums.py
inductive SourceType where
  | supportPolicy | sop | productDoc | agreement | structuredData
deriving DecidableEq,Repr

inductive SourceStatus where
  | current | deprecated | active
deriving DecidableEq,Repr

inductive AuthorityClass where
  | agreement | policyCurrent | productDoc | historical | deprecated | structured
deriving DecidableEq,Repr

inductive ScopeKind where
  | global | account
deriving DecidableEq,Repr

inductive OrderStatus where
  | draft | booked | pickedUp | delivered
deriving DecidableEq,Repr

inductive TicketStatus where
  | open_ | closed
deriving DecidableEq,Repr

inductive Severity where
  | p1 | p2 | p3
deriving DecidableEq,Repr

def OrderStatus.value : OrderStatus → String
  | .draft => "DRAFT"
  | .booked => "BOOKED"
  | .pickedUp => "PICKED_UP"
  | .delivered => "DELIVERED"

def TicketStatus.value : TicketStatus → String
  | .open_ => "open"
  | .closed => "closed"

def Severity.value : Severity → String
  | .p1 => "P1"
  | .p2 => "P2"
  | .p3 => "P3"

-- app/models/source.py
structure SourceScope where
  kind : ScopeKind
  accountId : Option String
deriving DecidableEq,Repr

def SourceScope.covers (scope : SourceScope) (accountId : Option String) : Bool :=
  match scope.kind,accountId with
  | .global,_ => true
  | .account,none => true
  | .account,some account => some account = scope.accountId

structure SourceDocument where
  sourceId : String
  filename : String
  sourceType : SourceType
  status : SourceStatus
  version : Option String
  effectiveDate : Date
  expiryDate : Option Date
  supersedes : Option String
  supersededBy : Option String
  scope : SourceScope
  authorityClass : AuthorityClass
  checksum : String
  bytes : Nat
  provenance : String
deriving DecidableEq,Repr

def SourceDocument.isActiveAt (source : SourceDocument) (instant : Date) : Bool :=
  if source.effectiveDate > instant then false
  else match source.expiryDate with
    | none => true
    | some expiry => instant ≤ expiry

structure DocumentChunk where
  chunkId : String
  sourceId : String
  filename : String
  page : Nat
  section_ : Option String
  text : String
  normalizedText : String
  status : SourceStatus
  sourceType : SourceType
  accountScope : Option String
  effectiveDate : Date
  authorityClass : AuthorityClass
deriving DecidableEq,Repr

structure SlaTarget where
  sourceId : String
  plan : Option String
  accountId : Option String
  severity : String
  targetText : String
  targetMinutes : Option Int
  is24x7 : Bool
  requiresBusinessCalendar : Bool
deriving DecidableEq,Repr

-- app/models/structured.py; a row holds stamps, a record holds datetimes.
structure Account where
  accountId : String
  accountName : String
  plan : String
  status : String
  csm : String
  contractFile : Option String
  premiumSupport : Bool
  notes : String
deriving DecidableEq,Repr

structure OrderRow where
  orderId : String
  accountId : String
  carrier : String
  status : OrderStatus
  bookedAt : Stamp
  pickupWindowStart : Stamp
  pickupWindowEnd : Stamp
  pickupActualAt : Option Stamp
  shipmentFeeInr : PyFloat
  carrierFault : Bool
  customerFault : Bool
  cancellationRequestedAt : Option Stamp
  notes : String
deriving DecidableEq

structure Order where
  orderId : String
  accountId : String
  carrier : String
  status : OrderStatus
  bookedAt : DateTime
  pickupWindowStart : DateTime
  pickupWindowEnd : DateTime
  pickupActualAt : Option DateTime
  shipmentFeeInr : PyFloat
  carrierFault : Bool
  customerFault : Bool
  cancellationRequestedAt : Option DateTime
  notes : String
deriving DecidableEq

structure TicketRow where
  ticketId : String
  accountId : String
  createdAt : Stamp
  status : TicketStatus
  subject : String
  description : String
  channel : String
  assignedTo : String
  lastCustomerMessageAt : Stamp
  historicalResolution : Option String
deriving DecidableEq

structure Ticket where
  ticketId : String
  accountId : String
  createdAt : DateTime
  status : TicketStatus
  subject : String
  description : String
  channel : String
  assignedTo : String
  lastCustomerMessageAt : DateTime
  historicalResolution : Option String
deriving DecidableEq

-- `_row_to_order`, `_row_to_ticket`
def OrderRow.toOrder (row : OrderRow) (tz : Int) : Order where
  orderId := row.orderId
  accountId := row.accountId
  carrier := row.carrier
  status := row.status
  bookedAt := row.bookedAt.read tz
  pickupWindowStart := row.pickupWindowStart.read tz
  pickupWindowEnd := row.pickupWindowEnd.read tz
  pickupActualAt := row.pickupActualAt.map (·.read tz)
  shipmentFeeInr := row.shipmentFeeInr
  carrierFault := row.carrierFault
  customerFault := row.customerFault
  cancellationRequestedAt := row.cancellationRequestedAt.map (·.read tz)
  notes := row.notes

def TicketRow.toTicket (row : TicketRow) (tz : Int) : Ticket where
  ticketId := row.ticketId
  accountId := row.accountId
  createdAt := row.createdAt.read tz
  status := row.status
  subject := row.subject
  description := row.description
  channel := row.channel
  assignedTo := row.assignedTo
  lastCustomerMessageAt := row.lastCustomerMessageAt.read tz
  historicalResolution := row.historicalResolution

-- app/authorization/context.py
inductive Role where
  | operationsAdmin | supportAgent | restrictedSupport
deriving DecidableEq,Repr

def Role.value : Role → String
  | .operationsAdmin => "operations_admin"
  | .supportAgent => "support_agent"
  | .restrictedSupport => "restricted_support"

structure AuthContext where
  role : Role
  accountScope : Option (List String)
deriving DecidableEq,Repr

def AuthContext.allowsAccount (auth : AuthContext) (accountId : String) : Bool :=
  match auth.accountScope with
  | none => true
  | some scope => accountId ∈ scope

-- app/domain/outcomes.py
inductive TrustState where
  | confident | conditional | uncertain | escalate
deriving DecidableEq,Repr

def TrustState.value : TrustState → String
  | .confident => "CONFIDENT"
  | .conditional => "CONDITIONAL"
  | .uncertain => "UNCERTAIN"
  | .escalate => "ESCALATE"

inductive EvidenceKind where
  | document | structured | calculation
deriving DecidableEq,Repr

structure EvidenceRef where
  kind : EvidenceKind
  sourceId : String
  locator : Option String
  note : Option String
deriving DecidableEq,Repr

structure Conflict where
  winnerSourceId : String
  loserSourceId : String
  scope : String
  reason : String
  needsHumanReview : Bool
deriving DecidableEq,Repr

-- The envelope of every domain service.
structure DecisionResult (τ : Type) where
  result : Option τ
  trustState : TrustState
  reason : String
  evidence : List EvidenceRef := []
  assumptions : List String := []
  conflicts : List Conflict := []
  calculationInputs : List (String × PyValue) := []
  needsHumanReview : Bool := false

def trustFrom (reviewRequired hasAssumptions : Bool) : TrustState :=
  if reviewRequired then .escalate else if hasAssumptions then .conditional else .confident

-- app/actions/models.py
inductive ActionStatus where
  | pendingConfirmation | confirmed | executed | rejected | expired | failed | cancelled
deriving DecidableEq,Repr

def ActionStatus.value : ActionStatus → String
  | .pendingConfirmation => "PENDING_CONFIRMATION"
  | .confirmed => "CONFIRMED"
  | .executed => "EXECUTED"
  | .rejected => "REJECTED"
  | .expired => "EXPIRED"
  | .failed => "FAILED"
  | .cancelled => "CANCELLED"

inductive ActionType where
  | prepareEscalation
deriving DecidableEq,Repr

def ActionType.value : ActionType → String
  | .prepareEscalation => "prepare_escalation"

-- the one shape `proposed_change` is given
structure ProposedChange where
  newPriority : String
  previousStatus : String
  severity : String
  slaBreached : Bool
deriving DecidableEq,Repr

structure ActionRecord where
  actionId : String
  requestId : String
  userId : String
  actionType : ActionType
  target : String
  proposedChange : ProposedChange
  reason : String
  evidence : List EvidenceRef
  risk : String
  payloadHash : String
  status : ActionStatus
  preparedAt : DateTime
  expiresAt : DateTime
  confirmedAt : Option DateTime
  executedAt : Option DateTime
  idempotencyKey : String
  failureReason : Option String
deriving DecidableEq

-- The database (app/db/schema.sql): typed rows as ingestion validates them and
-- as the repositories read them back, in stored order.
structure Db where
  sources : Table SourceDocument.sourceId
  documentChunks : List DocumentChunk
  slaTargets : List SlaTarget
  accounts : Table Account.accountId
  orders : Table OrderRow.orderId
  tickets : Table TicketRow.ticketId
  actions : Table ActionRecord.actionId

def Db.empty : Db := ⟨Table.empty,[],[],Table.empty,Table.empty,Table.empty,Table.empty⟩

end ParcelPilot
