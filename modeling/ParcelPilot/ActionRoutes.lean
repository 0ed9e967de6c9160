import ParcelPilot.Actions

namespace ParcelPilot

-- app/api/demo_users.py
structure DemoUser where
  id : String
  displayName : String
  role : Role
  accountScope : Option (List String)
deriving DecidableEq,Repr

def DemoUser.toAuthContext (user : DemoUser) : AuthContext := ⟨user.role,user.accountScope⟩

-- app/api/schemas.py; a body that breaks a length bound never reaches a route.
structure PrepareEscalationRequest where
  ticketId : String
  reason : String
  ticketIdLength : 1 ≤ ticketId.length ∧ ticketId.length ≤ 64
  reasonLength : 1 ≤ reason.length ∧ reason.length ≤ 500

structure ConfirmActionRequest where
  actionId : String
  payloadHash : String
  actionIdLength : 1 ≤ actionId.length ∧ actionId.length ≤ 64
  payloadHashLength : 1 ≤ payloadHash.length ∧ payloadHash.length ≤ 128

structure ExecuteActionRequest where
  actionId : String
  actionIdLength : 1 ≤ actionId.length ∧ actionId.length ≤ 64

structure ActionResponse where
  outcome : ActionOutcome
  viewedAs : DemoUser
deriving DecidableEq

-- app/api/routes/actions.py
def mayAccess (user : DemoUser) (record : ActionRecord) : Bool :=
  user.role = .operationsAdmin || record.userId = user.id

def requireOwnerOrAdmin (actionId : String) (user : DemoUser) : Action Unit := do
  match ← getAction actionId with
  | none => throw (.httpException 404 ("no action " ++ actionId))
  | some record =>
      if mayAccess user record then pure ()
      else throw (.httpException 403 "not authorized to access this action")

def getOwnedActionOr404 (actionId : String) (user : DemoUser) : Action ActionOutcome := do
  match ← getAction actionId with
  | none => throw (.httpException 404 ("no action " ++ actionId))
  | some record =>
      if mayAccess user record then pure (accepted record)
      else throw (.httpException 404 ("no action " ++ actionId))

section Routes

variable [Host]

def prepareRoute (body : PrepareEscalationRequest) (user : DemoUser) (clock : SnapshotClock)
    (requestId : String) (registry : Registry) (uuidHex : String) : Action ActionResponse := do
  let outcome ← prepareEscalation body.ticketId body.reason user.toAuthContext clock user.id requestId
    registry uuidHex
  pure ⟨outcome,user⟩

def confirmRoute (body : ConfirmActionRequest) (user : DemoUser) (clock : SnapshotClock) :
    Action ActionResponse := do
  let outcome ← confirmAction body.actionId body.payloadHash user.toAuthContext clock user.id
  pure ⟨outcome,user⟩

def executeRoute (body : ExecuteActionRequest) (user : DemoUser) (clock : SnapshotClock) :
    Action ActionResponse := do
  requireOwnerOrAdmin body.actionId user
  let outcome ← executeAction body.actionId clock
  pure ⟨outcome,user⟩

def getActionRoute (actionId : String) (user : DemoUser) : Action ActionResponse := do
  let outcome ← getOwnedActionOr404 actionId user
  pure ⟨outcome,user⟩

end Routes

end ParcelPilot
