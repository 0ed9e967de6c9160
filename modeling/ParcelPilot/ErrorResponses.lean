import ParcelPilot.Exceptions
import ParcelPilot.ServiceGuarantees

namespace ParcelPilot

open Fallible Interleaving

section Agents

variable {auth : AuthContext} {clock : SnapshotClock} {tz : Int}

variable [Host]

end Agents

section Actions

variable [Host] {db : Db} {actionId payloadHash userId : String} {auth : AuthContext}
  {clock : SnapshotClock} {user : DemoUser}

end Actions

section Responses

variable [Host] {service : Deployment} {request : Request} {response : HttpResponse} {db start : Db}
  {user : DemoUser} {clock : SnapshotClock}

-- A snapshot time that can be read where there is one, and the SDK where a key asks
-- for it.
def SnapshotRow.Readable : SnapshotRow → Prop
  | .noTable | .unreadable _ => False
  | .noRow | .aware _ => True

def Deployment.Configured (service : Deployment) : Prop :=
  service.snapshotTime.Readable ∧ (service.live = true → service.llmExtra = true)

-- What a failed dependency answers with
def Deployment.Reports (service : Deployment) (statusCode : Nat) : Prop :=
  statusCode = 400 ∨ statusCode = 503 ∨ (statusCode = 500 ∧ ¬ service.Configured)

variable {config : Config Stmt Stmt.Answer Db Request HttpResponse}

end Responses

end ParcelPilot
