import Courier.Conversation
import Courier.Receipt
import Courier.Rpc.Envelope
import Courier.Rpc.Request
import Courier.Text.Marked

/-!
# The client of a node

One request, one reply. A reply counts only if its status is a success, its body is complete and
spells an envelope, and the envelope carries no error; each of these is looked at before the
next.
-/
namespace Courier

/-- Milliseconds after which a reply is given up. -/
def replyTimeout : Nat := 30000

/-- Whether a status is a success. -/
def isSuccessStatus (status : Nat) : Bool := 200 ≤ status && status < 300

namespace Rpc.Envelope

/-- The result that an envelope carries, or the error. -/
def outcome (envelope : Envelope) : Except Rpc.Error (Option Json.Value) :=
  match envelope.error with
  | some error => .error (.rpc error.code error.message)
  | none => .ok envelope.result

end Rpc.Envelope

namespace Reply

/-- The envelope that a reply brings, or why there is none. -/
def envelope : Reply → Except Rpc.Error Rpc.Envelope
  | .lost => .error (.requestFailed .lost)
  | .received status body =>
    if isSuccessStatus status then
      match body with
      | none => .error (.requestFailed .broken)
      | some bytes =>
        match Rpc.Envelope.ofBytes? bytes with
        | some envelope => .ok envelope
        | none => .error (.requestFailed (.undecodable bytes))
    else .error (.httpStatus status ((body.map Text.ofBytes).getD ""))

/-- The result that a reply carries, if it carries one, or why it counts as failed. -/
def outcome (reply : Reply) : Except Rpc.Error (Option Json.Value) :=
  reply.envelope.bind Rpc.Envelope.outcome

end Reply

namespace Client

/-- What becomes of the reply to a request. The result of an envelope goes to the log even if the
envelope carries an error beside it. -/
def take (request : Rpc.Request) (reply : Reply) :
    Conversation (Except Rpc.Error (Option Json.Value)) :=
  match reply.envelope with
  | .error error => return .error error
  | .ok envelope => do
    .record (.response request.method envelope.result)
    return envelope.outcome

/-- Posts a request and gives what the reply carries. A URL that names no endpoint is not posted
to. -/
def call (url : String) (request : Rpc.Request) :
    Conversation (Except Rpc.Error (Option Json.Value)) := do
  .record (.request request)
  match Endpoint.parse? url with
  | none => return .error (.requestFailed .unsendable)
  | some endpoint => .post endpoint request.text (take request)

/-- The hash that a result holds. -/
def hashOf : Option Json.Value → Except Rpc.Error String
  | some (.string hash) => .ok hash
  | some other => .error (.invalidResponse ("expected transaction hash, got " ++ other.text))
  | none => .error (.invalidResponse "Missing result field")

/-- The receipt that a result holds, if it holds one: an empty result is none yet. -/
def receiptOf (result : Option Json.Value) : Option Receipt :=
  (result.filter Json.Value.isTruthy).map Receipt.mk

/-- Sends a transaction and gives its hash. -/
def sendTransaction (url : String) (transaction : Transaction) :
    Conversation (Except Rpc.Error String) := do
  let outcome ← call url (.sendTransaction transaction)
  return outcome.bind hashOf

/-- Asks for the receipt of a transaction. -/
def transactionReceipt (url hash : String) :
    Conversation (Except Rpc.Error (Option Receipt)) := do
  let outcome ← call url (.transactionReceipt hash)
  return outcome.map receiptOf

end Client

end Courier
