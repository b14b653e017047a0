import Courier.Rpc.Request

/-!
# Failed requests

Why a request failed, and whether the same request may succeed later: a node that cannot be
reached, stutters or reports trouble of its own may recover, while a request that the node can
never answer stays unanswered.

What happens below HTTP is put into words by whatever carries the requests. Those words are
open here (`Wording`); the program puts them where its own texts leave room for them.
-/
namespace Courier.Rpc

/-- Why there is no answer to look at. -/
inductive TransportFault where
  /-- The URL names no place to send to. -/
  | unsendable
  /-- Nothing came back, or not even a whole head. -/
  | lost
  /-- The body of a success broke off. -/
  | broken
  /-- The body of a success spells no envelope. -/
  | undecodable (body : List UInt8)
  deriving DecidableEq, Repr

/-- Texts that come from what the program is built on. They stay the same during a run and may
depend on anything that does, such as the URL. -/
structure Wording where
  /-- What a fault is called. -/
  fault : TransportFault → String
  /-- What brought a fault about, the nearest cause first. -/
  causes : TransportFault → List String
  /-- How a request looks in the log. -/
  request : Request → String
  /-- How the result of an envelope looks in the log. -/
  result : Option Json.Value → String

/-- A request that failed. -/
inductive Error where
  /-- There is no answer to look at. -/
  | requestFailed (fault : TransportFault)
  /-- The answer has another status than success. -/
  | httpStatus (status : Nat) (body : String)
  /-- The node reports an error. -/
  | rpc (code : Int) (message : String)
  /-- The answer is not what was asked for. -/
  | invalidResponse (detail : String)
  deriving DecidableEq, Repr

namespace Error

/-- The code of a method that the node does not know. -/
def methodNotFound : Int := -32601

/-- The code of parameters that the node does not take. -/
def invalidParams : Int := -32602

/-- The wording of a failure. -/
def message (wording : Wording) : Error → String
  | .requestFailed fault => "HTTP request failed: " ++ wording.fault fault
  | .httpStatus status body => "HTTP " ++ toString status ++ ": " ++ body
  | .rpc code message => "RPC error " ++ toString code ++ ": " ++ message
  | .invalidResponse detail => "Invalid RPC response: " ++ detail

/-- What brought a failure about, the nearest cause first. Only a fault has causes, and it is the
first of them itself, although the wording of the failure names it already. -/
def causes (wording : Wording) : Error → List String
  | .requestFailed fault => wording.fault fault :: wording.causes fault
  | .httpStatus .. | .rpc .. | .invalidResponse _ => []

/-- Whether the same request may succeed later. -/
def isTransient : Error → Bool
  | .requestFailed .unsendable => false
  | .requestFailed .lost | .requestFailed .broken | .requestFailed (.undecodable _) => true
  | .httpStatus status _ => 500 ≤ status || status = 429
  | .rpc code _ => code ≠ methodNotFound && code ≠ invalidParams
  | .invalidResponse _ => true

end Error

end Courier.Rpc
