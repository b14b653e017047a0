import Courier.Rpc.Error

/-!
# Events

What is worth a line in the log while a transaction is sent and awaited. Three parts of the program
write to one log: the send as a whole, the submitter, and the client below them.
-/
namespace Courier

/-- How much a line of the log matters. -/
inductive Level where
  /-- Something is off. -/
  | warn
  /-- The usual course of things. -/
  | info
  /-- For those who look closely. -/
  | debug
  deriving DecidableEq, Repr

/-- The name of a level in the log. -/
def Level.name : Level → String
  | .warn => "WARN"
  | .info => "INFO"
  | .debug => "DEBUG"

/-- A part of the program that writes to the log. -/
inductive Origin where
  /-- The send as a whole. -/
  | send
  /-- The submitter, which submits and awaits. -/
  | submitter
  /-- The client, which exchanges requests for answers. -/
  | client
  deriving DecidableEq, Repr

/-- Something worth a line in the log. -/
inductive Event where
  /-- A transaction is to be sent to this URL. -/
  | endpoint (url : String)
  /-- A transaction goes out. -/
  | sending (target data : String)
  /-- The node took it and gave it a hash. -/
  | submitted (hash : String)
  /-- Its receipt is asked for, so many times at most. -/
  | waiting (polls : Nat) (hash : String)
  /-- There is no receipt yet. -/
  | pending (poll polls : Nat)
  /-- A poll failed in a way that may pass. -/
  | retrying (poll polls : Nat) (error : Rpc.Error)
  /-- There is a receipt. -/
  | found (poll : Nat)
  /-- The receipt reports success. -/
  | confirmed (summary : String)
  /-- The receipt reports anything else. -/
  | reverted (summary : String)
  /-- No poll brought a receipt. -/
  | exhausted (polls : Nat)
  /-- A request is to be sent. -/
  | request (sent : Rpc.Request)
  /-- A request for a method has brought an envelope with this result, or without one. -/
  | response (method : String) (result : Option Json.Value)
  deriving Repr

namespace Event

/-- Which part of the program writes the line of an event. -/
def origin : Event → Origin
  | .endpoint .. | .confirmed .. | .reverted .. | .exhausted .. => .send
  | .sending .. | .submitted .. | .waiting .. | .pending .. | .retrying .. | .found .. => .submitter
  | .request .. | .response .. => .client

/-- How much an event matters. -/
def level : Event → Level
  | .pending .. | .retrying .. | .found .. | .request .. | .response .. => .debug
  | .reverted .. | .exhausted .. => .warn
  | .endpoint .. | .sending .. | .submitted .. | .waiting .. | .confirmed .. => .info

/-- The wording of an event. -/
def message (wording : Rpc.Wording) : Event → String
  | .endpoint url => "RPC endpoint: " ++ url
  | .sending target data => "Sending transaction to " ++ target ++ " (data: " ++ data ++ ")"
  | .submitted hash => "Transaction submitted: " ++ hash
  | .waiting polls hash =>
    "Waiting up to " ++ toString polls ++ " polls for receipt of " ++ hash
  | .pending poll polls =>
    "Poll " ++ toString poll ++ "/" ++ toString polls ++ ": receipt not available yet"
  | .retrying poll polls error =>
    "Poll " ++ toString poll ++ "/" ++ toString polls ++ " failed, retrying: " ++
      error.message wording
  | .found poll => "Receipt found on poll " ++ toString poll
  | .confirmed summary => "✓ Transaction confirmed: " ++ summary
  | .reverted summary => "Transaction reverted: " ++ summary
  | .exhausted polls => "No receipt after " ++ toString polls ++ " polls"
  | .request sent => "RPC request: " ++ wording.request sent
  | .response method result => "RPC response to " ++ method ++ ": " ++ wording.result result

/-- The line of the log. -/
def line (wording : Rpc.Wording) (event : Event) : String :=
  event.level.name ++ " " ++ event.message wording

end Event

end Courier
