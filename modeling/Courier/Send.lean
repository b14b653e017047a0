import Courier.Submitter

/-!
# Sending a call to its end

A send is checked, submitted, awaited and judged. The checks need no node. The hash is printed
as soon as the node has taken the transaction. Only a receipt that reports success makes a send
a success.
-/
namespace Courier

/-- The number of polls for a receipt unless told otherwise. -/
def defaultPolls : UInt64 := 30

/-- A send that a user asks for. -/
structure Send where
  /-- Where the node is. -/
  url : String := "http://localhost:8547"
  /-- What is sent. -/
  call : Call := ⟨"", "", "", ""⟩
  /-- How often the receipt is asked for at most. -/
  polls : UInt64 := defaultPolls
  /-- The gas that the transaction may use. -/
  gas : UInt64 := defaultGas
  /-- The price of gas, in wei. -/
  gasPrice : UInt64 := defaultGasPrice
  /-- Milliseconds between two polls. -/
  pollInterval : UInt64 := defaultPollInterval
  deriving DecidableEq, Repr

/-- How the wait for a receipt ended. -/
inductive Outcome where
  /-- The receipt reports success. -/
  | confirmed (receipt : Receipt)
  /-- The receipt reports anything else. -/
  | reverted (receipt : Receipt)
  /-- There is no receipt. -/
  | timedOut
  deriving Repr

/-- A send that got as far as a hash. -/
structure Report where
  /-- The hash that the node gave to the transaction. -/
  hash : String
  /-- How the wait ended. -/
  outcome : Outcome
  deriving Repr

/-- Why a send is no success. -/
inductive Failure where
  /-- There is no URL. -/
  | emptyUrl
  /-- The URL does not begin as one of the web. -/
  | unknownScheme
  /-- The sender is no address. -/
  | invalidSender (error : EncodingError)
  /-- The target is no address. -/
  | invalidTarget (error : EncodingError)
  /-- The parameters are not whole bytes in hexadecimal. -/
  | invalidParams (error : EncodingError)
  /-- There is to be no poll. -/
  | noPolls
  /-- There is to be no gas. -/
  | noGas
  /-- The transaction was not sent, or not taken. -/
  | notSubmitted (error : SubmitError)
  /-- A poll failed in a way that will not pass. -/
  | notFetched (hash : String) (error : Rpc.Error)
  /-- The receipt does not report success. -/
  | reverted (hash status : String)
  /-- There is no receipt. -/
  | timedOut (hash : String)
  deriving DecidableEq, Repr

namespace Failure

/-- What failed. -/
def headline : Failure → String
  | .emptyUrl => "RPC URL cannot be empty"
  | .unknownScheme => "RPC URL must start with http:// or https://"
  | .invalidSender _ => "Invalid sender address"
  | .invalidTarget _ => "Invalid target address"
  | .invalidParams _ => "Invalid params"
  | .noPolls => "timeout must be at least 1 second"
  | .noGas => "gas must be greater than 0"
  | .notSubmitted _ => "Failed to send transaction"
  | .notFetched hash _ => "Failed to fetch receipt for transaction " ++ hash
  | .reverted hash status => "Transaction " ++ hash ++ " reverted (status: " ++ status ++ ")"
  | .timedOut hash => "No receipt for transaction " ++ hash ++ " before timeout"

/-- What brought it about, the nearest cause first. -/
def causes (wording : Rpc.Wording) : Failure → List String
  | .invalidSender error | .invalidTarget error | .invalidParams error => [error.message]
  | .notSubmitted error => error.message wording :: error.causes wording
  | .notFetched _ error => error.message wording :: error.causes wording
  | .emptyUrl | .unknownScheme | .noPolls | .noGas | .reverted .. | .timedOut _ => []

/-- The wording of a failure: what failed, and then each cause behind a colon. -/
def message (wording : Rpc.Wording) (failure : Failure) : String :=
  ": ".intercalate (failure.headline :: failure.causes wording)

end Failure

namespace Report

/-- Nothing for a transaction that succeeded, and the reason for any other. -/
def ensureSuccess (report : Report) : Except Failure Unit :=
  match report.outcome with
  | .confirmed _ => .ok ()
  | .reverted receipt => .error (.reverted report.hash receipt.statusDisplay)
  | .timedOut => .error (.timedOut report.hash)

end Report

namespace Send

/-- Whether a URL begins as one of the web; the letters must be small. -/
def hasWebScheme (url : String) : Bool :=
  "http://".toList.isPrefixOf url.toList || "https://".toList.isPrefixOf url.toList

/-- The checks that need no node, in order. -/
def validate (send : Send) : Except Failure Unit := do
  if send.url.isEmpty then throw .emptyUrl
  if !hasWebScheme send.url then throw .unknownScheme
  let _ ← (Address.parse send.call.sender).mapError Failure.invalidSender
  let _ ← (Address.parse send.call.target).mapError Failure.invalidTarget
  let _ ← (Params.normalize send.call.params).mapError Failure.invalidParams
  if send.polls = 0 then throw .noPolls
  if send.gas = 0 then throw .noGas

/-- What stays the same while a call is sent. -/
def submitter (send : Send) : Submitter where
  url := send.url
  gas := send.gas
  gasPrice := send.gasPrice
  pollInterval := send.pollInterval

/-- The outcome that a wait for a receipt comes to. -/
def outcomeOf : Option Receipt → Outcome
  | some receipt => if receipt.isSuccess then .confirmed receipt else .reverted receipt
  | none => .timedOut

/-- The event that an outcome is worth. -/
def outcomeEvent (polls : Nat) : Outcome → Event
  | .confirmed receipt => .confirmed receipt.summary
  | .reverted receipt => .reverted receipt.summary
  | .timedOut => .exhausted polls

/-- Submits a call, prints its hash and awaits the receipt. The last line in the log of a real run,
which says how long the send took, is left out: it shows nothing but a clock. -/
def execute (send : Send) : Conversation (Except Failure Report) := do
  .record (.endpoint send.url)
  match ← send.submitter.submit send.call with
  | .error error => return .error (.notSubmitted error)
  | .ok hash =>
    .printLine hash
    match ← send.submitter.awaitReceipt hash send.polls.toNat with
    | .error error => return .error (.notFetched hash error)
    | .ok receipt =>
      let outcome := outcomeOf receipt
      .record (outcomeEvent send.polls.toNat outcome)
      return .ok ⟨hash, outcome⟩

end Send

end Courier
