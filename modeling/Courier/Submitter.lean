import Courier.Client

/-!
# Sending and awaiting

A transaction is sent once and never again. Its receipt is asked for up to a number of times, a
pause lying between two polls: a receipt ends the wait, and so does a failure that will not
pass, while a failure that may pass counts as no receipt yet.
-/
namespace Courier

/-- Why a call was not sent, or not taken. -/
inductive SubmitError where
  /-- The call cannot be encoded. -/
  | encoding (error : EncodingError)
  /-- The request failed. -/
  | rpc (error : Rpc.Error)
  deriving DecidableEq, Repr

namespace SubmitError

/-- The wording of what is wrong, in its own words. -/
def message (wording : Rpc.Wording) : SubmitError → String
  | .encoding error => error.message
  | .rpc error => error.message wording

/-- What brought it about, the nearest cause first. -/
def causes (wording : Rpc.Wording) : SubmitError → List String
  | .encoding _ => []
  | .rpc error => error.causes wording

end SubmitError

/-- Milliseconds between two polls unless told otherwise. -/
def defaultPollInterval : UInt64 := 1000

/-- What stays the same while transactions are sent. -/
structure Submitter where
  /-- Where the node is. -/
  url : String
  /-- The gas that a transaction may use. -/
  gas : UInt64 := defaultGas
  /-- The price of gas, in wei. -/
  gasPrice : UInt64 := defaultGasPrice
  /-- Milliseconds between two polls. -/
  pollInterval : UInt64 := defaultPollInterval
  deriving DecidableEq, Repr

namespace Submitter

/-- Sends a call and gives the hash of its transaction. A call that cannot be encoded is not
sent. -/
def submit (submitter : Submitter) (call : Call) : Conversation (Except SubmitError String) :=
  match Transaction.ofCall call with
  | .error error => return .error (.encoding error)
  | .ok transaction => do
    let transaction := transaction.withGas submitter.gas submitter.gasPrice
    .record (.sending transaction.target.checksum transaction.data)
    match ← Client.sendTransaction submitter.url transaction with
    | .error error => return .error (.rpc error)
    | .ok hash =>
      .record (.submitted hash)
      return .ok hash

/-- The polls from number `poll` on, of which `left` are left out of `polls`. -/
def pollFrom (submitter : Submitter) (hash : String) (polls poll : Nat) :
    Nat → Conversation (Except Rpc.Error (Option Receipt))
  | 0 => return .ok none
  | left + 1 => do
    match ← Client.transactionReceipt submitter.url hash with
    | .ok (some receipt) =>
      .record (.found poll)
      return .ok (some receipt)
    | .ok none =>
      .record (.pending poll polls)
      if poll < polls then .wait submitter.pollInterval.toNat
      pollFrom submitter hash polls (poll + 1) left
    | .error error =>
      if error.isTransient then
        .record (.retrying poll polls error)
        if poll < polls then .wait submitter.pollInterval.toNat
        pollFrom submitter hash polls (poll + 1) left
      else return .error error

/-- Asks for the receipt of a transaction, so many times at most. -/
def awaitReceipt (submitter : Submitter) (hash : String) (polls : Nat) :
    Conversation (Except Rpc.Error (Option Receipt)) := do
  .record (.waiting polls hash)
  submitter.pollFrom hash polls 1 polls

end Submitter

end Courier
