import Courier.Script
import Courier.Submitter

/-!
# Sessions

A session is a list of steps that one submitter takes against one node. A step that names no
hash means the one of the last transaction that the session sent, or the empty one before that.
-/
namespace Courier.Session

/-- One thing to do. -/
inductive Step where
  /-- Send a call with the submitter's gas and price. -/
  | submit (call : Call)
  /-- Ask for a receipt, so many times at most. -/
  | await (hash : Option String) (polls : Nat)
  /-- Send a call with a gas and price of its own, or the default ones. -/
  | send (call : Call) (gas : Option (UInt64 × UInt64))
  /-- Ask for a receipt once. -/
  | receipt (hash : Option String)
  deriving DecidableEq, Repr

/-- What a step comes to. -/
inductive StepResult where
  /-- A hash, or why there is none. -/
  | hash (result : Except SubmitError String)
  /-- A receipt, if there is one, or why it could not be asked for. -/
  | receipt (result : Except Rpc.Error (Option Receipt))

/-- The hash of the last transaction sent, after a step. -/
def StepResult.lastHash (last : String) : StepResult → String
  | .hash (.ok sent) => sent
  | _ => last

/-- A call sent by the client alone, so that the submitter writes nothing to the log. -/
def sendQuietly (url : String) (call : Call) (gas : Option (UInt64 × UInt64)) :
    Conversation (Except SubmitError String) :=
  match Transaction.ofCallWith call gas with
  | .error error => return .error (.encoding error)
  | .ok transaction => do
    let result ← Client.sendTransaction url transaction
    return result.mapError .rpc

/-- A step, after a last hash. -/
def Step.run (submitter : Submitter) (last : String) : Step → Conversation StepResult
  | .submit call => return .hash (← submitter.submit call)
  | .await hash polls => return .receipt (← submitter.awaitReceipt (hash.getD last) polls)
  | .send call gas => return .hash (← sendQuietly submitter.url call gas)
  | .receipt hash =>
    return .receipt (← Client.transactionReceipt submitter.url (hash.getD last))

/-- The transcripts of steps after a last hash, each taking up the answers that the one before
it left. -/
def playFrom (reaches : Endpoint → Bool) (submitter : Submitter) (last : String) :
    List Step → List Answer → List (Transcript StepResult)
  | [], _ => []
  | step :: steps, answers =>
    let transcript := (step.run submitter last).play reaches answers
    transcript ::
      playFrom reaches submitter (transcript.result.lastHash last) steps transcript.rest

/-- The transcripts of a session. -/
def play (reaches : Endpoint → Bool) (submitter : Submitter) (steps : List Step)
    (answers : List Answer) : List (Transcript StepResult) :=
  playFrom reaches submitter "" steps answers

end Courier.Session
