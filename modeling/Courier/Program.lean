import Courier.CommandLine
import Courier.Text.Terminal

/-!
# The program

A command line becomes a conversation and, at its end, a verdict. The exit code is zero only for
help, the version and a transaction that succeeded.
-/
namespace Courier.Program

/-- How a run of the program ends. -/
inductive Verdict where
  /-- Help was shown. -/
  | help
  /-- The version was shown. -/
  | version
  /-- The command line is wrong. -/
  | usage (error : CommandLine.UsageError)
  /-- The transaction succeeded. -/
  | succeeded
  /-- The send is no success. -/
  | failed (failure : Failure)
  deriving DecidableEq, Repr

namespace Verdict

/-- The exit code. -/
def exitCode : Verdict → UInt8
  | .help | .version | .succeeded => 0
  | .usage _ | .failed _ => 1

/-- The wording of a failed send. -/
def failureText? (wording : Rpc.Wording) : Verdict → Option String
  | .failed failure => some (failure.message wording)
  | _ => none

/-- Whether the command line was wrong. -/
def isUsageError : Verdict → Bool
  | .usage _ => true
  | _ => false

/-- What the program says about its end to whoever watches. -/
def complaint? (wording : Rpc.Wording) : Verdict → Option String
  | .usage error => some ("error: " ++ error.message)
  | .failed failure => some ("Error: " ++ failure.message wording)
  | .help | .version | .succeeded => none

end Verdict

/-- The line that names the version. -/
def versionLine : String := "send_tx 0.1.0"

/-- The help. -/
def helpText : String := "\n".intercalate
  ["Send a transaction from an unlocked account and wait for its receipt",
   "",
   "Usage: send_tx [OPTIONS] <rpc_url> <from_addr> <to_addr> <function_sig> [params]",
   "",
   "Arguments:",
   "  <rpc_url>       URL of the node",
   "  <from_addr>     sender, an account that the node holds unlocked",
   "  <to_addr>       contract to call",
   "  <function_sig>  function signature; empty if the params are all of the calldata",
   "  [params]        encoded parameters in hexadecimal",
   "",
   "Options:",
   "      --timeout <N>           receipt polls [env: SEND_TX_TIMEOUT] [default: 30]",
   "      --gas <N>               gas limit [default: 1048576]",
   "      --gas-price <N>         gas price in wei [default: 1000000000]",
   "      --poll-interval-ms <N>  pause between polls in milliseconds [default: 1000]",
   "  -v, --verbose               log every poll",
   "  -h, --help                  show this help",
   "  -V, --version               show the version"]

/-- Whether an event is in the log of a run. The environment is taken to ask for no levels of its
own. -/
def shows (verbose : Bool) (event : Event) : Bool := verbose || event.level ≠ .debug

/-- The line of an event in the log of a run. A URL and what a node says may hold anything; the
log shows it without terminal control. -/
def logLine (wording : Rpc.Wording) (event : Event) : String :=
  Text.Terminal.visible (event.line wording)

/-- A send that is checked first and judged last. -/
def sendAndJudge (send : Send) : Conversation Verdict :=
  match send.validate with
  | .error failure => return .failed failure
  | .ok () => do
    match (← send.execute).bind Report.ensureSuccess with
    | .error failure => return .failed failure
    | .ok () => return .succeeded

/-- A run of the program. -/
def run (arguments : List String) (environment : Option String) : Conversation Verdict :=
  match CommandLine.read arguments environment with
  | .help => do
    .printLine helpText
    return .help
  | .version => do
    .printLine versionLine
    return .version
  | .usage error => return .usage error
  | .send send verbose => (sendAndJudge send).keepEvents (shows verbose)

end Courier.Program
