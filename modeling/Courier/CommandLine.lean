import Courier.Decimal.Binary64
import Courier.Send

/-!
# The command line

Four or five positionals and, in any order between them, options and flags. Arguments are read
from left to right by a machine that stops at the first thing that is wrong and at the first
request for help or the version, whichever comes first; what is missing shows only at the end.

An option takes its value after `=` or as the next argument, which may then not begin with `-`
unless it is `-` alone. After `--` every argument is a positional. The number of polls may come
from the environment; that value is looked at only if the option is not given.
-/
namespace Courier.CommandLine

/-- The options that take a number. -/
inductive NumberOption where
  /-- The number of polls. -/
  | polls
  /-- The gas that the transaction may use. -/
  | gas
  /-- The price of gas. -/
  | gasPrice
  /-- Milliseconds between two polls. -/
  | pollInterval
  deriving DecidableEq, Repr

/-- The option that a name stands for. -/
def NumberOption.ofName? : String → Option NumberOption
  | "timeout" => some .polls
  | "gas" => some .gas
  | "gas-price" => some .gasPrice
  | "poll-interval-ms" => some .pollInterval
  | _ => none

/-- The name that an option is given by. -/
def NumberOption.name : NumberOption → String
  | .polls => "timeout"
  | .gas => "gas"
  | .gasPrice => "gas-price"
  | .pollInterval => "poll-interval-ms"

/-- The least number that an option takes. -/
def NumberOption.least : NumberOption → Nat
  | .polls => 1
  | _ => 0

/-- What is wrong with a command line. -/
inductive UsageError where
  /-- An argument begins with `-` and is nothing known. -/
  | unknown (argument : String)
  /-- A flag or option is given again. -/
  | repeated (name : String)
  /-- A flag is given a value. -/
  | valueOfFlag (name : String)
  /-- An option is not given a value. -/
  | missingValue (option : NumberOption)
  /-- A value is no number that the option takes. -/
  | invalidValue (option : NumberOption) (value : String)
  /-- There is a positional too many. -/
  | surplus (argument : String)
  /-- There are too few positionals. -/
  | missingPositionals
  deriving DecidableEq, Repr

/-- The wording of what is wrong. -/
def UsageError.message : UsageError → String
  | .unknown argument => "unexpected argument '" ++ argument ++ "'"
  | .repeated name => "'" ++ name ++ "' is given more than once"
  | .valueOfFlag name => "'" ++ name ++ "' takes no value"
  | .missingValue option => "'--" ++ option.name ++ "' needs a value"
  | .invalidValue option value => "invalid value '" ++ value ++ "' for '--" ++ option.name ++ "'"
  | .surplus argument => "unexpected argument '" ++ argument ++ "'"
  | .missingPositionals =>
    "needed are <rpc_url> <from_addr> <to_addr> <function_sig> and, if any, [params]"

/-- Why the machine stops before the end. -/
inductive Stop where
  /-- Help is asked for. -/
  | help
  /-- The version is asked for. -/
  | version
  /-- Something is wrong. -/
  | usage (error : UsageError)
  deriving DecidableEq, Repr

/-- What a command line comes to. -/
inductive Request where
  /-- Help is asked for. -/
  | help
  /-- The version is asked for. -/
  | version
  /-- Something is wrong. -/
  | usage (error : UsageError)
  /-- A call is to be sent, with every event in the log or only those that matter. -/
  | send (send : Send) (verbose : Bool)
  deriving DecidableEq, Repr

/-- The numbers given for options so far. -/
structure Numbers where
  /-- The number of polls. -/
  polls : Option UInt64 := none
  /-- The gas that the transaction may use. -/
  gas : Option UInt64 := none
  /-- The price of gas. -/
  gasPrice : Option UInt64 := none
  /-- Milliseconds between two polls. -/
  pollInterval : Option UInt64 := none
  deriving DecidableEq, Repr

namespace Numbers

/-- The number given for an option. -/
def get (numbers : Numbers) : NumberOption → Option UInt64
  | .polls => numbers.polls
  | .gas => numbers.gas
  | .gasPrice => numbers.gasPrice
  | .pollInterval => numbers.pollInterval

/-- The numbers with one more. -/
def set (numbers : Numbers) (value : UInt64) : NumberOption → Numbers
  | .polls => { numbers with polls := some value }
  | .gas => { numbers with gas := some value }
  | .gasPrice => { numbers with gasPrice := some value }
  | .pollInterval => { numbers with pollInterval := some value }

end Numbers

/-- What has been read so far. -/
structure State where
  /-- The positionals, in reverse. -/
  positionals : List String := []
  /-- The numbers given for options. -/
  numbers : Numbers := {}
  /-- Whether every event is to be in the log. -/
  verbose : Bool := false
  /-- The option that waits for its value. -/
  waiting : Option NumberOption := none
  /-- Whether every argument from here on is a positional. -/
  plain : Bool := false
  deriving DecidableEq, Repr

/-- The number of 64 bits that a text spells: decimal digits, a plus sign before them or not. -/
def number? (text : String) : Option UInt64 :=
  let digits := match text.toList with
    | '+' :: rest => rest
    | all => all
  if digits.isEmpty || !digits.all Char.isDigit then none
  else
    let value := Decimal.digitsValue digits
    if value < UInt64.size then some (UInt64.ofNat value) else none

/-- The number that an option takes from a text. -/
def NumberOption.value? (option : NumberOption) (text : String) : Option UInt64 :=
  (number? text).filter fun value => option.least ≤ value.toNat

/-- How many positionals there may be. -/
def maxPositionals : Nat := 5

namespace State

/-- After a positional. -/
def positional (state : State) (argument : String) : Except Stop State :=
  if state.positionals.length < maxPositionals then
    .ok { state with positionals := argument :: state.positionals }
  else .error (.usage (.surplus argument))

/-- After the value of an option. -/
def value (state : State) (option : NumberOption) (text : String) : Except Stop State :=
  if (state.numbers.get option).isSome then .error (.usage (.repeated ("--" ++ option.name)))
  else
    match option.value? text with
    | some value => .ok { state with numbers := state.numbers.set value option, waiting := none }
    | none => .error (.usage (.invalidValue option text))

/-- After a request for every event in the log. -/
def beVerbose (state : State) : Except Stop State :=
  if state.verbose then .error (.usage (.repeated "--verbose"))
  else .ok { state with verbose := true }

/-- After an argument of two dashes, a name and, if there is one, a value. -/
def long (state : State) (name : String) (text : Option String) : Except Stop State :=
  match NumberOption.ofName? name, text with
  | some option, some text => state.value option text
  | some option, none =>
    if (state.numbers.get option).isSome then .error (.usage (.repeated ("--" ++ option.name)))
    else .ok { state with waiting := some option }
  | none, text =>
    if name = "help" ∨ name = "version" ∨ name = "verbose" then
      if text.isSome then .error (.usage (.valueOfFlag ("--" ++ name)))
      else if name = "help" then .error .help
      else if name = "version" then .error .version
      else state.beVerbose
    else .error (.usage (.unknown ("--" ++ name)))

/-- After one letter of an argument of one dash. -/
def short (state : State) (letter : Char) : Except Stop State :=
  if letter = 'h' then .error .help
  else if letter = 'V' then .error .version
  else if letter = 'v' then state.beVerbose
  else .error (.usage (.unknown (String.ofList ['-', letter])))

/-- After an argument for which no option waits. -/
def free (state : State) (argument : String) : Except Stop State :=
  match argument.toList with
  | ['-', '-'] => .ok { state with plain := true }
  | '-' :: '-' :: rest =>
    let name := String.ofList (rest.takeWhile (· ≠ '='))
    match rest.dropWhile (· ≠ '=') with
    | _ :: text => state.long name (some (String.ofList text))
    | [] => state.long name none
  | ['-'] => state.positional argument
  | '-' :: letters => letters.foldlM short state
  | _ => state.positional argument

/-- After an argument. -/
def step (state : State) (argument : String) : Except Stop State :=
  if state.plain then state.positional argument
  else
    match state.waiting with
    | some option =>
      if argument.toList.head? = some '-' ∧ argument ≠ "-" then
        .error (.usage (.missingValue option))
      else state.value option argument
    | none => state.free argument

/-- The number of polls: the one given, else the one of the environment, else the usual one. -/
def polls (state : State) (environment : Option String) : Except Stop UInt64 :=
  match state.numbers.polls, environment with
  | some polls, _ => .ok polls
  | none, none => .ok defaultPolls
  | none, some text =>
    match NumberOption.polls.value? text with
    | some polls => .ok polls
    | none => .error (.usage (.invalidValue .polls text))

/-- What has been read when the arguments end. -/
def finish (state : State) (environment : Option String) : Except Stop (Send × Bool) := do
  if let some option := state.waiting then throw (.usage (.missingValue option))
  let polls ← state.polls environment
  let send (url sender target signature params : String) : Send :=
    { url, polls,
      call := { sender, target, signature, params }
      gas := state.numbers.gas.getD defaultGas
      gasPrice := state.numbers.gasPrice.getD defaultGasPrice
      pollInterval := state.numbers.pollInterval.getD defaultPollInterval }
  match state.positionals.reverse with
  | [url, sender, target, signature] =>
    return (send url sender target signature "", state.verbose)
  | [url, sender, target, signature, params] =>
    return (send url sender target signature params, state.verbose)
  | _ => throw (.usage .missingPositionals)

end State

/-- What a list of arguments comes to, with the number of polls that the environment gives. -/
def read (arguments : List String) (environment : Option String) : Request :=
  match (arguments.foldlM State.step {}).bind fun state => state.finish environment with
  | .ok (send, verbose) => .send send verbose
  | .error .help => .help
  | .error .version => .version
  | .error (.usage error) => .usage error

end Courier.CommandLine
