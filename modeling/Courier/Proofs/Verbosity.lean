import Courier.Proofs.CommandLine.Machine
import Courier.Proofs.Sending

/-!
# Verbosity

The flag that asks for every event in the log changes the log and nothing else. Every step of the
machine that reads the arguments, short of that flag itself, does the same whether the flag has been
met or not (`State.step_withVerbose`), so a run with the flag in front comes to the same end, writes
the same lines and posts the same bodies as the run without it, and the log without it is the log
with it less the lines of the level that it asks for (`run_verbose_filters_log`).
-/
namespace Courier

namespace CommandLine

/-- Whether an argument is a flag that asks for every event in the log, after what has been read:
its name, or its letter as the first one behind a dash. -/
def IsVerboseFlag (state : State) (argument : String) : Prop :=
  state.plain = false ∧ state.waiting = none ∧
    (argument = "--verbose" ∨ ∃ letters, argument.toList = '-' :: 'v' :: letters)

/-- Whether arguments ask for every event in the log before anything is wrong. -/
def AsksForDetail (arguments : List String) : Prop :=
  ∃ before argument after state, arguments = before ++ argument :: after ∧
    before.foldlM State.step {} = .ok state ∧ IsVerboseFlag state argument

namespace State

/-- What has been read, with every event in the log or only those that matter. -/
def withVerbose (verbose : Bool) (state : State) : State := { state with verbose }

@[simp] theorem withVerbose_positionals (verbose : Bool) (state : State) :
    (state.withVerbose verbose).positionals = state.positionals := rfl

@[simp] theorem withVerbose_numbers (verbose : Bool) (state : State) :
    (state.withVerbose verbose).numbers = state.numbers := rfl

@[simp] theorem withVerbose_waiting (verbose : Bool) (state : State) :
    (state.withVerbose verbose).waiting = state.waiting := rfl

@[simp] theorem withVerbose_plain (verbose : Bool) (state : State) :
    (state.withVerbose verbose).plain = state.plain := rfl

variable {state : State} (verbose : Bool)

/-- A positional is taken in the same way whether the flag has been met or not. -/
theorem positional_withVerbose (argument : String) :
    (state.withVerbose verbose).positional argument =
      (state.positional argument).map (withVerbose verbose) := by
  unfold positional
  rw [withVerbose_positionals]
  split <;> rfl

/-- The value of an option is taken in the same way whether the flag has been met or not. -/
theorem value_withVerbose (option : NumberOption) (text : String) :
    (state.withVerbose verbose).value option text =
      (state.value option text).map (withVerbose verbose) := by
  unfold value
  rw [withVerbose_numbers]
  split
  · rfl
  · cases option.value? text <;> rfl

/-- A long name other than that of the flag is taken in the same way. -/
theorem long_withVerbose {name : String} {text : Option String}
    (other : text = none → name ≠ "verbose") :
    (state.withVerbose verbose).long name text =
      (state.long name text).map (withVerbose verbose) := by
  unfold long
  cases NumberOption.ofName? name with
  | some option =>
    cases text with
    | some text => exact value_withVerbose verbose option text
    | none =>
      dsimp only
      rw [withVerbose_numbers]
      split <;> rfl
  | none =>
    cases text with
    | some text =>
      dsimp only
      split <;> rfl
    | none =>
      have unnamed : name ≠ "verbose" := other rfl
      dsimp only
      by_cases help : name = "help"
      · simp [help, Except.map]
      · by_cases version : name = "version"
        · simp [version, Except.map]
        · simp [help, version, unnamed, Except.map]

/-- A letter other than that of the flag stops the machine, in the same way wherever it stands. -/
theorem short_of_ne {letter : Char} (other : letter ≠ 'v') :
    ∃ stop, ∀ state : State, state.short letter = .error stop := by
  unfold short
  by_cases help : letter = 'h'
  · exact ⟨.help, fun _ => if_pos help⟩
  · by_cases version : letter = 'V'
    · refine ⟨.version, fun _ => ?_⟩
      rw [if_neg help, if_pos version]
    · refine ⟨.usage (.unknown (String.ofList ['-', letter])), fun _ => ?_⟩
      rw [if_neg help, if_neg version, if_neg other]

/-- Letters that do not begin with that of the flag do the same whether it has been met or not. -/
theorem cluster_withVerbose {letters : List Char} (other : letters.head? ≠ some 'v') :
    letters.foldlM short (state.withVerbose verbose) =
      (letters.foldlM short state).map (withVerbose verbose) := by
  cases letters with
  | nil => rfl
  | cons letter letters =>
    have unflagged : letter ≠ 'v' := fun flag => other (congrArg some flag)
    obtain ⟨stop, stops⟩ := short_of_ne unflagged
    rw [List.foldlM_cons, List.foldlM_cons, stops, stops]
    rfl

/-- An argument other than the flag is taken in the same way where no option waits. -/
theorem free_withVerbose {argument : String} (unnamed : argument ≠ "--verbose")
    (unlettered : ∀ letters, argument.toList ≠ '-' :: 'v' :: letters) :
    (state.withVerbose verbose).free argument =
      (state.free argument).map (withVerbose verbose) := by
  unfold free
  split
  · rfl
  · rename_i rest _ dashes
    have whole : rest.takeWhile (· ≠ '=') ++ rest.dropWhile (· ≠ '=') = rest :=
      List.takeWhile_append_dropWhile
    dsimp only
    cases valued : rest.dropWhile (· ≠ '=') with
    | cons mark text =>
      exact long_withVerbose verbose fun bare => nomatch bare
    | nil =>
      apply long_withVerbose verbose
      intro _ named
      rw [valued, List.append_nil] at whole
      rw [whole] at named
      have spelled : rest = "verbose".toList := by
        rw [← named, String.toList_ofList]
      apply unnamed
      rw [← String.toList_inj, dashes, spelled]
      rfl
  · exact positional_withVerbose verbose argument
  · rename_i letters _ _ dash
    apply cluster_withVerbose verbose
    intro first
    obtain ⟨others, same⟩ := List.head?_eq_some_iff.1 first
    rw [same] at dash
    exact unlettered others dash
  · exact positional_withVerbose verbose argument

/-- An argument other than the flag is taken in the same way whether the flag has been met or not,
and nothing but the note of that differs afterwards. -/
theorem step_withVerbose {argument : String} (other : ¬IsVerboseFlag state argument) :
    (state.withVerbose verbose).step argument =
      (state.step argument).map (withVerbose verbose) := by
  unfold step
  rw [withVerbose_plain, withVerbose_waiting]
  cases marked : state.plain with
  | true => exact positional_withVerbose verbose argument
  | false =>
    cases waits : state.waiting with
    | some option =>
      rw [if_neg Bool.false_ne_true, if_neg Bool.false_ne_true]
      dsimp only
      split
      · rfl
      · exact value_withVerbose verbose option argument
    | none =>
      apply free_withVerbose verbose
      · intro named
        exact other ⟨marked, waits, .inl named⟩
      · intro letters lettered
        exact other ⟨marked, waits, .inr ⟨letters, lettered⟩⟩

/-- Arguments in a row are taken in the same way whether the flag has been met or not, if none of
them is the flag where it stands. -/
theorem foldlM_step_withVerbose {arguments : List String}
    (other : ∀ before argument after between, arguments = before ++ argument :: after →
      before.foldlM step state = .ok between → ¬IsVerboseFlag between argument) :
    arguments.foldlM step (state.withVerbose verbose) =
      (arguments.foldlM step state).map (withVerbose verbose) := by
  induction arguments generalizing state with
  | nil => rfl
  | cons argument rest ih =>
    have first : ¬IsVerboseFlag state argument := other [] argument rest state rfl rfl
    rw [List.foldlM_cons, List.foldlM_cons, step_withVerbose verbose first]
    cases stepped : state.step argument with
    | error stop => rfl
    | ok next =>
      apply ih
      intro before flag after between split passed
      apply other (argument :: before) flag after between
      · rw [split]
        rfl
      · rw [List.foldlM_cons, stepped]
        exact passed

/-- What has been read comes to the same send. -/
theorem finish_withVerbose (environment : Option String) :
    (state.withVerbose verbose).finish environment =
      (state.finish environment).map fun (send, _) => (send, verbose) := by
  have polled : (state.withVerbose verbose).polls environment = state.polls environment := rfl
  unfold finish
  rw [withVerbose_waiting, withVerbose_numbers, withVerbose_positionals, polled]
  cases state.waiting with
  | some option => rfl
  | none =>
    cases state.polls environment with
    | error stop => rfl
    | ok polls =>
      dsimp only [bind, Except.bind]
      split <;> rfl

end State

/-- With the flag in front, arguments that do not ask for every event themselves come to the same
send, or to the same refusal, help or version. -/
theorem read_verbose {arguments : List String} (quiet : ¬AsksForDetail arguments)
    (environment : Option String) :
    (∃ send, read arguments environment = .send send false ∧
      read ("-v" :: arguments) environment = .send send true) ∨
    read ("-v" :: arguments) environment = read arguments environment ∧
      ∀ send verbose, read arguments environment ≠ .send send verbose := by
  have taken (verbose : Bool) :
      (arguments.foldlM State.step (State.withVerbose verbose {})).bind
          (fun state => state.finish environment) =
        ((arguments.foldlM State.step {}).bind fun state => state.finish environment).map
          fun (send, _) => (send, verbose) := by
    rw [State.foldlM_step_withVerbose verbose]
    · cases arguments.foldlM State.step {} with
      | error stop => rfl
      | ok state => exact State.finish_withVerbose verbose environment
    · intro before argument after between split passed flag
      exact quiet ⟨before, argument, after, between, split, passed, flag⟩
  have flagged : ("-v" :: arguments).foldlM State.step {} =
      arguments.foldlM State.step (State.withVerbose true {}) := rfl
  have loud := taken true
  have plain := taken false
  rw [← flagged] at loud
  change (arguments.foldlM State.step {}).bind _ = _ at plain
  unfold read
  rw [loud]
  generalize (arguments.foldlM State.step {}).bind _ = whole at plain
  cases whole with
  | error stop =>
    refine .inr ⟨rfl, fun send verbose sends => ?_⟩
    cases stop <;> exact nomatch sends
  | ok read =>
    obtain ⟨send, verbose⟩ := read
    have unflagged : verbose = false := congrArg Prod.snd (Except.ok.inj plain)
    rw [unflagged]
    exact .inl ⟨send, rfl, rfl⟩

/-- After the marker the machine takes what follows for positionals. -/
theorem State.plain_of_step_marker {state next : State} (taken : state.step "--" = .ok next) :
    next.plain = true := by
  unfold step at taken
  cases marked : state.plain with
  | true =>
    rw [marked, if_pos rfl] at taken
    have after := (take_positional_eq_ok_iff.1 taken).2
    rw [after]
    exact marked
  | false =>
    rw [marked, if_neg Bool.false_ne_true] at taken
    cases waits : state.waiting with
    | some option =>
      rw [waits] at taken
      exact nomatch taken
    | none =>
      rw [waits] at taken
      have after : State.mk _ _ _ _ _ = next := Except.ok.inj taken
      rw [← after]

/-- Arguments with the marker among them leave the machine taking what follows for positionals. -/
theorem State.plain_of_marker_mem {arguments : List String} {state last : State}
    (marker : "--" ∈ arguments) (taken : arguments.foldlM step state = .ok last) :
    last.plain = true := by
  obtain ⟨before, texts, split⟩ := List.append_of_mem marker
  rw [split, List.foldlM_append, bind_eq_ok_iff] at taken
  obtain ⟨middle, _, later⟩ := taken
  rw [List.foldlM_cons, bind_eq_ok_iff] at later
  obtain ⟨next, met, positionals⟩ := later
  have marked : next = { next with plain := true } := by
    rw [← plain_of_step_marker met]
  rw [marked] at positionals
  obtain ⟨_, _, same⟩ := exists_take_of_marked positionals
  rw [same]

/-- Arguments do not ask for every event if none before the marker is spelled like the flag. -/
theorem not_asksForDetail {arguments : List String}
    (unspelled : ∀ argument ∈ arguments.takeWhile (· ≠ "--"),
      argument ≠ "--verbose" ∧ ¬"-v".toList <+: argument.toList) :
    ¬AsksForDetail arguments := by
  intro ⟨before, argument, after, state, split, passed, unmarked, _, flag⟩
  have early : ∀ earlier ∈ before, decide (earlier ≠ "--") = true := by
    intro earlier member
    rw [decide_eq_true_iff]
    intro marker
    rw [marker] at member
    rw [State.plain_of_marker_mem member passed] at unmarked
    exact nomatch unmarked
  have unlike : argument ≠ "--" := by
    intro marker
    cases flag with
    | inl named => exact absurd (named.symm.trans marker) (by decide)
    | inr lettered =>
      obtain ⟨letters, lettered⟩ := lettered
      rw [marker] at lettered
      exact nomatch lettered
  have member : argument ∈ arguments.takeWhile (· ≠ "--") := by
    rw [split, List.takeWhile_append_of_pos early, List.takeWhile_cons_of_pos (by simp [unlike])]
    exact List.mem_append_right before List.mem_cons_self
  obtain ⟨unnamed, unlettered⟩ := unspelled argument member
  cases flag with
  | inl named => exact unnamed named
  | inr lettered =>
    obtain ⟨letters, lettered⟩ := lettered
    apply unlettered
    rw [lettered]
    exact ⟨letters, rfl⟩

end CommandLine

namespace Program

/-- Whether a line of the log is one of the lowest level. -/
def isDebugLine (line : String) : Bool := "DEBUG ".toList.isPrefixOf line.toList

/-- A run whose command line asks for no send logs nothing. -/
theorem events_run_of_no_send (reaches : Endpoint → Bool) {arguments : List String}
    {environment : Option String}
    (other : ∀ send verbose, CommandLine.read arguments environment ≠ .send send verbose)
    (answers : List Answer) : ((run arguments environment).play reaches answers).events = [] := by
  rw [run]
  cases asked : CommandLine.read arguments environment with
  | help => rfl
  | version => rfl
  | usage error => rfl
  | send send verbose => exact absurd asked (other send verbose)

variable (wording : Rpc.Wording)

/-- The line of an event begins with the name of its level, and a space. -/
theorem toList_logLine (event : Event) :
    (logLine wording event).toList = event.level.name.toList ++ ' ' ::
      (Text.Terminal.View.mk .ground true).visible (event.message wording).toList := by
  have named : (event.line wording).toList =
      event.level.name.toList ++ ' ' :: (event.message wording).toList := by
    unfold Event.line
    rw [String.toList_append, String.toList_append, List.append_assoc]
    rfl
  unfold logLine Text.Terminal.visible
  rw [String.toList_ofList, named]
  cases event.level <;> rfl

/-- The lines of the lowest level are those of its events. -/
theorem isDebugLine_logLine (event : Event) :
    isDebugLine (logLine wording event) = !shows false event := by
  unfold isDebugLine
  rw [toList_logLine]
  unfold shows
  cases event.level <;> rfl

/-- The lines of the events that a quiet run shows are the lines of all events less those of the
lowest level. -/
theorem map_logLine_filter (events : List Event) :
    (events.filter (shows false)).map (logLine wording) =
      (events.map (logLine wording)).filter (!isDebugLine ·) := by
  have shown (event : Event) : (!isDebugLine (logLine wording event)) = shows false event := by
    rw [isDebugLine_logLine, Bool.not_not]
  rw [List.filter_map]
  apply congrArg (List.map (logLine wording))
  apply List.filter_congr
  intro event _
  rw [Function.comp_apply, shown]

end Program

/-- The flag that asks for every event, in front of arguments that do not ask for that themselves,
changes neither the verdict, and so neither the exit code nor the wording of a failure, nor the
output, nor what is posted. The log without the flag is the log with it less the events of the
lowest level, and line by line less the lines that begin with its name, however they are worded. -/
theorem run_verbose_filters_log (reaches : Endpoint → Bool) {arguments : List String}
    (quiet : ¬CommandLine.AsksForDetail arguments) (environment : Option String)
    (answers : List Answer) :
    let plain := (Program.run arguments environment).play reaches answers
    let loud := (Program.run ("-v" :: arguments) environment).play reaches answers
    loud.result = plain.result ∧ loud.output = plain.output ∧ loud.requests = plain.requests ∧
      plain.events = loud.events.filter (·.level ≠ .debug) ∧
      ∀ wording, plain.events.map (Program.logLine wording) =
        (loud.events.map (Program.logLine wording)).filter (!Program.isDebugLine ·) := by
  intro plain loud
  have kept : loud.result = plain.result ∧ loud.lines = plain.lines ∧
      loud.requests = plain.requests ∧ plain.events = loud.events.filter (Program.shows false) := by
    cases CommandLine.read_verbose quiet environment with
    | inl sends =>
      obtain ⟨send, asked, flagged⟩ := sends
      let shown := (Program.sendAndJudge send).play reaches answers
      have all : shown.events.filter (Program.shows true) = shown.events :=
        List.filter_eq_self.2 fun _ _ => rfl
      have short : plain = { shown with events := shown.events.filter (Program.shows false) } :=
        Program.play_run_of_send asked answers
      have long : loud = { shown with events := shown.events.filter (Program.shows true) } :=
        Program.play_run_of_send flagged answers
      rw [short, long, all]
      exact ⟨rfl, rfl, rfl, rfl⟩
    | inr other =>
      obtain ⟨same, unsent⟩ := other
      have alike : loud = plain := by
        show (Program.run _ _).play reaches answers = (Program.run _ _).play reaches answers
        unfold Program.run
        rw [same]
      have silent : plain.events = [] := Program.events_run_of_no_send reaches unsent answers
      rw [alike, silent]
      exact ⟨rfl, rfl, rfl, rfl⟩
  obtain ⟨result, lines, requests, events⟩ := kept
  have output : loud.output = plain.output := by
    unfold Transcript.output
    rw [lines]
  refine ⟨result, output, requests, events, fun wording => ?_⟩
  have logged := Program.map_logLine_filter wording loud.events
  rw [← events] at logged
  exact logged

/-- Behind the marker `-v` is a positional, here the signature, and asks for nothing. The node takes
the transaction and then brings no receipt in two polls, which the log tells of in five lines, and
with the flag in eleven. -/
theorem run_verbose_filters_log_after_marker :
    let address := "0x00000000000000000000000000000000000000fF"
    let arguments := ["http://127.0.0.1:8547", address, address, "--", "-v"]
    let answers : List Answer :=
      [.sent 200 (Text.Utf8.encode "\x7b\"result\":\"0xabc\"\x7d") false, .dropped,
        .sent 503 [] false]
    let wording : Rpc.Wording :=
      ⟨fun _ => "no answer", fun _ => [], (·.text), fun result => (result.getD .null).text⟩
    let plain := (Program.run arguments (some "2")).play (fun _ => true) answers
    let loud := (Program.run ("-v" :: arguments) (some "2")).play (fun _ => true) answers
    loud.events.map Event.level =
        [.info, .info, .debug, .debug, .info, .info, .debug, .debug, .debug, .debug, .warn] ∧
      plain.events.map Event.level = [.info, .info, .info, .info, .warn] ∧
      loud.result = plain.result ∧ loud.output = plain.output ∧ loud.requests = plain.requests ∧
      plain.events.map (Program.logLine wording) =
        (loud.events.map (Program.logLine wording)).filter (!Program.isDebugLine ·) := by
  intro address arguments answers wording plain loud
  have quiet : ¬CommandLine.AsksForDetail arguments := by
    apply CommandLine.not_asksForDetail
    decide
  let send : Send :=
    { url := "http://127.0.0.1:8547", call := ⟨address, address, "-v", ""⟩, polls := 2 }
  have asked : CommandLine.read ("-v" :: arguments) (some "2") = .send send true := by decide
  have accepted : send.validate = .ok () := by
    simp only [send, address]
    rfl
  obtain ⟨transaction, encoded⟩ := Send.exists_transaction_of_validate accepted
  have reached : Reached (fun _ => true) send.url := reached_local
  have there : Reached (fun _ => true) send.submitter.url := reached
  have delivers : Delivers answers.head? ⟨none, none, some (.string "0xabc"), none⟩ :=
    delivers_of_ofText? (.object [(.ofText "result", .scalar (.string (.ofText "0xabc")))])
      (by decide) (by decide) rfl rfl
  have taken : submissionOf answers.head? = .ok "0xabc" :=
    submissionOf_eq_ok_iff.2 ⟨_, delivers, rfl, rfl⟩
  have passing : ∀ place < 2, Pending answers.tail[place]? ∨ Transient answers.tail[place]? := by
    intro place below
    obtain rfl | rfl : place = 0 ∨ place = 1 := by omega
    · exact .inr (.unusable .dropped)
    · exact .inr (.refused (.intro (by decide)) (by decide))
  have waited := Submitter.play_awaitReceipt_of_passing "0xabc" there passing
  have polled : Submitter.pollsEvents "0xabc" 2 1 2 answers.tail =
      [.request (.transactionReceipt "0xabc"), .retrying 1 2 (.requestFailed .lost),
        .request (.transactionReceipt "0xabc"), .retrying 2 2 (.httpStatus 503 "")] := rfl
  have levels : loud.events.map Event.level =
      [.info, .info, .debug, .debug, .info, .info, .debug, .debug, .debug, .debug, .warn] := by
    have shown : loud = _ := Program.play_run_of_send asked answers
    have budget : send.polls.toNat = 2 := rfl
    rw [shown, Program.play_sendAndJudge accepted, Send.play_execute_of_taken reached encoded taken]
    dsimp only
    rw [budget, waited, polled, clientEvents_of_delivers delivers]
    rfl
  obtain ⟨result, output, requests, events, lines⟩ :=
    run_verbose_filters_log (fun _ => true) quiet (some "2") answers
  have kept : plain.events.map Event.level =
      (loud.events.map Event.level).filter (· ≠ .debug) := by
    rw [List.filter_map]
    exact congrArg (List.map Event.level) events
  rw [levels] at kept
  exact ⟨levels, kept, result, output, requests, lines wording⟩

end Courier
