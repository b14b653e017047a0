import Courier.Program
import Courier.Proofs.Polling
import Courier.Proofs.Results

/-!
# A send from end to end

What a send shows against any script. A send that the checks accept has a transaction
(`Send.exists_transaction_of_validate`). From there it goes one of three ways: the URL does not
reach the node, the node does not take the transaction, or the node takes it under a hash, which is
printed before the wait for the receipt begins.
-/
namespace Courier

/-- The text of a failure is what failed, and each cause behind a colon. -/
theorem Failure.message_eq {wording : Rpc.Wording} {failure : Failure} :
    failure.message wording =
      failure.headline ++ String.join ((failure.causes wording).map (": " ++ ·)) := by
  unfold message
  generalize failure.headline = first
  induction failure.causes wording generalizing first with
  | nil => rw [String.intercalate_singleton, List.map_nil, String.join_nil, String.append_empty]
  | cons cause causes ih =>
    rw [String.intercalate_cons_cons, ih, List.map_cons, String.join_cons, String.append_assoc,
      String.append_assoc]

namespace Send

variable {reaches : Endpoint → Bool} {send : Send} {transaction : Transaction}

/-- The checks accept exactly the sends whose URL is one of the web, whose addresses and parameters
are spelled right, and that have a poll and gas to use. -/
theorem validate_eq_ok_iff :
    send.validate = .ok () ↔
      send.url ≠ "" ∧ hasWebScheme send.url = true ∧
      (∃ sender, Address.parse send.call.sender = .ok sender) ∧
      (∃ target, Address.parse send.call.target = .ok target) ∧
      (∃ params, Params.normalize send.call.params = .ok params) ∧
      send.polls ≠ 0 ∧ send.gas ≠ 0 := by
  unfold validate
  simp only [throw_bind, guard_eq_ok_iff, bind_eq_ok_iff, mapError_eq_ok_iff]
  simp [pure, Except.pure]

/-- A send that the checks accept comes to a transaction. -/
theorem exists_transaction_of_validate (accepted : send.validate = .ok ()) :
    ∃ transaction, Transaction.ofCall send.call = .ok transaction := by
  obtain ⟨-, -, ⟨sender, first⟩, ⟨target, second⟩, ⟨params, third⟩, -, -⟩ :=
    validate_eq_ok_iff.1 accepted
  unfold Transaction.ofCall
  rw [first, second, Calldata.encode, third]
  exact ⟨_, rfl⟩

/-- A send that the checks accept has a poll. -/
theorem polls_pos_of_validate (accepted : send.validate = .ok ()) : 0 < send.polls.toNat := by
  obtain ⟨-, -, -, -, -, polls, -⟩ := validate_eq_ok_iff.1 accepted
  rw [Nat.pos_iff_ne_zero]
  intro zero
  exact polls (UInt64.toNat_inj.1 zero)

/-- What the end of a wait makes of a send. -/
def conclusion (hash : String) : Except Rpc.Error (Option Receipt) → Except Failure Report
  | .error error => .error (.notFetched hash error)
  | .ok receipt => .ok ⟨hash, outcomeOf receipt⟩

/-- What the log says of the end of a wait. -/
def conclusionEvents (polls : Nat) : Except Rpc.Error (Option Receipt) → List Event
  | .error _ => []
  | .ok receipt => [outcomeEvent polls (outcomeOf receipt)]

/-- A send whose submission fails shows what the submission shows, after a line in the log. -/
theorem play_execute_of_failed {answers : List Answer} {error : SubmitError}
    (failed : ((send.submitter.submit send.call).play reaches answers).result = .error error) :
    send.execute.play reaches answers =
      let shown := (send.submitter.submit send.call).play reaches answers
      { shown with
        result := .error (.notSubmitted error)
        events := .endpoint send.url :: shown.events } := by
  rw [execute]
  simp only [Conversation.bind_eq, Conversation.record, Conversation.bind, Conversation.play,
    Conversation.play_bind, failed]
  simp [Transcript.andThen, Conversation.pure_eq, Conversation.play]

/-- A send that comes to no transaction says in the log where it was to go, and does nothing. -/
theorem play_execute_of_refused {error : EncodingError}
    (refused : Transaction.ofCall send.call = .error error) (answers : List Answer) :
    send.execute.play reaches answers =
      unsent (.error (.notSubmitted (.encoding error))) [.endpoint send.url] answers := by
  have shown : (send.submitter.submit send.call).play reaches answers = _ :=
    Submitter.play_submit_of_error refused answers
  rw [play_execute_of_failed (congrArg Transcript.result shown), shown]
  rfl

/-- A send on a URL that does not reach the node posts and prints nothing. -/
theorem play_execute_of_not_reached (lost : ¬Reached reaches send.url)
    (encoded : Transaction.ofCall send.call = .ok transaction) (answers : List Answer) :
    let request := Rpc.Request.sendTransaction (send.submitter.outgoing transaction)
    ∃ fault, send.execute.play reaches answers =
      unsent (.error (.notSubmitted (.rpc (.requestFailed fault))))
        (.endpoint send.url ::
          Submitter.submissionEvents (send.submitter.outgoing transaction) [.request request]
            (.error (.requestFailed fault))) answers := by
  intro request
  have away : ¬Reached reaches send.submitter.url := lost
  obtain ⟨fault, shown⟩ := Submitter.play_submit_of_not_reached away encoded answers
  refine ⟨fault, ?_⟩
  rw [play_execute_of_failed (congrArg Transcript.result shown), shown]
  rfl

/-- A send that the node does not take posts the transaction and prints nothing. -/
theorem play_execute_of_not_taken (reached : Reached reaches send.url)
    (encoded : Transaction.ofCall send.call = .ok transaction) {answers : List Answer}
    {error : Rpc.Error} (failed : submissionOf answers.head? = .error error) :
    let request := Rpc.Request.sendTransaction (send.submitter.outgoing transaction)
    send.execute.play reaches answers =
      { result := .error (.notSubmitted (.rpc error))
        requests := [request.text]
        events := .endpoint send.url ::
          Submitter.submissionEvents (send.submitter.outgoing transaction)
            (clientEvents request answers.head?) (.error error)
        lines := []
        rest := answers.tail } := by
  have there : Reached reaches send.submitter.url := reached
  have shown := Submitter.play_submit there encoded answers
  rw [failed] at shown
  rw [play_execute_of_failed (congrArg Transcript.result shown), shown]

/-- A send that the node takes posts the transaction, prints the hash, and then is the wait for the
receipt. -/
theorem play_execute_of_taken (reached : Reached reaches send.url)
    (encoded : Transaction.ofCall send.call = .ok transaction) {answers : List Answer}
    {hash : String} (taken : submissionOf answers.head? = .ok hash) :
    let request := Rpc.Request.sendTransaction (send.submitter.outgoing transaction)
    send.execute.play reaches answers =
      let waited := (send.submitter.awaitReceipt hash send.polls.toNat).play reaches answers.tail
      { result := conclusion hash waited.result
        requests := request.text :: waited.requests
        events := .endpoint send.url ::
          (Submitter.submissionEvents (send.submitter.outgoing transaction)
              (clientEvents request answers.head?) (.ok hash) ++
            waited.events ++ conclusionEvents send.polls.toNat waited.result)
        lines := hash :: waited.lines
        rest := waited.rest } := by
  have there : Reached reaches send.submitter.url := reached
  have shown := Submitter.play_submit there encoded answers
  rw [taken] at shown
  have submitted : ((send.submitter.submit send.call).play reaches answers).result = .ok hash :=
    congrArg Transcript.result shown
  rw [execute]
  simp only [Conversation.bind_eq, Conversation.record, Conversation.printLine, Conversation.bind,
    Conversation.play, Conversation.play_bind, submitted]
  rw [shown]
  generalize (send.submitter.awaitReceipt hash send.polls.toNat).play reaches answers.tail = waited
  obtain ⟨result, requests, events, lines, rest⟩ := waited
  cases result with
  | error error =>
    simp [Transcript.andThen, Conversation.pure_eq, Conversation.play, conclusion,
      conclusionEvents]
  | ok receipt =>
    simp [Transcript.andThen, Conversation.pure_eq, Conversation.play, conclusion,
      conclusionEvents]

end Send

namespace Program

/-- The verdict on a send that was carried out. -/
def verdictOf (result : Except Failure Report) : Verdict :=
  match result.bind Report.ensureSuccess with
  | .error failure => .failed failure
  | .ok () => .succeeded

/-- A send that the checks refuse shows nothing but the verdict. -/
theorem play_sendAndJudge_of_refused {reaches : Endpoint → Bool} {send : Send} {failure : Failure}
    (refused : send.validate = .error failure) (answers : List Answer) :
    (sendAndJudge send).play reaches answers = unsent (.failed failure) [] answers := by
  rw [sendAndJudge, refused]
  rfl

/-- A send that the checks accept shows what carrying it out shows, and the verdict on that. -/
theorem play_sendAndJudge {reaches : Endpoint → Bool} {send : Send}
    (accepted : send.validate = .ok ()) (answers : List Answer) :
    (sendAndJudge send).play reaches answers =
      let shown := send.execute.play reaches answers
      { shown with result := verdictOf shown.result } := by
  rw [sendAndJudge, accepted]
  simp only [Conversation.bind_eq, Conversation.play_bind]
  generalize send.execute.play reaches answers = shown
  obtain ⟨result, requests, events, lines, rest⟩ := shown
  unfold verdictOf
  cases result.bind Report.ensureSuccess with
  | error failure => simp [Transcript.andThen, Conversation.pure_eq, Conversation.play]
  | ok _ => simp [Transcript.andThen, Conversation.pure_eq, Conversation.play]

/-- A run whose command line asks for a send shows the send, with fewer lines in the log unless it
is to be verbose. -/
theorem play_run_of_send {reaches : Endpoint → Bool} {arguments : List String}
    {environment : Option String} {send : Send} {verbose : Bool}
    (asked : CommandLine.read arguments environment = .send send verbose)
    (answers : List Answer) :
    (run arguments environment).play reaches answers =
      let shown := (sendAndJudge send).play reaches answers
      { shown with events := shown.events.filter (shows verbose) } := by
  rw [run, asked]
  exact Conversation.play_keepEvents reaches (shows verbose) (sendAndJudge send) answers

/-- A run whose command line asks for no send posts nothing. -/
theorem requests_run_of_no_send (reaches : Endpoint → Bool) {arguments : List String}
    {environment : Option String}
    (other : ∀ send verbose, CommandLine.read arguments environment ≠ .send send verbose)
    (answers : List Answer) : ((run arguments environment).play reaches answers).requests = [] := by
  rw [run]
  cases asked : CommandLine.read arguments environment with
  | help => rfl
  | version => rfl
  | usage error => rfl
  | send send verbose => exact absurd asked (other send verbose)

end Program

end Courier
