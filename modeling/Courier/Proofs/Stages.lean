import Courier.Proofs.Requests

/-!
# Where a send ends

A send ends at its submission, at a poll, or in a report, and what is seen of it tells which: the
hash is printed exactly if the node has taken the transaction, the text of a failure names its
stage, and a report says of the receipt what the last answer says. The main statement is that every
send ends at one of these stages and at no other (`Send.execute_ends_at_one_stage`).

The text of a failure holds that of its error. An error that names a transport fault has that fault
for a cause, and the text goes on with the causes, so it names the fault twice (`Trails`,
`Send.message_names_fault_twice`).
-/
namespace Courier

/-- A stage that a send can end at. -/
inductive Stage where
  /-- The transaction was not sent, or not taken. -/
  | submission
  /-- The transaction was taken, and a poll failed. -/
  | polling
  /-- The wait for the receipt came to its end. -/
  | reporting
  deriving DecidableEq, Repr

/-- Whether a failed poll is one that will not pass. -/
inductive Lasting : Rpc.Error → Prop where
  /-- The node refuses with a status that is no success, and is neither busy nor in trouble of its
  own. -/
  | refused {status : Nat} {text : String} (failure : status < 200 ∨ 300 ≤ status)
    (below : status < 500) (idle : status ≠ 429) : Lasting (.httpStatus status text)
  /-- The node does not know the method, or does not take the parameters. -/
  | reported {code : Int} {message : String} (known : code = -32601 ∨ code = -32602) :
    Lasting (.rpc code message)

/-- A decisive failure is one that will not pass. -/
theorem lasting_of_decides {answer : Option Answer} {error : Rpc.Error}
    (decides : Decides answer (.error error)) : Lasting error := by
  cases decides with
  | refused refuses lasting =>
    cases refuses with
    | intro failure => exact .refused failure lasting.2 lasting.1
  | reported reports lasting => exact .reported lasting

/-- A receipt that an answer decides for is the result that the answer carries. -/
theorem carries_of_decides {answer : Option Answer} {receipt : Receipt}
    (decides : Decides answer (.ok receipt)) : Carries answer (some receipt.value) := by
  cases decides with
  | found carries solid => exact carries

/-- Whether the answers to a number of polls bear out an outcome. The first answer is that to the
transaction, so the last poll has met the answer at that number. -/
inductive BearsOut (budget : Nat) (answers : List Answer) (polls : Nat) : Outcome → Prop where
  /-- The last answer carries the receipt, which reports success. -/
  | confirmed {receipt : Receipt} (last : Carries answers[polls]? (some receipt.value))
    (success : receipt.isSuccess = true) : BearsOut budget answers polls (.confirmed receipt)
  /-- The last answer carries the receipt, which does not. -/
  | reverted {receipt : Receipt} (last : Carries answers[polls]? (some receipt.value))
    (failure : receipt.isSuccess = false) : BearsOut budget answers polls (.reverted receipt)
  /-- All polls of the budget were made, and none met a decisive answer. -/
  | timedOut (spent : polls = budget)
    (undecided : ∀ place < budget, ∀ decision, ¬Decides answers[place + 1]? decision) :
    BearsOut budget answers polls .timedOut

/-- What follows the text of an error that a submission fails with. -/
inductive Trails (wording : Rpc.Wording) : SubmitError → String → Prop where
  /-- A transport fault is named once more, and then its causes, each behind a colon. -/
  | fault {fault : Rpc.TransportFault} : Trails wording (.rpc (.requestFailed fault))
    (String.join ((wording.fault fault :: wording.causes fault).map (": " ++ ·)))
  /-- Nothing follows any other error. -/
  | nothing {error : SubmitError} (other : ∀ fault, error ≠ .rpc (.requestFailed fault)) :
    Trails wording error ""

/-- Whether a send ends at a stage. What is shown of it is held against what its submission comes to
on its own, and what a wait for the receipt of a hash comes to after that. -/
inductive EndsAt (wording : Rpc.Wording) (budget : Nat) (answers : List Answer)
    (submitted : Except SubmitError String)
    (waited : String → Except Rpc.Error (Option Receipt))
    (shown : Transcript (Except Failure Report)) : Stage → Prop where
  /-- The submission fails: nothing is printed, no receipt is asked for, and the text is that of
  the error, behind the name of the stage and before what follows such an error. -/
  | submission {error : SubmitError} {failure : Failure} {trail : String}
    (failed : submitted = .error error) (ended : shown.result = .error failure)
    (trails : Trails wording error trail)
    (told : failure.message wording =
      "Failed to send transaction: " ++ error.message wording ++ trail)
    (silent : shown.output = "")
    (unasked : ∀ body ∈ shown.requests, ¬Asks body "eth_getTransactionReceipt") :
    EndsAt wording budget answers submitted waited shown .submission
  /-- The submission gives a hash, which is printed, and the wait fails for good: the text is that
  of the error, behind the name of the stage and the hash. -/
  | polling {hash : String} {error : Rpc.Error} {failure : Failure}
    (taken : submitted = .ok hash) (failed : waited hash = .error error)
    (ended : shown.result = .error failure)
    (told : failure.message wording =
      "Failed to fetch receipt for transaction " ++ hash ++ ": " ++ error.message wording)
    (printed : shown.output = hash ++ "\n") (lasting : Lasting error) :
    EndsAt wording budget answers submitted waited shown .polling
  /-- The submission gives a hash, which is printed and reported with an outcome that the answers
  to the polls bear out. -/
  | reporting {hash : String} {outcome : Outcome} {polls : Nat} (taken : submitted = .ok hash)
    (ended : shown.result = .ok ⟨hash, outcome⟩) (printed : shown.output = hash ++ "\n")
    (asked : shown.requests.length = polls + 1)
    (borne : BearsOut budget answers polls outcome) :
    EndsAt wording budget answers submitted waited shown .reporting

/-- A send ends at one stage at most. -/
theorem EndsAt.unique {wording : Rpc.Wording} {budget : Nat} {answers : List Answer}
    {submitted : Except SubmitError String}
    {waited : String → Except Rpc.Error (Option Receipt)}
    {shown : Transcript (Except Failure Report)} {stage other : Stage}
    (one : EndsAt wording budget answers submitted waited shown stage)
    (another : EndsAt wording budget answers submitted waited shown other) : stage = other := by
  cases one <;> cases another <;> simp_all

/-- The outcome of a wait that came to a receipt is borne out by the answer that carries it. -/
theorem bearsOut_of_carries {budget polls : Nat} {answers : List Answer} {receipt : Receipt}
    (last : Carries answers[polls]? (some receipt.value)) :
    BearsOut budget answers polls (Send.outcomeOf (some receipt)) := by
  cases success : receipt.isSuccess with
  | true =>
    have outcome : Send.outcomeOf (some receipt) = .confirmed receipt := by
      simp [Send.outcomeOf, success]
    rw [outcome]
    exact .confirmed last success
  | false =>
    have outcome : Send.outcomeOf (some receipt) = .reverted receipt := by
      simp [Send.outcomeOf, success]
    rw [outcome]
    exact .reverted last success

namespace Send

variable {wording : Rpc.Wording} {reaches : Endpoint → Bool} {send : Send}
  {transaction : Transaction}

/-- The text of a failed submission is that of the error between the name of the stage and what
follows such an error. -/
theorem message_notSubmitted (wording : Rpc.Wording) (error : SubmitError) :
    ∃ trail, Trails wording error trail ∧ (Failure.notSubmitted error).message wording =
      "Failed to send transaction: " ++ error.message wording ++ trail := by
  have shape (trail : String)
      (rest : String.join ((error.causes wording).map (": " ++ ·)) = trail) :
      (Failure.notSubmitted error).message wording =
        "Failed to send transaction: " ++ error.message wording ++ trail := by
    rw [Failure.message_eq, Failure.causes, List.map_cons, String.join_cons, rest,
      ← String.append_assoc, ← String.append_assoc]
    rfl
  cases error with
  | encoding error => exact ⟨_, .nothing nofun, shape _ rfl⟩
  | rpc error =>
    cases error with
    | requestFailed fault => exact ⟨_, .fault, shape _ rfl⟩
    | httpStatus status text => exact ⟨_, .nothing nofun, shape _ rfl⟩
    | rpc code message => exact ⟨_, .nothing nofun, shape _ rfl⟩
    | invalidResponse detail => exact ⟨_, .nothing nofun, shape _ rfl⟩

/-- The text of a poll that failed for good is that of the error, behind the name of the stage and
the hash. -/
theorem message_notFetched {error : Rpc.Error} (lasting : Lasting error) (hash : String) :
    (Failure.notFetched hash error).message wording =
      "Failed to fetch receipt for transaction " ++ hash ++ ": " ++ error.message wording := by
  cases lasting <;> rfl

/-- A send whose submission fails ends there. -/
theorem endsAt_of_failed {answers : List Answer} {error : SubmitError}
    (failed : ((send.submitter.submit send.call).play reaches answers).result = .error error)
    (waited : String → Except Rpc.Error (Option Receipt)) :
    EndsAt wording send.polls.toNat answers (.error error) waited
      (send.execute.play reaches answers) .submission := by
  obtain ⟨quiet, posts, -⟩ :=
    Submitter.play_submit_shape reaches send.submitter send.call answers
  obtain ⟨trail, trails, told⟩ := message_notSubmitted wording error
  rw [play_execute_of_failed failed]
  refine .submission rfl rfl trails told ?_ ?_
  · rw [Transcript.output, quiet]
    rfl
  · intro body listed receipt
    obtain ⟨transaction, rfl⟩ := posts body listed
    have sends : Asks (Rpc.Request.sendTransaction transaction).text "eth_sendTransaction" :=
      ⟨_, Rpc.Request.ofText?_sendTransaction transaction⟩
    exact absurd (asks_unique sends receipt) (by decide)

/-- A send whose transaction the node takes ends at a poll or in a report. -/
theorem endsAt_of_taken (reached : Reached reaches send.url)
    (encoded : Transaction.ofCall send.call = .ok transaction) {answers : List Answer}
    {hash : String} (taken : submissionOf answers.head? = .ok hash) :
    ∃ stage, EndsAt wording send.polls.toNat answers (.ok hash)
      (fun hash => ((send.submitter.awaitReceipt hash send.polls.toNat).play reaches
        answers.tail).result)
      (send.execute.play reaches answers) stage := by
  have there : Reached reaches send.submitter.url := reached
  rw [play_execute_of_taken reached encoded taken]
  rcases Submitter.passing_or_first_decides answers.tail send.polls.toNat with
    passing | ⟨place, early, passing, decision, decides⟩
  · -- No poll of the budget meets a decisive answer, so the wait ends without a receipt.
    have used := Submitter.play_awaitReceipt_of_passing hash there passing
    have undecided : ∀ place < send.polls.toNat, ∀ decision,
        ¬Decides answers[place + 1]? decision := by
      intro place below
      rw [← List.getElem?_tail]
      exact not_decides (passing place below)
    rw [used]
    refine ⟨_, .reporting rfl rfl String.empty_append ?_ (.timedOut rfl undecided)⟩
    simp only [List.length_cons, List.length_replicate]
  · -- The first decisive answer ends the wait: a failure there, a receipt in a report.
    have met := Submitter.play_awaitReceipt_of_decides hash there early passing decides
    cases decision with
    | error error =>
      have failed := congrArg Transcript.result met
      rw [met]
      have lasting := lasting_of_decides decides
      exact ⟨_, .polling rfl failed rfl (message_notFetched lasting hash) String.empty_append
        lasting⟩
    | ok receipt =>
      rw [List.getElem?_tail] at decides
      rw [met]
      refine ⟨_, .reporting rfl rfl String.empty_append ?_
        (bearsOut_of_carries (carries_of_decides decides))⟩
      simp only [List.length_cons, List.length_replicate]

/-- Every send, whether the checks accept it or not, ends at one stage and no other, whatever the
node answers. At its submission it prints nothing and asks for no receipt, at a poll it has printed
the hash and fails in a way that will not pass, and in a report it has printed the hash and says of
the receipt what the last answer says; the text of a failure is that of the error behind the name of
the stage, and only where the error is a transport fault at the submission does more follow: the
fault once more, and its causes. -/
theorem execute_ends_at_one_stage (wording : Rpc.Wording) (reaches : Endpoint → Bool) (send : Send)
    (answers : List Answer) :
    let submitted := (send.submitter.submit send.call).play reaches answers
    let waited (hash : String) :=
      (send.submitter.awaitReceipt hash send.polls.toNat).play reaches submitted.rest
    ∃! stage, EndsAt wording send.polls.toNat answers submitted.result
      (fun hash => (waited hash).result) (send.execute.play reaches answers) stage := by
  intro submitted waited
  suffices ends : ∃ stage, EndsAt wording send.polls.toNat answers submitted.result
      (fun hash => (waited hash).result) (send.execute.play reaches answers) stage by
    obtain ⟨stage, ends⟩ := ends
    exact ⟨stage, ends, fun other another => another.unique ends⟩
  cases ended : submitted.result with
  | error error => exact ⟨_, endsAt_of_failed ended _⟩
  | ok hash =>
    obtain ⟨-, -, gives⟩ := Submitter.play_submit_shape reaches send.submitter send.call answers
    obtain ⟨⟨transaction, built⟩, reached, taken, rest⟩ := gives hash ended
    have rest : submitted.rest = answers.tail := rest
    simp only [waited, rest]
    exact endsAt_of_taken reached built taken

/-- Where nobody listens, the text of the failure names the fault twice, and then its causes: it is
not the text of the error behind the name of the stage and nothing more. -/
theorem message_names_fault_twice :
    let address := "00000000000000000000000000000000000000fF"
    let send : Send := { url := "http://127.0.0.1:1", call := ⟨address, address, "ping()", ""⟩ }
    let wording : Rpc.Wording :=
      { fault := fun _ => "error sending request for url (http://127.0.0.1:1/)"
        causes := fun _ => ["client error (Connect)", "tcp connect error",
          "Connection refused (os error 111)"]
        request := Rpc.Request.text
        result := fun _ => "" }
    let texts := ["Failed to send transaction",
      "HTTP request failed: error sending request for url (http://127.0.0.1:1/)",
      "error sending request for url (http://127.0.0.1:1/)", "client error (Connect)",
      "tcp connect error", "Connection refused (os error 111)"]
    ∃ error failure,
      ((send.submitter.submit send.call).play (fun _ => false) []).result = .error error ∧
      (send.execute.play (fun _ => false) []).result = .error failure ∧
      error.message wording =
        "HTTP request failed: error sending request for url (http://127.0.0.1:1/)" ∧
      failure.message wording = ": ".intercalate texts ∧
      failure.message wording ≠ "Failed to send transaction: " ++ error.message wording := by
  intro address send wording texts
  have lost : ¬Reached (fun _ => false) send.submitter.url := fun ⟨_, _, listens⟩ =>
    Bool.false_ne_true listens
  have accepted : send.validate = .ok () := by
    simp only [send, address]
    rfl
  obtain ⟨transaction, encoded⟩ := exists_transaction_of_validate accepted
  obtain ⟨fault, submitted⟩ := Submitter.play_submit_of_not_reached lost encoded []
  have failed := congrArg Transcript.result submitted
  have longer : ": ".intercalate texts ≠ "Failed to send transaction: " ++
      "HTTP request failed: error sending request for url (http://127.0.0.1:1/)" := by
    decide +kernel
  exact ⟨_, _, failed, congrArg Transcript.result (play_execute_of_failed failed), rfl, rfl, longer⟩

end Send

end Courier
