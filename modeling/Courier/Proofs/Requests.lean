import Courier.Proofs.Sending
import Courier.Proofs.Wire

/-!
# What the node is asked

The bodies that the node receives in one run of the program: none, or the transaction once and then
only requests for the receipt of the hash that was printed, all of them the same text.
-/
namespace Courier

/-- The text of a request for a receipt is read back, whatever the hash holds. -/
theorem Rpc.Request.ofText?_transactionReceipt (hash : String) :
    Json.Value.ofText? (transactionReceipt hash).text =
      some (decoded "eth_getTransactionReceipt" (.array [.string hash])) := by
  apply ofText?_text (transactionReceipt hash)
  refine .array fun item listed => ?_
  obtain rfl := List.mem_singleton.1 listed
  exact .string hash

/-- Whether a body asks for a method to be carried out. -/
def Asks (body method : String) : Prop :=
  ∃ params, Json.Value.ofText? body = some (Rpc.Request.decoded method params)

/-- A body asks for one method. -/
theorem asks_unique {body method other : String} (one : Asks body method)
    (another : Asks body other) : method = other := by
  obtain ⟨params, first⟩ := one
  obtain ⟨others, second⟩ := another
  have same := Option.some.inj (first.symm.trans second)
  simp only [Rpc.Request.decoded, Json.Value.object.injEq, List.cons.injEq, Prod.mk.injEq,
    Json.Value.string.injEq, true_and] at same
  exact same.1

/-- The output of a single line is not empty. -/
theorem Transcript.output_of_single {α : Type} {transcript : Transcript α} {line : String}
    (single : transcript.lines = [line]) :
    transcript.output = line ++ "\n" ∧ transcript.output ≠ "" := by
  have output : transcript.output = line ++ "\n" := by
    unfold output
    rw [single]
    exact String.empty_append
  refine ⟨output, fun silent => ?_⟩
  rw [output, ← String.toList_inj] at silent
  simp at silent

/-- A wait asks for the receipt at most as often as its budget says, and once at least unless it has
no budget, and prints nothing. -/
theorem Submitter.requests_awaitReceipt {reaches : Endpoint → Bool} {submitter : Submitter}
    (reached : Reached reaches submitter.url) (hash : String) (polls : Nat)
    (answers : List Answer) :
    let shown := (submitter.awaitReceipt hash polls).play reaches answers
    shown.lines = [] ∧
      ∃ count ≤ polls, (0 < polls → 0 < count) ∧
        shown.requests = List.replicate count (Rpc.Request.transactionReceipt hash).text := by
  intro shown
  rcases passing_or_first_decides answers polls with
    passing | ⟨place, early, passing, decision, decides⟩
  · have used := play_awaitReceipt_of_passing hash reached passing
    exact ⟨congrArg Transcript.lines used, polls, Nat.le_refl polls, id,
      congrArg Transcript.requests used⟩
  · have ended := play_awaitReceipt_of_decides hash reached early passing decides
    exact ⟨congrArg Transcript.lines ended, place + 1, early, fun _ => Nat.succ_pos place,
      congrArg Transcript.requests ended⟩

/-- What a send that was carried out has asked the node and printed, as two lists: nothing, or the
transaction once, and the receipt only after the node has taken the transaction under a hash, which
is then the only line printed. -/
inductive Asked (polls : Nat) (answer : Option Answer) : List String → List String → Prop where
  /-- Nothing went out. -/
  | nothing : Asked polls answer [] []
  /-- The transaction went out and was not taken. -/
  | once {first : String} (sends : Asks first "eth_sendTransaction")
    (untaken : ∀ hash, ¬Carries answer (some (.string hash))) : Asked polls answer [first] []
  /-- The transaction was taken. -/
  | polled {first hash : String} {count : Nat} (sends : Asks first "eth_sendTransaction")
    (taken : Carries answer (some (.string hash))) (within : count ≤ polls)
    (begun : 0 < polls → 0 < count) :
    Asked polls answer
      (first :: List.replicate count (Rpc.Request.transactionReceipt hash).text) [hash]

namespace Asked

variable {polls : Nat} {answer : Option Answer} {requests lines : List String}

/-- The bodies are none, or the transaction and then one text again and again, which asks for the
receipt of the hash that the answer carries and that is the only line. -/
theorem requests_shape (asked : Asked polls answer requests lines) (budget : 0 < polls) :
    requests = [] ∨
      ∃ first poll count, requests = first :: List.replicate count poll ∧ count ≤ polls ∧
        Asks first "eth_sendTransaction" ∧
        (∀ hash, Carries answer (some (.string hash)) → 0 < count) ∧
        (0 < count → ∃ hash, Carries answer (some (.string hash)) ∧ lines = [hash] ∧
          Json.Value.ofText? poll =
            some (Rpc.Request.decoded "eth_getTransactionReceipt" (.array [.string hash]))) := by
  cases asked with
  | nothing => exact .inl rfl
  | @once first sends untaken =>
    refine .inr ⟨first, "", 0, rfl, Nat.zero_le polls, sends, ?_, ?_⟩
    · intro hash taken
      exact absurd taken (untaken hash)
    · intro positive
      exact absurd positive (Nat.lt_irrefl 0)
  | @polled first hash count sends taken within begun =>
    have read := Rpc.Request.ofText?_transactionReceipt hash
    refine .inr ⟨first, _, count, rfl, within, sends, ?_, ?_⟩
    · intro _ _
      exact begun budget
    · intro _
      exact ⟨hash, taken, rfl, read⟩

/-- No receipt is asked for before a line is printed. -/
theorem not_asks_receipt (asked : Asked polls answer requests lines)
    (silent : ∀ line, lines ≠ [line]) :
    ∀ body ∈ requests, ¬Asks body "eth_getTransactionReceipt" := by
  intro body listed receipt
  cases asked with
  | nothing => exact absurd listed List.not_mem_nil
  | @once first sends untaken =>
    obtain rfl := List.mem_singleton.1 listed
    have same := asks_unique sends receipt
    exact absurd same (by decide)
  | @polled first hash count sends taken within begun => exact absurd rfl (silent hash)

end Asked

/-- What a send asks the node that comes to a transaction. -/
theorem Send.asked_execute (reaches : Endpoint → Bool) {send : Send} {transaction : Transaction}
    (encoded : Transaction.ofCall send.call = .ok transaction) (answers : List Answer) :
    Asked send.polls.toNat answers.head? (send.execute.play reaches answers).requests
      (send.execute.play reaches answers).lines := by
  have sends : Asks (Rpc.Request.sendTransaction (send.submitter.outgoing transaction)).text
      "eth_sendTransaction" := ⟨_, Rpc.Request.ofText?_sendTransaction _⟩
  by_cases reached : Reached reaches send.url
  · cases submitted : submissionOf answers.head? with
    | error error =>
      rw [play_execute_of_not_taken reached encoded submitted]
      refine .once sends fun hash carries => ?_
      rw [submissionOf_eq_ok_iff.2 carries] at submitted
      exact nomatch submitted
    | ok hash =>
      have there : Reached reaches send.submitter.url := reached
      obtain ⟨quiet, count, within, begun, requests⟩ :=
        Submitter.requests_awaitReceipt there hash send.polls.toNat answers.tail
      rw [play_execute_of_taken reached encoded submitted]
      dsimp only
      rw [quiet, requests]
      exact .polled sends (submissionOf_eq_ok_iff.1 submitted) within begun
  · obtain ⟨fault, unsent⟩ := play_execute_of_not_reached reached encoded answers
    rw [unsent]
    exact .nothing

/-- What a run asks the node whose command line asks for a send that the checks accept. -/
theorem Program.asked_run (reaches : Endpoint → Bool) {arguments : List String}
    {environment : Option String} {send : Send} {verbose : Bool}
    (asked : CommandLine.read arguments environment = .send send verbose)
    (accepted : send.validate = .ok ()) (answers : List Answer) :
    Asked send.polls.toNat answers.head?
      ((run arguments environment).play reaches answers).requests
      ((run arguments environment).play reaches answers).lines := by
  obtain ⟨transaction, encoded⟩ := Send.exists_transaction_of_validate accepted
  rw [play_run_of_send asked answers, play_sendAndJudge accepted]
  exact Send.asked_execute reaches encoded answers

/-- A send that comes to a transaction asks the node nothing exactly if the URL does not lead to
it. -/
theorem Send.requests_execute_eq_nil_iff (reaches : Endpoint → Bool) {send : Send}
    {transaction : Transaction} (encoded : Transaction.ofCall send.call = .ok transaction)
    (answers : List Answer) :
    (send.execute.play reaches answers).requests = [] ↔ ¬Reached reaches send.url := by
  by_cases reached : Reached reaches send.url
  · cases submitted : submissionOf answers.head? with
    | error error =>
      rw [play_execute_of_not_taken reached encoded submitted]
      simp [reached]
    | ok hash =>
      rw [play_execute_of_taken reached encoded submitted]
      simp [reached]
  · obtain ⟨fault, shown⟩ := play_execute_of_not_reached reached encoded answers
    rw [shown]
    simp [reached, unsent]

/-- A run asks the node nothing exactly if its command line asks for no send that the checks accept
and whose URL reaches the node. -/
theorem Program.requests_run_eq_nil_iff (reaches : Endpoint → Bool) (arguments : List String)
    (environment : Option String) (answers : List Answer) :
    ((run arguments environment).play reaches answers).requests = [] ↔
      ∀ send verbose, CommandLine.read arguments environment = .send send verbose →
        send.validate = .ok () → ¬Reached reaches send.url := by
  by_cases sends : ∃ send verbose, CommandLine.read arguments environment = .send send verbose
  · obtain ⟨send, verbose, asked⟩ := sends
    rw [play_run_of_send asked, asked]
    dsimp only
    have only : (∀ other loud, CommandLine.Request.send send verbose = .send other loud →
          other.validate = .ok () → ¬Reached reaches other.url) ↔
        (send.validate = .ok () → ¬Reached reaches send.url) := by
      simp
    rw [only]
    cases checked : send.validate with
    | error failure =>
      rw [play_sendAndJudge_of_refused checked]
      simp [unsent]
    | ok _ =>
      obtain ⟨transaction, encoded⟩ := Send.exists_transaction_of_validate checked
      rw [play_sendAndJudge checked]
      dsimp only
      rw [Send.requests_execute_eq_nil_iff reaches encoded]
      simp
  · have other : ∀ send verbose, CommandLine.read arguments environment ≠ .send send verbose :=
      fun send verbose asked => sends ⟨send, verbose, asked⟩
    have nothing := requests_run_of_no_send reaches other answers
    simp [nothing, other]

/-- In a run the node is asked nothing, or to send the transaction and then, at most as often as
there are polls, for one receipt in one and the same text. Nothing is asked unless the command line
asks for a send that the checks accept and whose URL reaches the node. A receipt is asked for
exactly if the node has answered the transaction with a hash; it is that hash, and the hash is all
of the output. So no receipt is asked for if the output is empty. -/
theorem run_asks_transaction_once (reaches : Endpoint → Bool) (arguments : List String)
    (environment : Option String) (answers : List Answer) :
    let shown := (Program.run arguments environment).play reaches answers
    (shown.requests = [] ∨
      ∃ send verbose first poll count,
        CommandLine.read arguments environment = .send send verbose ∧
        send.validate = .ok () ∧
        shown.requests = first :: List.replicate count poll ∧
        count ≤ send.polls.toNat ∧
        Asks first "eth_sendTransaction" ∧
        (∀ hash, Carries answers.head? (some (.string hash)) → 0 < count) ∧
        (0 < count → ∃ hash,
          Carries answers.head? (some (.string hash)) ∧
          shown.output = hash ++ "\n" ∧
          Json.Value.ofText? poll =
            some (Rpc.Request.decoded "eth_getTransactionReceipt" (.array [.string hash])))) ∧
    (shown.requests = [] ↔
      ∀ send verbose, CommandLine.read arguments environment = .send send verbose →
        send.validate = .ok () → ¬Reached reaches send.url) ∧
    (shown.output = "" → ∀ body ∈ shown.requests, ¬Asks body "eth_getTransactionReceipt") := by
  intro shown
  have nothing := Program.requests_run_eq_nil_iff reaches arguments environment answers
  by_cases fit : ∃ send verbose,
    CommandLine.read arguments environment = .send send verbose ∧ send.validate = .ok ()
  · obtain ⟨send, verbose, asked, accepted⟩ := fit
    have all : Asked send.polls.toNat answers.head? shown.requests shown.lines :=
      Program.asked_run reaches asked accepted answers
    have budget : 0 < send.polls.toNat := Send.polls_pos_of_validate accepted
    refine ⟨?_, nothing, ?_⟩
    · rcases all.requests_shape budget with
        none | ⟨first, poll, count, shape, within, sends, begun, polled⟩
      · exact .inl none
      · refine .inr ⟨send, verbose, first, poll, count, asked, accepted, shape, within, sends,
          begun, ?_⟩
        intro positive
        obtain ⟨hash, taken, printed, read⟩ := polled positive
        exact ⟨hash, taken, (Transcript.output_of_single printed).1, read⟩
    · intro empty
      apply all.not_asks_receipt
      intro line printed
      exact (Transcript.output_of_single printed).2 empty
  · have silent : shown.requests = [] :=
      nothing.2 fun send verbose asked accepted => absurd ⟨send, verbose, asked, accepted⟩ fit
    refine ⟨.inl silent, nothing, fun _ body listed => ?_⟩
    rw [silent] at listed
    exact absurd listed List.not_mem_nil

end Courier
