import Std.Data.String.ToNat
import Courier.Proofs.Answers
import Courier.Submitter

/-!
# One exchange

What a single request shows against a script: on a URL that reaches the node the body goes out and
the first answer left decides; on any other URL nothing goes out and no answer is used up.
-/
namespace Courier

/-- Whether a URL leads to a node that listens. -/
def Reached (reaches : Endpoint → Bool) (url : String) : Prop :=
  ∃ endpoint, Endpoint.parse? url = some endpoint ∧ reaches endpoint = true

/-- The URL of a node on the same machine names its endpoint. -/
theorem Endpoint.parse?_local :
    parse? "http://127.0.0.1:8547" = some ⟨false, "127.0.0.1", 8547, "/"⟩ := by
  -- All but the number of the port is computed; that number is what its digits are written for.
  have number : "8547".toNat? = some 8547 := Nat.toNat?_repr 8547
  show (("8547".toNat?.filter fun port => port < portCount).bind fun port =>
    some (Endpoint.mk false "127.0.0.1" port "/")) = _
  rw [number]
  rfl

/-- A node that listens everywhere is reached on the same machine. -/
theorem reached_local : Reached (fun _ => true) "http://127.0.0.1:8547" :=
  ⟨_, Endpoint.parse?_local, rfl⟩

/-- What the client writes to the log about a reply: the result of the envelope, if there is one. -/
def replyEvents (request : Rpc.Request) (reply : Reply) : List Event :=
  match reply.envelope with
  | .ok envelope => [.response request.method envelope.result]
  | .error _ => []

/-- What the client writes to the log about a request that meets an answer. -/
def clientEvents (request : Rpc.Request) (answer : Option Answer) : List Event :=
  .request request :: replyEvents request (replyTo answer)

/-- All that is written about an exchange is written by the client, for those who look closely. -/
theorem client_of_mem_clientEvents {request : Rpc.Request} {answer : Option Answer} {event : Event}
    (listed : event ∈ clientEvents request answer) :
    event.origin = .client ∧ event.level = .debug := by
  rcases List.mem_cons.1 listed with rfl | later
  · exact ⟨rfl, rfl⟩
  · unfold replyEvents at later
    split at later
    · obtain rfl := List.mem_singleton.1 later
      exact ⟨rfl, rfl⟩
    · exact absurd later List.not_mem_nil

/-- A delivered envelope adds its result to the log, whether or not it carries an error. -/
theorem clientEvents_of_delivers {answer : Option Answer} {envelope : Rpc.Envelope}
    (delivers : Delivers answer envelope) (request : Rpc.Request) :
    clientEvents request answer =
      [.request request, .response request.method envelope.result] := by
  rw [clientEvents, replyEvents, envelope_of_delivers delivers]

/-- Of events that one part of the program has written, a test of the part keeps all or none. -/
theorem filter_origin {events : List Event} {origin : Origin}
    (written : ∀ event ∈ events, event.origin = origin) (keep : Origin → Bool) :
    events.filter (keep ·.origin) = if keep origin then events else [] := by
  cases kept : keep origin with
  | true =>
    rw [if_pos rfl, List.filter_eq_self]
    intro event listed
    rw [written event listed, kept]
  | false =>
    rw [if_neg Bool.false_ne_true, List.filter_eq_nil_iff]
    intro event listed
    rw [written event listed, kept]
    exact Bool.false_ne_true

/-- What is shown by a request that goes out: the body, and what comes of the first answer. -/
def exchanged {α : Type} (request : Rpc.Request) (result : Option Answer → α)
    (answers : List Answer) : Transcript α where
  result := result answers.head?
  requests := [request.text]
  events := clientEvents request answers.head?
  lines := []
  rest := answers.tail

/-- What is shown where nothing goes out. -/
def unsent {α : Type} (result : α) (events : List Event) (answers : List Answer) :
    Transcript α where
  result := result
  requests := []
  events := events
  lines := []
  rest := answers

namespace Client

variable {reaches : Endpoint → Bool} {url : String}

/-- A reply comes to its outcome, and the log shows the result of its envelope. -/
theorem play_take (request : Rpc.Request) (reply : Reply) (answers : List Answer) :
    (take request reply).play reaches answers =
      unsent reply.outcome (replyEvents request reply) answers := by
  unfold take Reply.outcome replyEvents
  cases reply.envelope <;> rfl

/-- A call on a URL that reaches the node. -/
theorem play_call (reached : Reached reaches url) (request : Rpc.Request)
    (answers : List Answer) :
    (call url request).play reaches answers =
      exchanged request (fun answer => (replyTo answer).outcome) answers := by
  obtain ⟨endpoint, parsed, listens⟩ := reached
  simp only [call, parsed, Conversation.bind_eq, Conversation.record, Conversation.bind,
    Conversation.play, listens, ↓reduceIte, nextReply_eq, play_take]
  rfl

/-- A call on a URL that does not reach the node fails in one way, whatever the script. -/
theorem play_call_of_not_reached (lost : ¬Reached reaches url) (request : Rpc.Request) :
    ∃ fault, ∀ answers, (call url request).play reaches answers =
      unsent (.error (.requestFailed fault)) [.request request] answers := by
  cases parsed : Endpoint.parse? url with
  | none =>
    refine ⟨.unsendable, fun answers => ?_⟩
    simp only [call, parsed]
    rfl
  | some endpoint =>
    have silent : reaches endpoint = false := by
      rw [Bool.eq_false_iff]
      exact fun listens => lost ⟨endpoint, parsed, listens⟩
    refine ⟨.lost, fun answers => ?_⟩
    simp only [call, parsed, Conversation.bind_eq, Conversation.record, Conversation.bind,
      Conversation.play, silent, Bool.false_eq_true, ↓reduceIte]
    rfl

/-- A transaction sent on a URL that reaches the node. -/
theorem play_sendTransaction (reached : Reached reaches url) (transaction : Transaction)
    (answers : List Answer) :
    (sendTransaction url transaction).play reaches answers =
      exchanged (.sendTransaction transaction) submissionOf answers := by
  rw [sendTransaction, Conversation.bind_eq, Conversation.play_bind, play_call reached]
  simp only [exchanged, Transcript.andThen, Conversation.pure_eq, Conversation.play,
    List.append_nil]
  rfl

/-- A transaction sent on a URL that does not reach the node. -/
theorem play_sendTransaction_of_not_reached (lost : ¬Reached reaches url)
    (transaction : Transaction) (answers : List Answer) :
    ∃ fault, (sendTransaction url transaction).play reaches answers =
      unsent (.error (.requestFailed fault)) [.request (.sendTransaction transaction)] answers := by
  obtain ⟨fault, shown⟩ := play_call_of_not_reached lost (.sendTransaction transaction)
  refine ⟨fault, ?_⟩
  rw [sendTransaction, Conversation.bind_eq, Conversation.play_bind, shown]
  rfl

/-- A receipt asked for on a URL that reaches the node. -/
theorem play_transactionReceipt (reached : Reached reaches url) (hash : String)
    (answers : List Answer) :
    (transactionReceipt url hash).play reaches answers =
      exchanged (.transactionReceipt hash) pollOf answers := by
  rw [transactionReceipt, Conversation.bind_eq, Conversation.play_bind, play_call reached]
  simp only [exchanged, Transcript.andThen, Conversation.pure_eq, Conversation.play,
    List.append_nil]
  rfl

/-- A receipt asked for on a URL that does not reach the node. -/
theorem play_transactionReceipt_of_not_reached (lost : ¬Reached reaches url) (hash : String) :
    ∃ fault, ∀ answers, (transactionReceipt url hash).play reaches answers =
      unsent (.error (.requestFailed fault)) [.request (.transactionReceipt hash)] answers := by
  obtain ⟨fault, shown⟩ := play_call_of_not_reached lost (.transactionReceipt hash)
  refine ⟨fault, fun answers => ?_⟩
  rw [transactionReceipt, Conversation.bind_eq, Conversation.play_bind, shown]
  rfl

end Client

namespace Submitter

variable {reaches : Endpoint → Bool} {submitter : Submitter} {call : Call}
  {transaction : Transaction}

/-- The transaction that a submitter sends for a call that comes to a transaction. -/
def outgoing (submitter : Submitter) (transaction : Transaction) : Transaction :=
  transaction.withGas submitter.gas submitter.gasPrice

/-- The log of a submission: what is sent, what the client writes of it, and the hash if there is
one. -/
def submissionEvents (transaction : Transaction) (exchange : List Event) :
    Except Rpc.Error String → List Event
  | .ok hash =>
    .sending transaction.target.checksum transaction.data :: (exchange ++ [.submitted hash])
  | .error _ => .sending transaction.target.checksum transaction.data :: exchange

/-- A call that cannot be encoded is not sent. -/
theorem play_submit_of_error {error : EncodingError}
    (refused : Transaction.ofCall call = .error error) (answers : List Answer) :
    (submitter.submit call).play reaches answers =
      unsent (.error (.encoding error)) [] answers := by
  rw [submit, refused]
  rfl

/-- A call is sent once on a URL that reaches the node. -/
theorem play_submit (reached : Reached reaches submitter.url)
    (encoded : Transaction.ofCall call = .ok transaction) (answers : List Answer) :
    let request := Rpc.Request.sendTransaction (submitter.outgoing transaction)
    (submitter.submit call).play reaches answers =
      { result := (submissionOf answers.head?).mapError .rpc
        requests := [request.text]
        events := submissionEvents (submitter.outgoing transaction)
          (clientEvents request answers.head?) (submissionOf answers.head?)
        lines := []
        rest := answers.tail } := by
  intro request
  rw [submit, encoded]
  simp only [Conversation.bind_eq, Conversation.record, Conversation.bind, Conversation.play,
    Conversation.play_bind, Client.play_sendTransaction reached, exchanged]
  cases submissionOf answers.head? with
  | ok hash =>
    simp only [Transcript.andThen, Conversation.play]
    rfl
  | error error =>
    simp only [Transcript.andThen, Conversation.pure_eq, Conversation.play, List.append_nil]
    rfl

/-- A call is not sent on a URL that does not reach the node. -/
theorem play_submit_of_not_reached (lost : ¬Reached reaches submitter.url)
    (encoded : Transaction.ofCall call = .ok transaction) (answers : List Answer) :
    let request := Rpc.Request.sendTransaction (submitter.outgoing transaction)
    ∃ fault, (submitter.submit call).play reaches answers =
      unsent (.error (.rpc (.requestFailed fault)))
        (submissionEvents (submitter.outgoing transaction) [.request request]
          (.error (.requestFailed fault))) answers := by
  intro request
  obtain ⟨fault, shown⟩ :=
    Client.play_sendTransaction_of_not_reached lost (submitter.outgoing transaction) answers
  refine ⟨fault, ?_⟩
  rw [submit, encoded]
  unfold outgoing at shown
  simp only [Conversation.bind_eq, Conversation.record, Conversation.bind, Conversation.play,
    Conversation.play_bind, shown]
  rfl

/-- Any submission prints nothing and posts at most one transaction. It gives a hash only if the
call comes to a transaction, the URL reaches the node and the first answer is that hash. -/
theorem play_submit_shape (reaches : Endpoint → Bool) (submitter : Submitter) (call : Call)
    (answers : List Answer) :
    let shown := (submitter.submit call).play reaches answers
    shown.lines = [] ∧
    (∀ body ∈ shown.requests, ∃ transaction,
      body = (Rpc.Request.sendTransaction transaction).text) ∧
    ∀ hash, shown.result = .ok hash →
      (∃ transaction, Transaction.ofCall call = .ok transaction) ∧
      Reached reaches submitter.url ∧ submissionOf answers.head? = .ok hash ∧
      shown.rest = answers.tail := by
  intro shown
  cases built : Transaction.ofCall call with
  | error error =>
    have refused : shown = _ := play_submit_of_error built answers
    rw [refused]
    simp [unsent]
  | ok transaction =>
    by_cases reached : Reached reaches submitter.url
    · have posted : shown = _ := play_submit reached built answers
      rw [posted]
      refine ⟨rfl, fun body listed => ⟨_, List.mem_singleton.1 listed⟩, ?_⟩
      cases submissionOf answers.head? with
      | error error => exact fun hash fine => nomatch fine
      | ok found =>
        intro hash fine
        obtain rfl : found = hash := Except.ok.inj fine
        exact ⟨⟨_, rfl⟩, reached, rfl, rfl⟩
    · obtain ⟨fault, lost⟩ := play_submit_of_not_reached reached built answers
      have lost : shown = _ := lost
      rw [lost]
      simp [unsent]

end Submitter

end Courier
