import Courier.Client
import Courier.Proofs.Envelopes
import Courier.Proofs.Json.RoundTrip
import Courier.Script
import Courier.Text.Utf8.Lemmas

/-!
# What answers are worth

The answers of a node by what they are worth, in terms of their status and body alone: an answer
delivers an envelope, refuses with a status, or is unusable. To a poll for a receipt an answer is
pending, transient or decisive; it is one of these and no other, and the poll comes to what the
class says. Where a script has run out there is no answer, which is a class of answer too, so all
of this is about `Option Answer`.
-/
namespace Courier

/-- What comes back for a post that meets an answer, or none. -/
def replyTo : Option Answer → Reply
  | none => .lost
  | some answer => answer.reply

/-- A post meets the first answer that is left. -/
theorem nextReply_eq (answers : List Answer) : nextReply answers = replyTo answers.head? := by
  cases answers <;> rfl

/-- Whether an answer delivers an envelope: its status is a success that has a body, and the body
arrives whole and spells the envelope. -/
def Delivers (answer : Option Answer) (envelope : Rpc.Envelope) : Prop :=
  ∃ status body, answer = some (.sent status body false) ∧ 200 ≤ status ∧ status < 300 ∧
    status ≠ 204 ∧ Rpc.Envelope.ofBytes? body = some envelope

/-- Whether an answer refuses with a status that is no success. The text is that of the body, and
nothing if the body breaks off or the status has none. -/
inductive Refuses : Option Answer → Nat → String → Prop where
  /-- Any status below 200 or from 300 on. -/
  | intro {status : Nat} {body : List UInt8} {truncated : Bool}
    (failure : status < 200 ∨ 300 ≤ status) :
    Refuses (some (.sent status body truncated)) status
      (if truncated = true ∨ status = 304 then "" else Text.ofBytes body)

/-- Whether an answer is of no use to anybody, and which fault that makes. -/
inductive Unusable : Option Answer → Rpc.TransportFault → Prop where
  /-- There is no answer. -/
  | missing : Unusable none .lost
  /-- The connection is closed without one. -/
  | dropped : Unusable (some .dropped) .lost
  /-- The body of a success breaks off. -/
  | truncated {status : Nat} {body : List UInt8} (success : 200 ≤ status ∧ status < 300)
    (bodied : status ≠ 204) : Unusable (some (.sent status body true)) .broken
  /-- The success is one without a body. -/
  | bodiless {body : List UInt8} {truncated : Bool} :
    Unusable (some (.sent 204 body truncated)) (.undecodable [])
  /-- The body of a success spells no envelope. -/
  | undecodable {status : Nat} {body : List UInt8} (success : 200 ≤ status ∧ status < 300)
    (bodied : status ≠ 204) (undecodable : Rpc.Envelope.ofBytes? body = none) :
    Unusable (some (.sent status body false)) (.undecodable body)

/-- Every answer delivers, refuses or is unusable. -/
theorem delivers_or_refuses_or_unusable (answer : Option Answer) :
    (∃ envelope, Delivers answer envelope) ∨ (∃ status text, Refuses answer status text) ∨
      ∃ fault, Unusable answer fault := by
  match answer with
  | none => exact .inr (.inr ⟨_, .missing⟩)
  | some .dropped => exact .inr (.inr ⟨_, .dropped⟩)
  | some (.sent status body truncated) =>
    by_cases success : 200 ≤ status ∧ status < 300
    · by_cases bodiless : status = 204
      · subst bodiless
        exact .inr (.inr ⟨_, .bodiless⟩)
      · cases truncated with
        | true => exact .inr (.inr ⟨_, .truncated success bodiless⟩)
        | false =>
          cases spelled : Rpc.Envelope.ofBytes? body with
          | none => exact .inr (.inr ⟨_, .undecodable success bodiless spelled⟩)
          | some envelope =>
            exact .inl ⟨envelope, status, body, rfl, success.1, success.2, bodiless, spelled⟩
    · exact .inr (.inl ⟨status, _, .intro (by omega)⟩)

/-- The statuses of success, as a test. -/
theorem isSuccessStatus_iff {status : Nat} :
    isSuccessStatus status = true ↔ 200 ≤ status ∧ status < 300 := by
  simp only [isSuccessStatus, Bool.and_eq_true, decide_eq_true_eq]

/-- A success has a body unless it is one without. -/
theorem isBodiless_of_success {status : Nat} (success : 200 ≤ status ∧ status < 300)
    (bodied : status ≠ 204) : isBodiless status = false := by
  simp only [isBodiless, Bool.or_eq_false_iff, decide_eq_false_iff_not]
  omega

/-- A delivered envelope is what the reply brings. -/
theorem envelope_of_delivers {answer : Option Answer} {envelope : Rpc.Envelope}
    (delivers : Delivers answer envelope) : (replyTo answer).envelope = .ok envelope := by
  obtain ⟨status, body, rfl, low, high, bodied, spelled⟩ := delivers
  simp only [replyTo, Answer.reply, isBodiless_of_success ⟨low, high⟩ bodied, Bool.false_eq_true,
    ↓reduceIte, Reply.envelope, isSuccessStatus_iff.2 ⟨low, high⟩, spelled]

/-- A refusal is an error that names the status and the text. -/
theorem envelope_of_refuses {answer : Option Answer} {status : Nat} {text : String}
    (refuses : Refuses answer status text) :
    (replyTo answer).envelope = .error (.httpStatus status text) := by
  cases refuses with
  | @intro _ body truncated failure =>
    have success : isSuccessStatus status = false := by
      rw [Bool.eq_false_iff, ne_eq, isSuccessStatus_iff]
      omega
    have blank : Text.ofBytes [] = "" := rfl
    by_cases bodiless : status = 304
    · subst bodiless
      simp [replyTo, Answer.reply, isBodiless, Reply.envelope, success, blank]
    · have bodied : isBodiless status = false := by
        simp only [isBodiless, Bool.or_eq_false_iff, decide_eq_false_iff_not]
        omega
      cases truncated <;>
        simp [replyTo, Answer.reply, bodied, Reply.envelope, success, bodiless]

/-- An unusable answer is a failed request. -/
theorem envelope_of_unusable {answer : Option Answer} {fault : Rpc.TransportFault}
    (unusable : Unusable answer fault) :
    (replyTo answer).envelope = .error (.requestFailed fault) := by
  cases unusable with
  | missing => rfl
  | dropped => rfl
  | truncated success bodied =>
    simp only [replyTo, Answer.reply, isBodiless_of_success success bodied, Bool.false_eq_true,
      ↓reduceIte, Reply.envelope, isSuccessStatus_iff.2 success]
  | bodiless => rfl
  | undecodable success bodied spelled =>
    simp only [replyTo, Answer.reply, isBodiless_of_success success bodied, Bool.false_eq_true,
      ↓reduceIte, Reply.envelope, isSuccessStatus_iff.2 success, spelled]

variable {answer : Option Answer}

/-- A delivered envelope gives the outcome. -/
theorem outcome_of_delivers {envelope : Rpc.Envelope} (delivers : Delivers answer envelope) :
    (replyTo answer).outcome = envelope.outcome := by
  rw [Reply.outcome, envelope_of_delivers delivers]
  rfl

/-- The outcome of a refusal names the status and the text. -/
theorem outcome_of_refuses {status : Nat} {text : String} (refuses : Refuses answer status text) :
    (replyTo answer).outcome = .error (.httpStatus status text) := by
  rw [Reply.outcome, envelope_of_refuses refuses]
  rfl

/-- The outcome of an unusable answer names the fault. -/
theorem outcome_of_unusable {fault : Rpc.TransportFault} (unusable : Unusable answer fault) :
    (replyTo answer).outcome = .error (.requestFailed fault) := by
  rw [Reply.outcome, envelope_of_unusable unusable]
  rfl

/-- The fault of an answer may pass: the URL names a place to send to. -/
theorem isTransient_of_unusable {fault : Rpc.TransportFault} (unusable : Unusable answer fault) :
    (Rpc.Error.requestFailed fault).isTransient = true := by
  cases unusable <;> rfl

/-! ### Answers to a poll -/

/-- Whether an answer carries a result: the envelope has no error and this result. -/
def Carries (answer : Option Answer) (result : Option Json.Value) : Prop :=
  ∃ envelope, Delivers answer envelope ∧ envelope.error = none ∧ envelope.result = result

/-- Whether an answer reports an error with a code and a message. -/
def Reports (answer : Option Answer) (code : Int) (message : String) : Prop :=
  ∃ envelope error, Delivers answer envelope ∧ envelope.error = some error ∧
    error.code = code ∧ error.message = message

/-- Whether a value stands for no receipt. -/
def Hollow (value : Json.Value) : Prop :=
  value = .null ∨ value = .bool false ∨ value = .string "" ∨ value = .array [] ∨
    value = .object []

/-- Whether an answer says that there is no receipt yet. -/
def Pending (answer : Option Answer) : Prop :=
  Carries answer none ∨ ∃ value, Carries answer (some value) ∧ Hollow value

/-- Whether an answer is a failure that may pass. -/
inductive Transient (answer : Option Answer) : Prop where
  /-- Nobody can use it. -/
  | unusable {fault : Rpc.TransportFault} (unusable : Unusable answer fault)
  /-- The node is busy, or in trouble of its own. -/
  | refused {status : Nat} {text : String} (refuses : Refuses answer status text)
    (passing : status = 429 ∨ 500 ≤ status)
  /-- The node reports an error, but neither that it does not know the method nor that it does not
  take the parameters. -/
  | reported {code : Int} {message : String} (reports : Reports answer code message)
    (passing : code ≠ -32601 ∧ code ≠ -32602)

/-- What an answer decides, if it ends a wait: a receipt, or a failure that will not pass. -/
inductive Decides (answer : Option Answer) : Except Rpc.Error Receipt → Prop where
  /-- There is a receipt. -/
  | found {value : Json.Value} (carries : Carries answer (some value)) (solid : ¬Hollow value) :
    Decides answer (.ok ⟨value⟩)
  /-- The node refuses, and will go on to. -/
  | refused {status : Nat} {text : String} (refuses : Refuses answer status text)
    (lasting : status ≠ 429 ∧ status < 500) : Decides answer (.error (.httpStatus status text))
  /-- The node does not know the method, or does not take the parameters. -/
  | reported {code : Int} {message : String} (reports : Reports answer code message)
    (lasting : code = -32601 ∨ code = -32602) : Decides answer (.error (.rpc code message))

/-- Hollow values are the ones that are not truthy. -/
theorem hollow_iff {value : Json.Value} : Hollow value ↔ value.isTruthy = false := by
  unfold Hollow Json.Value.isTruthy
  cases value with
  | null => simp
  | bool b => simp
  | integer n => simp
  | real x => simp
  | string s => simp
  | array items => simp
  | object members => simp

/-- Every answer is pending, transient or decisive. -/
theorem pending_or_transient_or_decides (answer : Option Answer) :
    (Pending answer ∨ Transient answer) ∨ ∃ decision, Decides answer decision := by
  rcases delivers_or_refuses_or_unusable answer with
    ⟨envelope, delivers⟩ | ⟨status, text, refuses⟩ | ⟨fault, unusable⟩
  · cases failed : envelope.error with
    | some error =>
      have reports : Reports answer error.code error.message :=
        ⟨envelope, error, delivers, failed, rfl, rfl⟩
      by_cases passing : error.code ≠ -32601 ∧ error.code ≠ -32602
      · exact .inl (.inr (.reported reports passing))
      · exact .inr ⟨_, .reported reports (by omega)⟩
    | none =>
      cases result : envelope.result with
      | none => exact .inl (.inl (.inl ⟨envelope, delivers, failed, result⟩))
      | some value =>
        have carries : Carries answer (some value) := ⟨envelope, delivers, failed, result⟩
        by_cases hollow : Hollow value
        · exact .inl (.inl (.inr ⟨value, carries, hollow⟩))
        · exact .inr ⟨_, .found carries hollow⟩
  · by_cases passing : status = 429 ∨ 500 ≤ status
    · exact .inl (.inr (.refused refuses passing))
    · exact .inr ⟨_, .refused refuses (by omega)⟩
  · exact .inl (.inr (.unusable unusable))

/-- A carried result is the outcome. -/
theorem outcome_of_carries {result : Option Json.Value}
    (carries : Carries answer result) : (replyTo answer).outcome = .ok result := by
  obtain ⟨envelope, delivers, fine, rfl⟩ := carries
  rw [outcome_of_delivers delivers, Rpc.Envelope.outcome, fine]

/-- A reported error is the outcome. -/
theorem outcome_of_reports {code : Int} {message : String}
    (reports : Reports answer code message) :
    (replyTo answer).outcome = .error (.rpc code message) := by
  obtain ⟨envelope, error, delivers, failed, rfl, rfl⟩ := reports
  rw [outcome_of_delivers delivers, Rpc.Envelope.outcome, failed]

/-- The answers with a result for outcome are those that carry it. -/
theorem outcome_eq_ok_iff {result : Option Json.Value} :
    (replyTo answer).outcome = .ok result ↔ Carries answer result := by
  constructor
  · intro fine
    rcases delivers_or_refuses_or_unusable answer with
      ⟨envelope, delivers⟩ | ⟨status, text, refuses⟩ | ⟨fault, unusable⟩
    · rw [outcome_of_delivers delivers, Rpc.Envelope.outcome] at fine
      cases failed : envelope.error with
      | none =>
        rw [failed] at fine
        exact ⟨envelope, delivers, failed, Except.ok.inj fine⟩
      | some error =>
        rw [failed] at fine
        exact nomatch fine
    · rw [outcome_of_refuses refuses] at fine
      exact nomatch fine
    · rw [outcome_of_unusable unusable] at fine
      exact nomatch fine
  · exact outcome_of_carries

/-- What a submission makes of an answer. -/
def submissionOf (answer : Option Answer) : Except Rpc.Error String :=
  (replyTo answer).outcome.bind Client.hashOf

/-- A submission succeeds on the answers that carry a text, which is the hash. -/
theorem submissionOf_eq_ok_iff {hash : String} :
    submissionOf answer = .ok hash ↔ Carries answer (some (.string hash)) := by
  rw [← outcome_eq_ok_iff, submissionOf]
  cases (replyTo answer).outcome with
  | error error => simp [Except.bind]
  | ok result =>
    rcases result with _ | value
    · simp [Except.bind, Client.hashOf]
    · cases value <;> simp [Except.bind, Client.hashOf]

/-- What a poll makes of an answer. -/
def pollOf (answer : Option Answer) : Except Rpc.Error (Option Receipt) :=
  (replyTo answer).outcome.map Client.receiptOf

/-- A pending answer is no receipt. -/
theorem pollOf_of_pending (pending : Pending answer) :
    pollOf answer = .ok none := by
  rcases pending with carries | ⟨value, carries, hollow⟩
  · rw [pollOf, outcome_of_carries carries]
    rfl
  · rw [pollOf, outcome_of_carries carries]
    simp only [Except.map, Client.receiptOf, Option.filter, hollow_iff.1 hollow,
      Bool.false_eq_true, ↓reduceIte, Option.map_none]

/-- A transient answer is a transient failure. -/
theorem pollOf_of_transient (transient : Transient answer) :
    ∃ error, pollOf answer = .error error ∧ error.isTransient = true := by
  cases transient with
  | unusable unusable =>
    exact ⟨_, by rw [pollOf, outcome_of_unusable unusable]; rfl, isTransient_of_unusable unusable⟩
  | @refused status text refuses passing =>
    refine ⟨_, by rw [pollOf, outcome_of_refuses refuses]; rfl, ?_⟩
    simp only [Rpc.Error.isTransient, Bool.or_eq_true, decide_eq_true_eq]
    omega
  | @reported code message reports passing =>
    refine ⟨_, by rw [pollOf, outcome_of_reports reports]; rfl, ?_⟩
    exact Bool.and_eq_true_iff.2 ⟨decide_eq_true passing.1, decide_eq_true passing.2⟩

/-- A decisive answer is what it decides. -/
theorem pollOf_of_decides {decision : Except Rpc.Error Receipt}
    (decides : Decides answer decision) : pollOf answer = decision.map some := by
  cases decides with
  | @found value carries solid =>
    have truthy : value.isTruthy = true := by
      simpa [hollow_iff] using solid
    rw [pollOf, outcome_of_carries carries]
    simp only [Except.map, Client.receiptOf, Option.filter, truthy, ↓reduceIte, Option.map_some]
  | refused refuses lasting => rw [pollOf, outcome_of_refuses refuses]; rfl
  | reported reports lasting => rw [pollOf, outcome_of_reports reports]; rfl

/-- A decisive failure is not transient. -/
theorem isTransient_of_decides {error : Rpc.Error}
    (decides : Decides answer (.error error)) : error.isTransient = false := by
  cases decides with
  | refused refuses lasting =>
    simp only [Rpc.Error.isTransient, Bool.or_eq_false_iff, decide_eq_false_iff_not]
    omega
  | reported reports lasting =>
    rcases lasting with rfl | rfl <;> rfl

/-- A decisive answer decides one thing. -/
theorem decides_unique {first second : Except Rpc.Error Receipt}
    (one : Decides answer first) (other : Decides answer second) : first = second := by
  have same := (pollOf_of_decides one).symm.trans (pollOf_of_decides other)
  cases first <;> cases second <;> simp_all [Except.map]

/-- A pending or transient answer decides nothing. -/
theorem not_decides (passing : Pending answer ∨ Transient answer)
    (decision : Except Rpc.Error Receipt) : ¬Decides answer decision := by
  intro decides
  have decided := pollOf_of_decides decides
  rcases passing with pending | transient
  · rw [pollOf_of_pending pending] at decided
    cases decision <;> simp [Except.map] at decided
  · obtain ⟨error, failed, passes⟩ := pollOf_of_transient transient
    rw [failed] at decided
    cases decision with
    | ok receipt => simp [Except.map] at decided
    | error lasting =>
      obtain rfl : error = lasting := by simpa [Except.map] using decided
      rw [isTransient_of_decides decides] at passes
      exact Bool.false_ne_true passes

/-- The answers that decide nothing are the pending and the transient ones. -/
theorem pending_or_transient_iff :
    Pending answer ∨ Transient answer ↔ ∀ decision, ¬Decides answer decision := by
  constructor
  · exact not_decides
  · intro undecided
    rcases pending_or_transient_or_decides answer with passing | ⟨decision, decides⟩
    · exact passing
    · exact absurd decides (undecided decision)

/-! ### Answers written out -/

variable {status : Nat} {text : String} {value : Json.Value}

/-- The bytes of a text are read as what the text spells. -/
theorem Rpc.Envelope.ofBytes?_encode {document : Json.Document}
    (spelled : Json.Document.ofText? text = some document) :
    ofBytes? (Text.Utf8.encode text) = ofDocument? document := by
  rw [ofBytes?, ofSymbols?, Text.Utf8.scan_encode]
  exact (congrArg (Option.bind · ofDocument?) spelled).trans (Option.bind_some ..)

/-- An answer that spells an envelope delivers it. -/
theorem delivers_of_ofText? (document : Json.Document) {envelope : Rpc.Envelope}
    (success : 200 ≤ status ∧ status < 300) (bodied : status ≠ 204)
    (spelled : Json.Document.ofText? text = some document)
    (read : Rpc.Envelope.ofDocument? document = some envelope) :
    Delivers (some (.sent status (Text.Utf8.encode text) false)) envelope := by
  rw [← Rpc.Envelope.ofBytes?_encode spelled] at read
  exact ⟨status, _, rfl, success.1, success.2, bodied, read⟩

/-- An answer that spells an envelope without an error carries what the envelope has for a
result. -/
theorem carries_of_ofText? (document : Json.Document) {jsonrpc : Option String}
    {id result : Option Json.Value} (spelled : Json.Document.ofText? text = some document)
    (read : Rpc.Envelope.ofDocument? document = some ⟨jsonrpc, id, result, none⟩) :
    Carries (some (.sent 200 (Text.Utf8.encode text) false)) result :=
  ⟨_, delivers_of_ofText? document (by decide) (by decide) spelled read, rfl, rfl⟩

/-- An answer that spells an envelope with an error reports it, whatever else the envelope has. -/
theorem reports_of_ofText? (document : Json.Document) {jsonrpc : Option String}
    {id result data : Option Json.Value} {code : Int} {message : String}
    (spelled : Json.Document.ofText? text = some document)
    (read : Rpc.Envelope.ofDocument? document =
      some ⟨jsonrpc, id, result, some ⟨code, message, data⟩⟩) :
    Reports (some (.sent 200 (Text.Utf8.encode text) false)) code message :=
  ⟨_, _, delivers_of_ofText? document (by decide) (by decide) spelled read, rfl, rfl, rfl⟩

/-- An answer that spells an object with `null` for its result, and nothing else, carries none. -/
theorem carries_none_of_null :
    Carries (some (.sent 200 (Text.Utf8.encode (Json.Value.object [("result", .null)]).text) false))
      none :=
  carries_of_ofText? (.object [(.ofText "result", .scalar .null)]) rfl rfl

/-- An answer that spells an object with a canonical value for its result, and nothing else, carries
that value, unless it is `null`. -/
theorem carries_of_canonical (canonical : value.Canonical (Json.maxDepth - 1))
    (other : value ≠ .null) :
    Carries (some (.sent 200 (Text.Utf8.encode (Json.Value.object [("result", value)]).text) false))
      (some value) := by
  have legible : (Json.Value.object [("result", value)]).Legible :=
    Json.Value.legible_object (List.forall_mem_singleton.2 canonical.legible)
  have spelled := Json.Value.ofText?_of_legible legible
  have denotes := canonical.value?_document
  have solid : value.document ≠ .scalar .null := by
    intro null
    rw [null] at denotes
    exact other (Option.some.inj denotes).symm
  have held : Json.Record.optional? (Json.Document.value? (Json.maxDepth - 1))
      (some value.document) = some (some value) :=
    Json.Record.optional?_eq_some_iff.2 ⟨_, rfl, solid, denotes⟩
  have hole : Json.Record.Hole Rpc.Envelope.fields "result" fun document =>
      .object ([] ++ (.ofText "result", document) :: []) :=
    .member (Json.StringLiteral.text?_ofText "result")
  have empty : Rpc.Envelope.ofDocument? (.object [(.ofText "result", .scalar .null)]) =
      some ⟨none, none, none, none⟩ := rfl
  have read : Rpc.Envelope.ofDocument? (.object [(.ofText "result", value.document)]) = _ :=
    Rpc.Envelope.ofDocument?_of_result_hole hole empty
  rw [held] at read
  exact carries_of_ofText? _ spelled read

end Courier
