import Courier.Proofs.Envelopes
import Courier.Proofs.Exchange

/-!
# What comes of a transaction sent

A transaction that is sent meets one answer, and of several things that may be wrong with it at once
the first one counts: that there is none, then its status, then a body that spells no envelope, then
an error in the envelope, whatever result stands beside it, and last a result that is no text
(`Settles`). What an envelope holds is said of the document in the body, not of what a reader makes
of it; the reader agrees (`settles_iff`), so a transaction sent comes to that
(`Client.sendTransaction_settles`).
-/
namespace Courier

open Json

/-- The values that are texts are the strings. -/
theorem Json.Value.text?_eq_some_iff {value : Value} {text : String} :
    value.text? = some text ↔ value = .string text := by
  cases value <;> simp [text?]

/-- The value of a number literal is no text. -/
theorem Json.NumberLiteral.value?_ne_string (literal : NumberLiteral) (text : String) :
    literal.value? ≠ some (.string text) := by
  unfold value?
  split
  · exact nofun
  · intro same
    obtain ⟨_, _, never⟩ := Option.map_eq_some_iff.1 same
    exact nomatch never

/-- The documents that denote a text are the strings. -/
theorem Json.Document.value?_eq_string_iff {room : Nat} {document : Document} {text : String} :
    document.value? room = some (.string text) ↔
      ∃ literal, document = .scalar (.string literal) ∧ literal.text? = some text := by
  constructor
  · intro read
    cases document with
    | scalar scalar =>
      cases scalar with
      | null => cases read
      | bool b => cases read
      | number literal => exact absurd read (literal.value?_ne_string text)
      | string literal =>
        obtain ⟨_, spelled, same⟩ := Option.map_eq_some_iff.1 read
        cases same
        exact ⟨literal, rfl, spelled⟩
    | array items =>
      rw [value?] at read
      split at read
      · cases read
      · obtain ⟨_, _, never⟩ := Option.map_eq_some_iff.1 read
        cases never
    | object members =>
      rw [value?] at read
      split at read
      · cases read
      · obtain ⟨_, _, never⟩ := Option.map_eq_some_iff.1 read
        cases never
  · rintro ⟨literal, rfl, spelled⟩
    rw [value?, spelled]
    rfl

/-- A document denotes a value that is no text exactly if it is no string. -/
theorem Json.Document.text?_eq_none_iff {room : Nat} {document : Document} {value : Value}
    (denotes : document.value? room = some value) :
    value.text? = none ↔ ∀ literal, document ≠ .scalar (.string literal) := by
  constructor
  · rintro other literal rfl
    obtain ⟨text, -, rfl⟩ := Option.map_eq_some_iff.1 denotes
    exact nomatch other
  · intro unquoted
    cases value with
    | string text =>
      obtain ⟨literal, same, -⟩ := value?_eq_string_iff.1 denotes
      exact absurd same (unquoted literal)
    | _ => rfl

/-- A result that is no text is no hash, and the failure shows it. -/
theorem Client.hashOf_of_text?_eq_none {value : Value} (other : value.text? = none) :
    hashOf (some value) =
      .error (.invalidResponse ("expected transaction hash, got " ++ value.text)) := by
  cases value with
  | string text => exact nomatch other
  | _ => rfl

namespace Rpc

/-- A document gives an error one code and one message. -/
theorem ErrorObject.Reports.unique {document : Document} {code otherCode : Int}
    {message other : String} (one : Reports document code message)
    (another : Reports document otherCode other) : code = otherCode ∧ message = other := by
  obtain ⟨number, numbered, -, -, -, -, coded⟩ := one.code
  obtain ⟨string, stringed, worded⟩ := one.message
  obtain ⟨_, alsoNumbered, -, -, -, -, alsoCoded⟩ := another.code
  obtain ⟨_, alsoStringed, alsoWorded⟩ := another.message
  rw [numbered] at alsoNumbered
  rw [stringed] at alsoStringed
  cases alsoNumbered
  cases alsoStringed
  constructor
  · rcases coded with ⟨sign, rfl⟩ | ⟨sign, -, rfl⟩
    · rcases alsoCoded with ⟨-, rfl⟩ | ⟨negative, -, -⟩
      · rfl
      · exact absurd (sign.symm.trans negative) Bool.false_ne_true
    · rcases alsoCoded with ⟨positive, -⟩ | ⟨-, -, rfl⟩
      · exact absurd (positive.symm.trans sign) Bool.false_ne_true
      · rfl
  · exact Option.some.inj (worded.symm.trans alsoWorded)

/-- The failures that will not pass are a URL that names no endpoint, a status that is neither that
of a busy node nor that of one in trouble, and the two errors that say that the request is wrong. -/
theorem Error.isTransient_eq_false_iff {error : Error} :
    error.isTransient = false ↔
      error = .requestFailed .unsendable ∨
      (∃ status text, error = .httpStatus status text ∧ status < 500 ∧ status ≠ 429) ∨
      ∃ code message, error = .rpc code message ∧ (code = -32601 ∨ code = -32602) := by
  match error with
  | .requestFailed .unsendable => simp [isTransient]
  | .requestFailed .lost => simp [isTransient]
  | .requestFailed .broken => simp [isTransient]
  | .requestFailed (.undecodable body) => simp [isTransient]
  | .httpStatus status text => simp [isTransient]
  | .rpc code message =>
    have both : isTransient (.rpc code message) = false ↔ code = -32601 ∨ code = -32602 := by
      unfold isTransient methodNotFound invalidParams
      rw [Bool.and_eq_false_iff, decide_eq_false_iff_not, decide_eq_false_iff_not]
      omega
    simp [both]
  | .invalidResponse detail => simp [isTransient]

end Rpc

/-- Whether an answer brings a document that spells an envelope: its status is a success that has a
body, and the body arrives whole. -/
def Brings (answer : Option Answer) (document : Document) : Prop :=
  ∃ status body, answer = some (.sent status body false) ∧ 200 ≤ status ∧ status < 300 ∧
    status ≠ 204 ∧ Document.ofSymbols? (Text.Utf8.scan body) = some document ∧
    (Rpc.Envelope.ofDocument? document).isSome = true

/-- Whether a field is missing from an envelope, or `null`. -/
def Lacks (document : Document) (field : String) : Prop :=
  Record.value? Rpc.Envelope.fields document field = none ∨
    Record.value? Rpc.Envelope.fields document field = some (.scalar .null)

/-- What the answer to a transaction comes to. -/
inductive Settles (answer : Option Answer) : Except Rpc.Error String → Prop where
  /-- Nothing came back, or a success without a whole body that spells an envelope. -/
  | unusable {fault : Rpc.TransportFault} (unusable : Unusable answer fault) :
    Settles answer (.error (.requestFailed fault))
  /-- The status is no success, whatever the body spells. -/
  | refused {status : Nat} {text : String} (refuses : Refuses answer status text) :
    Settles answer (.error (.httpStatus status text))
  /-- The envelope holds an error, whatever its result. -/
  | reported {document error : Document} {code : Int} {message : String}
    (brings : Brings answer document)
    (holds : Record.value? Rpc.Envelope.fields document "error" = some error)
    (other : error ≠ .scalar .null) (reports : Rpc.ErrorObject.Reports error code message) :
    Settles answer (.error (.rpc code message))
  /-- It holds neither an error nor a result. -/
  | missing {document : Document} (brings : Brings answer document)
    (fine : Lacks document "error") (lacks : Lacks document "result") :
    Settles answer (.error (.invalidResponse "Missing result field"))
  /-- It holds no error, and a result that is no string. -/
  | misplaced {document result : Document} {value : Json.Value} (brings : Brings answer document)
    (fine : Lacks document "error")
    (holds : Record.value? Rpc.Envelope.fields document "result" = some result)
    (other : result ≠ .scalar .null) (unquoted : ∀ literal, result ≠ .scalar (.string literal))
    (denotes : result.value? (Json.maxDepth - 1) = some value) :
    Settles answer
      (.error (.invalidResponse ("expected transaction hash, got " ++ value.text)))
  /-- It holds no error, and a string for its result: that is the hash. -/
  | taken {document : Document} {literal : Json.StringLiteral} {hash : String}
    (brings : Brings answer document) (fine : Lacks document "error")
    (holds : Record.value? Rpc.Envelope.fields document "result" =
      some (.scalar (.string literal)))
    (denotes : literal.text? = some hash) : Settles answer (.ok hash)

variable {answer : Option Answer} {document : Document} {envelope : Rpc.Envelope}

/-- An envelope that is delivered is spelled by a document that the answer brings. -/
theorem brings_of_delivers (delivers : Delivers answer envelope) :
    ∃ document, Brings answer document ∧ Rpc.Envelope.ofDocument? document = some envelope := by
  obtain ⟨status, body, sent, low, high, bodied, read⟩ := delivers
  obtain ⟨document, spelled, read⟩ := Option.bind_eq_some_iff.1 read
  have envelops := Option.isSome_iff_exists.2 ⟨envelope, read⟩
  exact ⟨document, ⟨status, body, sent, low, high, bodied, spelled, envelops⟩, read⟩

/-- A document that an answer brings spells an envelope that it delivers. -/
theorem Brings.delivers (brings : Brings answer document) :
    ∃ envelope, Delivers answer envelope ∧ Rpc.Envelope.ofDocument? document = some envelope := by
  obtain ⟨status, body, sent, low, high, bodied, spelled, envelops⟩ := brings
  obtain ⟨envelope, read⟩ := Option.isSome_iff_exists.1 envelops
  have whole : Rpc.Envelope.ofBytes? body = some envelope := Option.bind_eq_some_iff.2
    ⟨document, spelled, read⟩
  exact ⟨envelope, ⟨status, body, sent, low, high, bodied, whole⟩, read⟩

/-- Of a document that an answer brings the error and the result are read, and a submission makes
of them what it makes of the envelope. -/
theorem Brings.read (brings : Brings answer document) :
    ∃ envelope : Rpc.Envelope, submissionOf answer = envelope.outcome.bind Client.hashOf ∧
      Record.optional? (Document.value? (maxDepth - 1))
        (Record.value? Rpc.Envelope.fields document "result") = some envelope.result ∧
      Record.optional? (Rpc.ErrorObject.ofDocument? (maxDepth - 1))
        (Record.value? Rpc.Envelope.fields document "error") = some envelope.error := by
  obtain ⟨envelope, delivers, spelled⟩ := brings.delivers
  obtain ⟨-, -, -, result, error⟩ := Rpc.Envelope.ofDocument?_eq_some_iff.1 spelled
  have comes : submissionOf answer = envelope.outcome.bind Client.hashOf := by
    rw [submissionOf, outcome_of_delivers delivers]
  exact ⟨envelope, comes, result, error⟩

/-- What a submission makes of an answer is what this settles. -/
theorem settles_submissionOf (answer : Option Answer) : Settles answer (submissionOf answer) := by
  rcases delivers_or_refuses_or_unusable answer with
    ⟨envelope, delivers⟩ | ⟨status, text, refuses⟩ | ⟨fault, unusable⟩
  · obtain ⟨document, brings, spelled⟩ := brings_of_delivers delivers
    obtain ⟨-, -, -, result, error⟩ := Rpc.Envelope.ofDocument?_eq_some_iff.1 spelled
    rw [submissionOf, outcome_of_delivers delivers, Rpc.Envelope.outcome]
    cases failed : envelope.error with
    | some object =>
      rw [failed] at error
      obtain ⟨part, holds, other, read⟩ := Record.optional?_eq_some_iff.1 error
      exact .reported brings holds other (Rpc.ErrorObject.reports_of_ofDocument? read)
    | none =>
      rw [failed] at error
      have fine : Lacks document "error" := Record.optional?_eq_none_iff.1 error
      cases found : envelope.result with
      | none =>
        rw [found] at result
        exact .missing brings fine (Record.optional?_eq_none_iff.1 result)
      | some value =>
        rw [found] at result
        obtain ⟨part, holds, other, denotes⟩ := Record.optional?_eq_some_iff.1 result
        cases kind : value.text? with
        | none =>
          show Settles answer (Client.hashOf (some value))
          rw [Client.hashOf_of_text?_eq_none kind]
          exact .misplaced brings fine holds other (Document.text?_eq_none_iff denotes |>.1 kind)
            denotes
        | some hash =>
          obtain rfl := Value.text?_eq_some_iff.1 kind
          obtain ⟨literal, rfl, spelled⟩ := Document.value?_eq_string_iff.1 denotes
          exact .taken brings fine holds spelled
  · rw [submissionOf, outcome_of_refuses refuses]
    exact .refused refuses
  · rw [submissionOf, outcome_of_unusable unusable]
    exact .unusable unusable

/-- An answer comes to what it settles, and to nothing else. -/
theorem submissionOf_of_settles {result : Except Rpc.Error String}
    (settles : Settles answer result) : submissionOf answer = result := by
  cases settles with
  | unusable unusable => rw [submissionOf, outcome_of_unusable unusable]; rfl
  | refused refuses => rw [submissionOf, outcome_of_refuses refuses]; rfl
  | reported brings holds other reports =>
    obtain ⟨envelope, comes, -, error⟩ := brings.read
    rw [holds, Record.optional?_of_ne_null other] at error
    obtain ⟨object, error, failed⟩ := Option.map_eq_some_iff.1 error
    obtain ⟨rfl, rfl⟩ := reports.unique (Rpc.ErrorObject.reports_of_ofDocument? error)
    rw [comes, Rpc.Envelope.outcome, ← failed]
    rfl
  | missing brings fine lacks =>
    obtain ⟨envelope, comes, result, error⟩ := brings.read
    rw [Record.optional?_eq_none_iff.2 fine] at error
    rw [Record.optional?_eq_none_iff.2 lacks] at result
    rw [comes, Rpc.Envelope.outcome, ← Option.some.inj error, ← Option.some.inj result]
    rfl
  | misplaced brings fine holds other unquoted denotes =>
    obtain ⟨envelope, comes, result, error⟩ := brings.read
    rw [Record.optional?_eq_none_iff.2 fine] at error
    rw [Record.optional?_eq_some_iff.2 ⟨_, holds, other, denotes⟩] at result
    rw [comes, Rpc.Envelope.outcome, ← Option.some.inj error, ← Option.some.inj result]
    exact Client.hashOf_of_text?_eq_none ((Document.text?_eq_none_iff denotes).2 unquoted)
  | @taken _ literal _ brings fine holds denotes =>
    obtain ⟨envelope, comes, result, error⟩ := brings.read
    have text {room : Nat} := (@Document.value?_eq_string_iff room _ _).2 ⟨_, rfl, denotes⟩
    have other : Document.scalar (.string literal) ≠ .scalar .null := by simp
    rw [Record.optional?_eq_none_iff.2 fine] at error
    rw [Record.optional?_eq_some_iff.2 ⟨_, holds, other, text⟩] at result
    rw [comes, Rpc.Envelope.outcome, ← Option.some.inj error, ← Option.some.inj result]
    rfl

/-- An answer comes to what it settles. -/
theorem settles_iff {result : Except Rpc.Error String} :
    submissionOf answer = result ↔ Settles answer result := by
  constructor
  · rintro rfl
    exact settles_submissionOf answer
  · exact submissionOf_of_settles

namespace Client

/-- A transaction is sent in one request that takes up one answer, and it comes to what that answer
settles. The failures that come of it are for good exactly if they are a status below 500 other than
429, or an error that says that the method is not known or that the parameters are not taken. -/
theorem sendTransaction_settles {reaches : Endpoint → Bool} {url : String}
    (reached : Reached reaches url) (transaction : Transaction) (answers : List Answer) :
    let shown := (sendTransaction url transaction).play reaches answers
    shown.requests = [(Rpc.Request.sendTransaction transaction).text] ∧
    shown.rest = answers.tail ∧
    (∀ result, shown.result = result ↔ Settles answers.head? result) ∧
    ∀ error, shown.result = .error error →
      (error.isTransient = false ↔
        (∃ status text, error = .httpStatus status text ∧ status < 500 ∧ status ≠ 429) ∨
        ∃ code message, error = .rpc code message ∧ (code = -32601 ∨ code = -32602)) := by
  intro shown
  have sent : shown = _ := play_sendTransaction reached transaction answers
  rw [sent]
  refine ⟨rfl, rfl, fun result => settles_iff, ?_⟩
  intro error failed
  have reachable : error ≠ .requestFailed .unsendable := by
    rintro rfl
    cases settles_iff.1 failed with
    | unusable unusable => exact Bool.false_ne_true (isTransient_of_unusable unusable)
  rw [Rpc.Error.isTransient_eq_false_iff]
  simp only [reachable, false_or]

/-- An error counts even beside a result that is a text. -/
theorem sendTransaction_settles_error_beside_result :
    let url := "http://127.0.0.1:8547"
    let zero : Address := ⟨List.replicate 20 0, rfl⟩
    let transaction : Transaction := ⟨zero, zero, "0x", 1, 1⟩
    let body :=
      "\x7b\"result\":\"0xab\",\"error\":\x7b\"code\":-32601,\"message\":\"m\"\x7d\x7d"
    let shown := (sendTransaction url transaction).play (fun _ => true)
      [.sent 200 (Text.Utf8.encode body) false]
    Reached (fun _ => true) url ∧
      shown.requests = [(Rpc.Request.sendTransaction transaction).text] ∧
      shown.result = .error (.rpc (-32601) "m") ∧
      (Rpc.Error.rpc (-32601) "m").isTransient = false := by
  intro url zero transaction body shown
  have reached : Reached (fun _ => true) url := reached_local
  let spell (text : String) : StringLiteral := text.toList.map .char
  let number : NumberLiteral := ⟨true, "32601".toList, none, none⟩
  let error : Document := .object
    [(spell "code", .scalar (.number number)), (spell "message", .scalar (.string (spell "m")))]
  let document : Document := .object
    [(spell "result", .scalar (.string (spell "0xab"))), (spell "error", error)]
  have spelled : Document.ofSymbols? (Text.Utf8.scan (Text.Utf8.encode body)) = some document := by
    rw [Text.Utf8.scan_encode]
    simp only [body]
    rfl
  have brings : Brings (some (.sent 200 (Text.Utf8.encode body) false)) document :=
    ⟨200, _, rfl, by decide, by decide, by decide, spelled, rfl⟩
  have reports : Rpc.ErrorObject.Reports error (-32601) "m" :=
    ⟨⟨number, rfl, rfl, rfl, by decide, by decide, .inr ⟨rfl, by decide, by decide⟩⟩,
      ⟨spell "m", rfl, rfl⟩⟩
  have other : error ≠ .scalar .null := Document.noConfusion
  obtain ⟨requests, -, settles, lasts⟩ := sendTransaction_settles reached transaction
    [.sent 200 (Text.Utf8.encode body) false]
  have failed := (settles _).2 (.reported brings rfl other reports)
  exact ⟨reached, requests, failed, (lasts _ failed).2 (.inr ⟨_, _, rfl, .inl rfl⟩)⟩

end Client

end Courier
