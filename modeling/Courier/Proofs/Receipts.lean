import Courier.Proofs.Exchange
import Courier.Proofs.Envelopes
import Courier.Proofs.Json.Depth
import Courier.Proofs.Json.Splicing

/-!
# Receipts inside envelopes

A receipt is read twice: by itself, and as the result of an envelope around it. The text of a
receipt spells the same inside the text of an envelope (`Rpc.Envelope.ofText?_textAround`), and the
envelope takes up one container of the room that there is. So a receipt that nests no deeper than
the rest of the room comes back from the node as what it is by itself, whatever its fields hold
(`Client.transactionReceipt_answerAround`), and a deeper one is no answer
(`Client.transactionReceipt_answerAround_of_deep`).
-/
namespace Courier

open Json

namespace Rpc.Envelope

/-- The text of an envelope with the text of a result in it. -/
def textAround (result : String) : String :=
  "\x7b\"jsonrpc\":\"2.0\",\"id\":1,\"result\":" ++ result ++ "\x7d"

/-- The document of an envelope with the document of a result in it. -/
def documentAround (result : Document) : Document :=
  let before := [(.ofText "jsonrpc", .scalar (.string (.ofText "2.0"))),
    (.ofText "id", .scalar (.number (.ofInt 1)))]
  .object (before ++ [(.ofText "result", result)])

variable {text : String} {document : Document}

/-- What a text spells it spells inside an envelope too. -/
theorem ofText?_textAround (spelled : Document.ofText? text = some document) :
    Document.ofText? (textAround text) = some (documentAround document) := by
  let found : List Token := [.colon, .scalar (.string (.ofText "result")), .comma,
    .scalar (.number (.ofInt 1)), .colon, .scalar (.string (.ofText "id")), .comma,
    .scalar (.string (.ofText "2.0")), .colon, .scalar (.string (.ofText "jsonrpc")), .openObject]
  have taken : (symbols "\x7b\"jsonrpc\":\"2.0\",\"id\":1,\"result\":").foldlM Lexer.step
      Lexer.start = some ⟨.between, found⟩ := rfl
  have closing : Token.ofSymbols? (symbols "\x7d") = some [.closeObject] := rfl
  have ends : Lexer.Ends "\x7d".toList := Lexer.ends_cons (by decide) []
  exact Document.ofText?_splice taken rfl spelled ends closing

/-- The result stands where the envelope has its own. -/
theorem hole_documentAround : Record.Hole fields "result" documentAround :=
  .member (StringLiteral.text?_ofText "result")

/-- The envelope has the version, the number and the result, if there is room for that inside it. -/
theorem ofDocument?_documentAround (document : Document) :
    ofDocument? (documentAround document) =
      (Record.optional? (Document.value? (maxDepth - 1)) (some document)).map fun result =>
        ⟨some "2.0", some (.integer 1), result, none⟩ := by
  have empty : ofDocument? (documentAround (.scalar .null)) =
      some ⟨some "2.0", some (.integer 1), none, none⟩ := rfl
  exact ofDocument?_of_result_hole hole_documentAround empty

end Rpc.Envelope

variable {text : String} {receipt : Receipt} {document : Document} {status : Nat}

/-- A receipt is the value of the document that its text spells. -/
theorem Receipt.value?_of_ofText? (reads : Receipt.ofText? text = some receipt)
    (spelled : Document.ofText? text = some document) :
    document.value? maxDepth = some receipt.value := by
  obtain ⟨value, denotes, rfl⟩ := Option.map_eq_some_iff.1 reads
  rw [Json.Value.ofText?, spelled] at denotes
  exact denotes

/-- The answer of a node that puts a result into an envelope. -/
def answerAround (status : Nat) (result : String) : Answer :=
  .sent status (Text.Utf8.encode (Rpc.Envelope.textAround result)) false

/-- The answer around a result carries what the result is read as. -/
theorem carries_answerAround {result : Option Json.Value}
    (success : 200 ≤ status ∧ status < 300) (bodied : status ≠ 204)
    (spelled : Document.ofText? text = some document)
    (read : Record.optional? (Document.value? (maxDepth - 1)) (some document) = some result) :
    Carries (some (answerAround status text)) result := by
  have around := Rpc.Envelope.ofText?_textAround spelled
  have whole : Rpc.Envelope.ofDocument? (Rpc.Envelope.documentAround document) =
      some ⟨some "2.0", some (.integer 1), result, none⟩ := by
    rw [Rpc.Envelope.ofDocument?_documentAround, read]
    rfl
  exact ⟨_, delivers_of_ofText? _ success bodied around whole, rfl, rfl⟩

/-- A poll makes of the answer around a receipt that receipt, or nothing if it is hollow. -/
theorem pollOf_answerAround (success : 200 ≤ status ∧ status < 300) (bodied : status ≠ 204)
    (reads : Receipt.ofText? text = some receipt)
    (spelled : Document.ofText? text = some document) (fits : document.depth ≤ maxDepth - 1) :
    (¬Hollow receipt.value → pollOf (some (answerAround status text)) = .ok (some receipt)) ∧
      (Hollow receipt.value → pollOf (some (answerAround status text)) = .ok none) := by
  have denotes := Receipt.value?_of_ofText? reads spelled
  by_cases null : document = .scalar .null
  · -- A result that is `null` is as good as none, and so is the receipt.
    subst null
    have none_left : receipt.value = .null := (Option.some.inj denotes).symm
    have carries := carries_answerAround success bodied spelled rfl
    exact ⟨fun solid => absurd (.inl none_left) solid, fun _ => pollOf_of_pending (.inl carries)⟩
  · have within : document.value? (maxDepth - 1) = some receipt.value := by
      rw [Document.value?_of_depth_le fits (Document.depth_le_of_value? denotes), denotes]
    have read : Record.optional? (Document.value? (maxDepth - 1)) (some document) =
        some (some receipt.value) :=
      Record.optional?_eq_some_iff.2 ⟨document, rfl, null, within⟩
    have carries := carries_answerAround success bodied spelled read
    constructor
    · intro solid
      exact pollOf_of_decides (.found carries solid)
    · intro hollow
      exact pollOf_of_pending (.inr ⟨receipt.value, carries, hollow⟩)

/-- Where there is no room for the result the answer is of no use. -/
theorem pollOf_answerAround_of_deep (success : 200 ≤ status ∧ status < 300)
    (bodied : status ≠ 204) (spelled : Document.ofText? text = some document)
    (deep : maxDepth - 1 < document.depth) :
    pollOf (some (answerAround status text)) = .error (.requestFailed
      (.undecodable (Text.Utf8.encode (Rpc.Envelope.textAround text)))) := by
  have other : document ≠ .scalar .null := by
    rintro rfl
    exact absurd deep (Nat.not_lt_zero _)
  have refused := Document.value?_eq_none_of_lt_depth deep
  have undecodable : Rpc.Envelope.ofBytes? (Text.Utf8.encode (Rpc.Envelope.textAround text)) =
      none := by
    rw [Rpc.Envelope.ofBytes?_encode (Rpc.Envelope.ofText?_textAround spelled),
      Rpc.Envelope.ofDocument?_documentAround, Record.optional?_of_ne_null other, refused]
    rfl
  rw [pollOf, answerAround, outcome_of_unusable (.undecodable success bodied undecodable)]
  rfl

namespace Client

variable {reaches : Endpoint → Bool} {url : String}

/-- A text that is a receipt by itself and nests at most 126 containers is that receipt when the
node answers with it, whatever the types of its fields and with any blanks around it: there is a
receipt unless it is `null`, `false`, an empty string, an empty array or an empty object. The status
is any success with a body, which 204 has not. -/
theorem transactionReceipt_answerAround (reached : Reached reaches url)
    (reads : Receipt.ofText? text = some receipt)
    (spelled : Document.ofText? text = some document) (shallow : document.depth ≤ 126)
    (success : 200 ≤ status ∧ status < 300) (bodied : status ≠ 204) (hash : String)
    (later : List Answer) :
    let shown := (transactionReceipt url hash).play reaches (answerAround status text :: later)
    (¬Hollow receipt.value → shown.result = .ok (some receipt)) ∧
      (Hollow receipt.value → shown.result = .ok none) := by
  intro shown
  have shape : shown = exchanged (.transactionReceipt hash) pollOf
      (answerAround status text :: later) := play_transactionReceipt reached hash _
  rw [shape]
  exact pollOf_answerAround success bodied reads spelled shallow

/-- A numeric status with blanks around it, and an empty array. -/
theorem transactionReceipt_answerAround_numeric_status :
    let url := "http://127.0.0.1:8547"
    let reaches : Endpoint → Bool := fun _ => true
    let receipt := Receipt.mk (.object [("status", .integer 1)])
    let numeric := answerAround 200 "\t\x7b\"status\": 1\x7d\n"
    let empty := answerAround 299 "[]"
    ((transactionReceipt url "0xabc").play reaches [numeric]).result = .ok (some receipt) ∧
      ((transactionReceipt url "0xabc").play reaches [empty]).result = .ok none := by
  intro url reaches receipt numeric empty
  have reached : Reached reaches url := reached_local
  let status : StringLiteral × Document := (.ofText "status", .scalar (.number (.ofInt 1)))
  have spelled : Document.ofText? "\t\x7b\"status\": 1\x7d\n" = some (.object [status]) := rfl
  have reads : Receipt.ofText? "\t\x7b\"status\": 1\x7d\n" = some receipt := by
    rw [Receipt.ofText?, Json.Value.ofText?, spelled]
    rfl
  have solid : ¬Hollow receipt.value := by
    rw [hollow_iff]
    decide
  have hollow : Hollow (.array []) := .inr (.inr (.inr (.inl rfl)))
  constructor
  · exact (transactionReceipt_answerAround reached reads spelled (by decide) (by decide)
      (by decide) "0xabc" []).1 solid
  · have listed : Document.ofText? "[]" = some (.array []) := rfl
    have held : Receipt.ofText? "[]" = some ⟨.array []⟩ := rfl
    exact (transactionReceipt_answerAround reached held listed (by decide) (by decide)
      (by decide) "0xabc" []).2 hollow

/-- A text that nests more is no answer, even if it is a receipt by itself. -/
theorem transactionReceipt_answerAround_of_deep (reached : Reached reaches url)
    (spelled : Document.ofText? text = some document) (deep : 126 < document.depth)
    (success : 200 ≤ status ∧ status < 300) (bodied : status ≠ 204) (hash : String)
    (later : List Answer) :
    ((transactionReceipt url hash).play reaches (answerAround status text :: later)).result =
      .error (.requestFailed
        (.undecodable (Text.Utf8.encode (Rpc.Envelope.textAround text)))) := by
  rw [play_transactionReceipt reached]
  exact pollOf_answerAround_of_deep success bodied spelled deep

end Client

end Courier
