import Courier.Proofs.Json.Presentation
import Courier.Rpc.Envelope

/-!
# Envelopes in any presentation

What a reader makes of an answer depends on what the envelope and the error in it say of their
fields, not on how they are presented (`Rpc.Envelope.ofDocument?_of_restates`). An envelope or an
error that names a field twice is never read, and an error is only read if it has a code that is a
whole number of 64 bits and a message that is a text (`Rpc.ErrorObject.reports_of_ofDocument?`).
-/
namespace Courier

open Json

namespace Json

variable {α : Type} {found other : Option Document} {read : Document → Option α}

/-- A field that is not `null` is read as it stands. -/
theorem Record.optional?_of_ne_null {document : Document} (other : document ≠ .scalar .null) :
    optional? read (some document) = (read document).map some := by
  unfold optional?
  split
  · rename_i same
    exact nomatch same
  · rename_i same
    exact absurd (Option.some.inj same) other
  · rename_i same
    rw [Option.some.inj same]

/-- A field is read as absent if it is missing or `null`. -/
theorem Record.optional?_eq_none_iff :
    optional? read found = some none ↔ found = none ∨ found = some (.scalar .null) := by
  cases found with
  | none => simp [optional?]
  | some document =>
    by_cases null : document = .scalar .null
    · subst null
      simp [optional?]
    · rw [optional?_of_ne_null null]
      cases read document <;> simp [null]

/-- A field is read as a part if it is there, is not `null` and is read as that part. -/
theorem Record.optional?_eq_some_iff {part : α} :
    optional? read found = some (some part) ↔
      ∃ document, found = some document ∧ document ≠ .scalar .null ∧
        read document = some part := by
  cases found with
  | none => simp [optional?]
  | some document =>
    by_cases null : document = .scalar .null
    · subst null
      simp [optional?]
    · rw [optional?_of_ne_null null]
      simp [null]

variable (read)

/-- What is not read from `null` does not tell `null` from nothing. -/
theorem Record.bind_of_solid (null : read (.scalar .null) = none)
    (same : solid found = solid other) : found.bind read = other.bind read := by
  have kept (found : Option Document) : (solid found).bind read = found.bind read := by
    unfold solid
    split
    · exact null.symm
    · rfl
  rw [← kept found, same, kept]

/-- A field that may be missing is read the same from `null` and from nothing. -/
theorem Record.optional?_of_solid (same : solid found = solid other) :
    optional? read found = optional? read other := by
  have kept (found : Option Document) : optional? read (solid found) = optional? read found := by
    unfold solid
    split <;> rfl
  rw [← kept found, same, kept]

/-- The literals that denote a signed number of 64 bits have neither a point nor an exponent, and
spell a number in the range of these, other than a negative zero. -/
theorem Document.int64?_eq_some_iff {literal : NumberLiteral} {n : Int} :
    int64? (.scalar (.number literal)) = some n ↔
      literal.fraction = none ∧ literal.exponent = none ∧
        -NumberLiteral.signBound ≤ n ∧ n < NumberLiteral.signBound ∧
        (literal.negative = false ∧ n = Decimal.digitsValue literal.whole ∨
          literal.negative = true ∧ n < 0 ∧ n = -Decimal.digitsValue literal.whole) := by
  have bound : NumberLiteral.signBound = 2 ^ 63 := rfl
  have size : UInt64.size = 2 ^ 64 := rfl
  unfold int64? NumberLiteral.integer?
  rw [Option.filter_eq_some_iff, bound, size]
  cases literal.fraction with
  | some digits => simp
  | none =>
    cases literal.exponent with
    | some power => simp
    | none =>
      cases literal.negative with
      | true =>
        simp
        omega
      | false =>
        simp
        omega

end Json

namespace Rpc

/-- The fields of an error. -/
def ErrorObject.fields : List String := ["code", "message", "data"]

/-- The fields of an envelope. -/
def Envelope.fields : List String := ["jsonrpc", "id", "result", "error"]

namespace ErrorObject

variable {document first second : Document} {room : Nat}

/-- An error is read from what a record says of its fields. -/
theorem ofDocument?_of_sound (deep : room ≠ 0) (sound : Record.Sound fields document) :
    ofDocument? room document = do
      let code ← (Record.value? fields document "code").bind Document.int64?
      let message ← (Record.value? fields document "message").bind Document.text?
      let data ← Record.optional? (Document.value? (room - 1))
        (Record.value? fields document "data")
      return { code, message, data } := by
  have known : Record.fields? ["code", "message", "data"] document = _ :=
    Record.fields?_of_sound sound
  unfold ofDocument?
  rw [if_neg deep, known]
  simp only [Option.bind_eq_bind, Option.bind_some, Option.bind_assoc]
  rfl

/-- A document that is no sound record of the fields of an error is no error. -/
theorem ofDocument?_of_not_sound (unsound : ¬Record.Sound fields document) :
    ofDocument? room document = none := by
  have unknown : Record.fields? ["code", "message", "data"] document = none :=
    Record.fields?_of_not_sound unsound
  unfold ofDocument?
  rw [unknown]
  split <;> rfl

/-- Documents that say the same of the fields are the same error. -/
theorem ofDocument?_of_agree (agree : Record.Agree fields first second) :
    ofDocument? room first = ofDocument? room second := by
  by_cases sound : Record.Sound fields first
  · by_cases deep : room = 0
    · unfold ofDocument?
      rw [if_pos deep, if_pos deep]
    · have same := agree.value sound
      have code := Record.bind_of_solid Document.int64? rfl (same "code" (by decide))
      have message := Record.bind_of_solid Document.text? rfl
        (same "message" (by decide))
      have data := Record.optional?_of_solid (Document.value? (room - 1))
        (same "data" (by decide))
      rw [ofDocument?_of_sound deep sound, ofDocument?_of_sound deep (agree.sound.1 sound), code,
        message, data]
  · rw [ofDocument?_of_not_sound sound,
      ofDocument?_of_not_sound fun other => sound (agree.sound.2 other)]

/-- Whether a document gives an error a code and a message: the one a number literal without point
and exponent, in the range of the signed numbers of 64 bits, the other a string. -/
structure Reports (document : Document) (code : Int) (message : String) : Prop where
  /-- The code. -/
  code : ∃ literal, Record.value? fields document "code" = some (.scalar (.number literal)) ∧
    literal.fraction = none ∧ literal.exponent = none ∧
    -NumberLiteral.signBound ≤ code ∧ code < NumberLiteral.signBound ∧
    (literal.negative = false ∧ code = Decimal.digitsValue literal.whole ∨
      literal.negative = true ∧ code < 0 ∧ code = -Decimal.digitsValue literal.whole)
  /-- The message. -/
  message : ∃ literal, Record.value? fields document "message" = some (.scalar (.string literal)) ∧
    literal.text? = some message

/-- An error that is read has a code and a message. -/
theorem reports_of_ofDocument? {error : ErrorObject}
    (spelled : ofDocument? room document = some error) :
    Reports document error.code error.message := by
  have deep : room ≠ 0 := by
    intro none_left
    rw [ofDocument?, if_pos none_left] at spelled
    exact nomatch spelled
  by_cases sound : Record.Sound fields document
  · rw [ofDocument?_of_sound deep sound] at spelled
    obtain ⟨code, coded, spelled⟩ := Option.bind_eq_some_iff.1 spelled
    obtain ⟨message, worded, spelled⟩ := Option.bind_eq_some_iff.1 spelled
    obtain ⟨data, _, whole⟩ := Option.bind_eq_some_iff.1 spelled
    have same : ErrorObject.mk code message data = error := Option.some.inj whole
    rw [← same]
    obtain ⟨number, numbered, coded⟩ := Option.bind_eq_some_iff.1 coded
    obtain ⟨string, stringed, worded⟩ := Option.bind_eq_some_iff.1 worded
    constructor
    · match number with
      | .scalar (.number literal) =>
        exact ⟨literal, numbered, Document.int64?_eq_some_iff.1 coded⟩
    · match string with
      | .scalar (.string literal) => exact ⟨literal, stringed, worded⟩
  · rw [ofDocument?_of_not_sound sound] at spelled
    exact nomatch spelled

end ErrorObject

namespace Envelope

variable {document first second : Document}

/-- An envelope is read from what a record says of its fields. -/
theorem ofDocument?_of_sound (sound : Record.Sound fields document) :
    ofDocument? document = do
      let jsonrpc ← Record.optional? Document.text?
        (Record.value? fields document "jsonrpc")
      let id ← Record.optional? (Document.value? (maxDepth - 1))
        (Record.value? fields document "id")
      let result ← Record.optional? (Document.value? (maxDepth - 1))
        (Record.value? fields document "result")
      let error ← Record.optional? (ErrorObject.ofDocument? (maxDepth - 1))
        (Record.value? fields document "error")
      return { jsonrpc, id, result, error } := by
  have known : Record.fields? ["jsonrpc", "id", "result", "error"] document = _ :=
    Record.fields?_of_sound sound
  unfold ofDocument?
  rw [known]
  rfl

/-- A document that is no sound record of the fields of an envelope is no envelope. -/
theorem ofDocument?_of_not_sound (unsound : ¬Record.Sound fields document) :
    ofDocument? document = none := by
  have unknown : Record.fields? ["jsonrpc", "id", "result", "error"] document = none :=
    Record.fields?_of_not_sound unsound
  unfold ofDocument?
  rw [unknown]
  rfl

/-- The documents that are an envelope are the records whose fields are read as the envelope holds
them. -/
theorem ofDocument?_eq_some_iff {envelope : Envelope} :
    ofDocument? document = some envelope ↔
      Record.Sound fields document ∧
      Record.optional? Document.text? (Record.value? fields document "jsonrpc") =
        some envelope.jsonrpc ∧
      Record.optional? (Document.value? (maxDepth - 1)) (Record.value? fields document "id") =
        some envelope.id ∧
      Record.optional? (Document.value? (maxDepth - 1)) (Record.value? fields document "result") =
        some envelope.result ∧
      Record.optional? (ErrorObject.ofDocument? (maxDepth - 1))
        (Record.value? fields document "error") = some envelope.error := by
  obtain ⟨jsonrpc, id, result, error⟩ := envelope
  by_cases sound : Record.Sound fields document
  · rw [ofDocument?_of_sound sound]
    simp only [Option.bind_eq_bind, Option.bind_eq_some_iff, Option.pure_def, Option.some.injEq,
      mk.injEq, sound, true_and]
    constructor
    · rintro ⟨_, first, _, second, _, third, _, fourth, rfl, rfl, rfl, rfl⟩
      exact ⟨first, second, third, fourth⟩
    · rintro ⟨first, second, third, fourth⟩
      exact ⟨_, first, _, second, _, third, _, fourth, rfl, rfl, rfl, rfl⟩
  · rw [ofDocument?_of_not_sound sound]
    simp [sound]

/-- Documents that say the same of the fields are the same envelope. -/
theorem ofDocument?_of_agree (agree : Record.Agree fields first second) :
    ofDocument? first = ofDocument? second := by
  by_cases sound : Record.Sound fields first
  · have same := agree.value sound
    have jsonrpc := Record.optional?_of_solid Document.text? (same "jsonrpc" (by decide))
    have id := Record.optional?_of_solid (Document.value? (maxDepth - 1))
      (same "id" (by decide))
    have result := Record.optional?_of_solid (Document.value? (maxDepth - 1))
      (same "result" (by decide))
    have error := Record.optional?_of_solid (ErrorObject.ofDocument? (maxDepth - 1))
      (same "error" (by decide))
    rw [ofDocument?_of_sound sound, ofDocument?_of_sound (agree.sound.1 sound), jsonrpc, id, result,
      error]
  · rw [ofDocument?_of_not_sound sound,
      ofDocument?_of_not_sound fun other => sound (agree.sound.2 other)]

section Hole

variable {around : Document → Document}

/-- Documents that are the same error make the same envelope where the error stands. -/
theorem ofDocument?_of_hole (hole : Record.Hole fields "error" around)
    (same : Record.optional? (ErrorObject.ofDocument? (maxDepth - 1)) (some first) =
      Record.optional? (ErrorObject.ofDocument? (maxDepth - 1)) (some second)) :
    ofDocument? (around first) = ofDocument? (around second) := by
  by_cases sound : Record.Sound fields (around first)
  · have also := (hole.sound_iff first second).1 sound
    have other (field : String) (differs : "error" ≠ field) :=
      hole.value?_of_ne differs first second
    rw [ofDocument?_of_sound sound, ofDocument?_of_sound also, other "jsonrpc" (by decide),
      other "id" (by decide), other "result" (by decide), hole.value?_self (by decide) sound,
      hole.value?_self (by decide) also, same]
  · have neither : ¬Record.Sound fields (around second) := fun also =>
      sound ((hole.sound_iff first second).2 also)
    rw [ofDocument?_of_not_sound sound, ofDocument?_of_not_sound neither]

/-- An envelope that is read has read what stands where its error does. -/
theorem error_of_hole {envelope : Envelope} (hole : Record.Hole fields "error" around)
    (spelled : ofDocument? (around document) = some envelope) :
    Record.optional? (ErrorObject.ofDocument? (maxDepth - 1)) (some document) =
      some envelope.error := by
  obtain ⟨sound, -, -, -, read⟩ := ofDocument?_eq_some_iff.1 spelled
  rw [hole.value?_self (by decide) sound] at read
  exact read

/-- Where an envelope holds `null` for a result, with a result it is the same but for that. -/
theorem ofDocument?_of_result_hole {envelope : Envelope}
    (hole : Record.Hole fields "result" around)
    (spelled : ofDocument? (around (.scalar .null)) = some envelope) :
    ofDocument? (around document) =
      (Record.optional? (Document.value? (maxDepth - 1)) (some document)).map fun result =>
        { envelope with result } := by
  obtain ⟨sound, jsonrpc, id, -, error⟩ := ofDocument?_eq_some_iff.1 spelled
  have also := (hole.sound_iff (.scalar .null) document).1 sound
  have other (field : String) (differs : "result" ≠ field) :=
    hole.value?_of_ne differs document (.scalar .null)
  rw [ofDocument?_of_sound also, other "jsonrpc" (by decide), other "id" (by decide),
    other "error" (by decide), hole.value?_self (by decide) also, jsonrpc, id, error]
  cases Record.optional? (Document.value? (maxDepth - 1)) (some document) <;> rfl

end Hole

/-- Whether one document presents an envelope as another does: through changes of its own members,
and of those of the error in it. -/
inductive Restates : Document → Document → Prop where
  /-- The envelope is changed. -/
  | whole {first second : Document} (restates : Record.Restates fields first second) :
    Restates first second
  /-- The error in it is changed. -/
  | error {around : Document → Document} {first second : Document}
    (hole : Record.Hole fields "error" around)
    (restates : Record.Restates ErrorObject.fields first second) :
    Restates (around first) (around second)
  /-- A change is taken back. -/
  | symm {first second : Document} (restates : Restates first second) : Restates second first
  /-- There is one change after another. -/
  | trans {first second third : Document} (restates : Restates first second)
    (again : Restates second third) : Restates first third

/-- The presentation of an envelope makes no difference to what is read. -/
theorem ofDocument?_of_restates (restates : Restates first second) :
    ofDocument? first = ofDocument? second := by
  induction restates with
  | whole restates => exact ofDocument?_of_agree restates.agree
  | error hole restates =>
    apply ofDocument?_of_hole hole
    obtain ⟨left, right⟩ := restates.ne_null
    rw [Record.optional?_of_ne_null left, Record.optional?_of_ne_null right,
      ErrorObject.ofDocument?_of_agree restates.agree]
  | symm _ same => exact same.symm
  | trans _ _ same also => exact same.trans also

/-- Whether a document presents an envelope that names a field twice, its own or one of the error in
it. -/
inductive Repeats : Document → Prop where
  /-- The envelope names one twice. -/
  | whole {document : Document} (repeats : Record.Repeats fields document) : Repeats document
  /-- The error in it names one twice. -/
  | error {around : Document → Document} {document : Document}
    (hole : Record.Hole fields "error" around)
    (repeats : Record.Repeats ErrorObject.fields document) : Repeats (around document)

/-- A document that presents a field twice is never read. -/
theorem ofDocument?_of_repeats (repeats : Repeats document) : ofDocument? document = none := by
  cases repeats with
  | whole repeats => exact ofDocument?_of_not_sound repeats.not_sound
  | @error around document hole repeats =>
    cases spelled : ofDocument? (around document) with
    | none => rfl
    | some envelope =>
      have read := error_of_hole hole spelled
      have other : document ≠ .scalar .null := by
        intro null
        rw [null] at repeats
        exact nomatch repeats
      rw [Record.optional?_of_ne_null other,
        ErrorObject.ofDocument?_of_not_sound repeats.not_sound] at read
      exact nomatch read

/-- What is read does not depend on the presentation. Inputs that spell the same envelope in two
presentations come to the same, be it an envelope or none; an input that names a field twice, of the
envelope or of the error in it, comes to none; and where an error stands and is not `null`, the
input comes to none unless that error has a code and a message. -/
theorem reads_any_presentation {one two : List Symbol} {first second : Document}
    (spelled : Document.ofSymbols? one = some first)
    (also : Document.ofSymbols? two = some second) :
    (Restates first second → ofSymbols? one = ofSymbols? two) ∧
    (Repeats first → ofSymbols? one = none) ∧
    ∀ around error, Record.Hole fields "error" around → first = around error →
      error ≠ .scalar .null → ∀ envelope, ofSymbols? one = some envelope →
        ∃ code message data, envelope.error = some ⟨code, message, data⟩ ∧
          ErrorObject.Reports error code message := by
  have left : ofSymbols? one = ofDocument? first := by
    rw [ofSymbols?, spelled, Option.bind_some]
  have right : ofSymbols? two = ofDocument? second := by
    rw [ofSymbols?, also, Option.bind_some]
  rw [left, right]
  refine ⟨ofDocument?_of_restates, ofDocument?_of_repeats, ?_⟩
  intro around error hole same other envelope read
  rw [same] at read
  have found := error_of_hole hole read
  rw [Record.optional?_of_ne_null other] at found
  obtain ⟨object, spelled, held⟩ := Option.map_eq_some_iff.1 found
  exact ⟨object.code, object.message, object.data, held.symm,
    ErrorObject.reports_of_ofDocument? spelled⟩

/-- An error among members, and the same one listed in a list, are the same envelope with its code
and its message. With the code named twice it is none. -/
theorem reads_any_presentation_listed :
    let one := symbols "\x7b\"error\":\x7b\"message\":\"m\",\"code\":-3\x7d\x7d"
    let two := symbols "[null,null,null,[-3,\"m\"]]"
    let twice := symbols "\x7b\"error\":\x7b\"code\":-3,\"message\":\"m\",\"code\":-3\x7d\x7d"
    let envelope : Envelope := ⟨none, none, none, some ⟨-3, "m", none⟩⟩
    ofSymbols? one = some envelope ∧ ofSymbols? two = some envelope ∧ ofSymbols? twice = none := by
  intro one two twice envelope
  let spell (text : String) : StringLiteral := text.toList.map .char
  let code : Document := .scalar (.number ⟨true, ['3'], none, none⟩)
  let message : Document := .scalar (.string (spell "m"))
  let inner := [(spell "message", message), (spell "code", code)]
  let outer := [(spell "error", Document.object inner)]
  let around (error : Document) : Document :=
    .array ([.scalar .null, .scalar .null, .scalar .null] ++ error :: [])
  have listed : Record.Restates fields (.object outer) (around (.object inner)) :=
    @Record.Restates.listed fields outer 4 (by decide) (by decide) (by decide)
  have within : Record.Restates ErrorObject.fields (.object inner) (.array [code, message]) :=
    @Record.Restates.listed ErrorObject.fields inner 2 (by decide) (by decide) (by decide)
  have hole : Record.Hole fields "error" around := .item (by decide)
  have restates : Restates (.object outer) (around (.array [code, message])) :=
    .trans (.whole listed) (.error hole within)
  have spelled : Document.ofSymbols? one = some (.object outer) := rfl
  have also : Document.ofSymbols? two = some
      (.array [.scalar .null, .scalar .null, .scalar .null, .array [code, message]]) := rfl
  have read : ofSymbols? one = some envelope := rfl
  have same := (reads_any_presentation spelled also).1 restates
  let repeated : Document :=
    .object ((spell "code", code) :: ([(spell "message", message)] ++ [(spell "code", code)]))
  have named : Record.Hole fields "error" fun error =>
      .object ([] ++ (spell "error", error) :: []) := .member rfl
  have repeats : Record.Repeats ErrorObject.fields repeated :=
    @Record.Repeats.intro _ [] [_] [] (spell "code") (spell "code") "code" (by decide) rfl rfl
      code code
  have told : Document.ofSymbols? twice = some (.object [(spell "error", repeated)]) := rfl
  exact ⟨read, same.symm.trans read, (reads_any_presentation told told).2.1 (.error named repeats)⟩

end Envelope

end Rpc

end Courier
