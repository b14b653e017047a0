import Courier.Proofs.Json.Members
import Courier.Proofs.Receipts
import Courier.Proofs.Submissions

/-!
# Fields of a receipt

What a receipt holds is said of the members of its text, as they are spelled: of those with one
name, which an escape may spell, only the last counts, and it is as good as none if it is `null`
(`Holds`). The fields of a receipt are that (`Receipt.field?_eq_iff`), so what it says does not
depend on the order of members with different names, and a record that is no object says nothing
(`Receipt.fields_of_last_members`).
-/
namespace Courier

open Json

open Record (isNamed)

/-- A document is a string that denotes a text exactly if that is its value. -/
theorem Json.Document.text?_eq_some_iff {room : Nat} {document : Document} {text : String} :
    document.text? = some text ↔ document.value? room = some (.string text) := by
  rw [value?_eq_string_iff]
  constructor
  · intro read
    unfold text? at read
    split at read
    · exact ⟨_, rfl, read⟩
    · exact nomatch read
  · rintro ⟨literal, rfl, read⟩
    exact read

/-- A document whose value is an object is an object. -/
theorem Json.Document.exists_object_of_value? {room : Nat} {document : Document}
    {held : List (String × Value)} (denotes : document.value? room = some (.object held)) :
    ∃ members, document = .object members := by
  cases document with
  | scalar s =>
    cases s with
    | null => cases denotes
    | bool b => cases denotes
    | number literal =>
      rw [value?, NumberLiteral.value?] at denotes
      split at denotes
      · cases denotes
      · obtain ⟨_, _, never⟩ := Option.map_eq_some_iff.1 denotes
        cases never
    | string literal =>
      obtain ⟨_, _, never⟩ := Option.map_eq_some_iff.1 denotes
      cases never
  | array items =>
    rw [value?] at denotes
    split at denotes
    · cases denotes
    · obtain ⟨_, _, never⟩ := Option.map_eq_some_iff.1 denotes
      cases never
  | object members => exact ⟨members, rfl⟩

/-- What members hold under a name. -/
inductive Holds (members : List (StringLiteral × Document)) (name : String) :
    Option Value → Prop where
  /-- Nothing, if none of them has it. -/
  | absent (unnamed : ∀ member ∈ members, member.1.text? ≠ some name) : Holds members name none
  /-- Nothing, if the last that has it is `null`. -/
  | null {document : Document} (last : Document.IsLast members name document)
    (denotes : document.value? (maxDepth - 1) = some .null) : Holds members name none
  /-- The value of the last that has it, if that is anything else. -/
  | value {document : Document} {value : Value} (last : Document.IsLast members name document)
    (denotes : document.value? (maxDepth - 1) = some value) (solid : value ≠ .null) :
    Holds members name (some value)

namespace Receipt

variable {text : String} {receipt : Receipt} {members : List (StringLiteral × Document)}
  {name : String} {document : Document}

/-- The text of a receipt spells a document. -/
theorem exists_document_of_ofText? (reads : ofText? text = some receipt) :
    ∃ document, Document.ofText? text = some document := by
  obtain ⟨value, read, -⟩ := Option.map_eq_some_iff.1 reads
  obtain ⟨document, spelled, -⟩ := Option.bind_eq_some_iff.1 read
  exact ⟨document, spelled⟩

/-- A receipt looks into an object for the last member with a name. -/
theorem member?_eq (reads : ofText? text = some receipt)
    (spelled : Document.ofText? text = some (.object members)) (name : String) :
    receipt.value.member? name =
      (members.reverse.find? (isNamed name)).bind fun member =>
        member.2.value? (maxDepth - 1) := by
  have denotes := value?_of_ofText? reads spelled
  obtain ⟨held, object⟩ : ∃ held, receipt.value = .object held := by
    rw [Document.value?] at denotes
    obtain ⟨read, -, same⟩ := Option.map_eq_some_iff.1 denotes
    exact ⟨_, same.symm⟩
  rw [object] at denotes ⊢
  exact Document.find?_of_value? denotes name

/-- Every member of a receipt has a value. -/
theorem exists_value?_of_isLast (reads : ofText? text = some receipt)
    (spelled : Document.ofText? text = some (.object members))
    (last : Document.IsLast members name document) :
    ∃ value, document.value? (maxDepth - 1) = some value := by
  have denotes := value?_of_ofText? reads spelled
  rw [Document.value?] at denotes
  obtain ⟨read, listed, -⟩ := Option.map_eq_some_iff.1 denotes
  obtain ⟨before, literal, after, rfl, -, -⟩ := last
  exact Document.forall_of_memberValues? listed (literal, document)
    (List.mem_append_right _ List.mem_cons_self)

/-- What the members hold under a name is the field of the receipt. -/
theorem field?_of_holds (reads : ofText? text = some receipt)
    (spelled : Document.ofText? text = some (.object members)) {found : Option Value}
    (holds : Holds members name found) : receipt.field? name = found := by
  have looked := member?_eq reads spelled name
  rw [field?, looked]
  cases holds with
  | absent unnamed =>
    rw [Document.find?_reverse_eq_none_iff.2 unnamed]
    rfl
  | null last denotes =>
    obtain ⟨literal, first⟩ := Document.isLast_iff.1 last
    rw [first, Option.bind_some, denotes]
  | @value document value last denotes solid =>
    obtain ⟨literal, first⟩ := Document.isLast_iff.1 last
    rw [first, Option.bind_some, denotes]
    split
    · rename_i null
      exact absurd (Option.some.inj null) solid
    · rfl

/-- The members of a receipt hold something or nothing under every name. -/
theorem exists_holds (reads : ofText? text = some receipt)
    (spelled : Document.ofText? text = some (.object members)) (name : String) :
    ∃ found, Holds members name found := by
  cases first : members.reverse.find? (isNamed name) with
  | none => exact ⟨none, .absent (Document.find?_reverse_eq_none_iff.1 first)⟩
  | some member =>
    have last : Document.IsLast members name member.2 := Document.isLast_iff.2 ⟨member.1, first⟩
    obtain ⟨value, denotes⟩ := exists_value?_of_isLast reads spelled last
    by_cases null : value = .null
    · exact ⟨none, .null last (null ▸ denotes)⟩
    · exact ⟨some value, .value last denotes null⟩

/-- A field of a receipt is what the members hold under its name. -/
theorem field?_eq_iff (reads : ofText? text = some receipt)
    (spelled : Document.ofText? text = some (.object members)) {found : Option Value} :
    receipt.field? name = found ↔ Holds members name found := by
  constructor
  · rintro rfl
    obtain ⟨found, holds⟩ := exists_holds reads spelled name
    rwa [field?_of_holds reads spelled holds]
  · exact field?_of_holds reads spelled

/-- A receipt is one of success if its status is that string. -/
theorem isSuccess_iff_field? :
    receipt.isSuccess = true ↔ receipt.field? "status" = some (.string "0x1") := by
  rw [isSuccess, decide_eq_true_iff, Option.bind_eq_some_iff]
  simp only [Value.text?_eq_some_iff, exists_eq_right]
  rfl

/-- A receipt is one of success if the last status among its members is that string. -/
theorem isSuccess_iff_isLast (reads : ofText? text = some receipt)
    (spelled : Document.ofText? text = some (.object members)) :
    receipt.isSuccess = true ↔
      ∃ document, Document.IsLast members "status" document ∧ document.text? = some "0x1" := by
  rw [isSuccess_iff_field?, field?_eq_iff reads spelled]
  constructor
  · rintro (_ | _ | ⟨last, denotes, -⟩)
    exact ⟨_, last, Document.text?_eq_some_iff.2 denotes⟩
  · rintro ⟨document, last, read⟩
    exact .value last (Document.text?_eq_some_iff.1 read) nofun

/-- A receipt with its members in another order, which is the same among those of each name, is the
same receipt. -/
theorem ofText?_of_perm (reads : ofText? text = some receipt)
    (spelled : Document.ofText? text = some (.object members)) {other : String}
    {others : List (StringLiteral × Document)}
    (also : Document.ofText? other = some (.object others)) (reordered : members.Perm others)
    (same : ∀ name, members.filter (isNamed name) = others.filter (isNamed name)) :
    ofText? other = some receipt := by
  have denotes := Document.value?_of_perm (value?_of_ofText? reads spelled) reordered same
  rw [ofText?, Value.ofText?, also, Option.bind_some, denotes]
  rfl

/-- A record that is no object has no fields. -/
theorem field?_of_ne_object (other : ∀ members, receipt.value ≠ .object members) (name : String) :
    receipt.field? name = none := by
  have missing : receipt.value.member? name = none := by
    unfold Value.member?
    split
    · rename_i members object
      exact absurd object (other members)
    · rfl
  rw [field?, missing]

/-- A receipt that is an object is read from the members of its text: under each name it has what
the last member of that name holds, and nothing if that is `null` or there is none. It reports
success exactly if the last status is the string that says so, and the order of members does not
matter but for that among members with one name. A receipt that is no object has no fields and
reports no success. -/
theorem fields_of_last_members :
    (∀ (text : String) (receipt : Receipt) (held : List (String × Value)),
      ofText? text = some receipt → receipt.value = .object held →
        ∃ members, Document.ofText? text = some (.object members) ∧
          (∀ name found, receipt.field? name = found ↔ Holds members name found) ∧
          (receipt.isSuccess = true ↔
            ∃ document, Document.IsLast members "status" document ∧ document.text? = some "0x1") ∧
          ∀ (other : String) (others : List (StringLiteral × Document)),
            Document.ofText? other = some (.object others) → members.Perm others →
            (∀ name, members.filter (isNamed name) = others.filter (isNamed name)) →
              ofText? other = some receipt) ∧
      ∀ receipt : Receipt, (∀ members, receipt.value ≠ .object members) →
        (∀ name, receipt.field? name = none) ∧ receipt.isSuccess = false := by
  constructor
  · intro text receipt held reads object
    obtain ⟨document, spelled⟩ := exists_document_of_ofText? reads
    have denotes := value?_of_ofText? reads spelled
    rw [object] at denotes
    obtain ⟨members, rfl⟩ := Document.exists_object_of_value? denotes
    refine ⟨members, spelled, fun name found => field?_eq_iff reads spelled,
      isSuccess_iff_isLast reads spelled, ?_⟩
    intro other others also reordered same
    exact ofText?_of_perm reads spelled also reordered same
  · intro receipt other
    refine ⟨field?_of_ne_object other, eq_false_of_ne_true fun success => ?_⟩
    rw [isSuccess_iff_field?, field?_of_ne_object other] at success
    exact nomatch success

/-- Of two statuses, of which an escape spells the last, that one counts, wherever other members
stand. -/
theorem fields_of_last_members_duplicate :
    let text := "\x7b\"status\":\"0x0\",\"logs\":[],\"st\\u0061tus\":\"0x1\"\x7d"
    let other := "\x7b\"logs\":[],\"status\":\"0x0\",\"st\\u0061tus\":\"0x1\"\x7d"
    let listed : Receipt := ⟨.array [.string "status", .string "0x1"]⟩
    (∃ receipt, ofText? text = some receipt ∧ ofText? other = some receipt ∧
      receipt.isSuccess = true ∧ receipt.field? "logs" = some (.array [])) ∧
      listed.field? "status" = none ∧ listed.isSuccess = false := by
  intro text other listed
  let early : StringLiteral × Document := (.ofText "status", .scalar (.string (.ofText "0x0")))
  let logs : StringLiteral × Document := (.ofText "logs", .array [])
  let late : StringLiteral × Document :=
    ([.char 's', .char 't', .unit 0x61, .char 't', .char 'u', .char 's'],
      .scalar (.string (.ofText "0x1")))
  have early_named : early.1.text? = some "status" := StringLiteral.text?_ofText "status"
  have logs_named : logs.1.text? = some "logs" := StringLiteral.text?_ofText "logs"
  have late_named : late.1.text? = some "status" := rfl
  have spelled : Document.ofText? text = some (.object [early, logs, late]) := by
    simp only [text]
    rfl
  have also : Document.ofText? other = some (.object [logs, early, late]) := by
    simp only [other]
    rfl
  let held := Members.ofList
    [("status", .string "0x0"), ("logs", .array []), ("status", .string "0x1")]
  have denotes : (Document.object [early, logs, late]).value? maxDepth = some (.object held) := rfl
  have reads : ofText? text = some ⟨.object held⟩ := by
    rw [ofText?, Value.ofText?, spelled, Option.bind_some, denotes]
    rfl
  have unlike : ∀ members, listed.value ≠ .object members := by
    intro members same
    cases same
  obtain ⟨members, alone, fields, success, reordered⟩ :=
    fields_of_last_members.1 text ⟨.object held⟩ held reads rfl
  have nothing := fields_of_last_members.2 listed unlike
  obtain rfl : members = [early, logs, late] :=
    Document.object.inj (Option.some.inj (alone.symm.trans spelled))
  refine ⟨⟨_, reads, ?_, ?_, ?_⟩, nothing.1 "status", nothing.2⟩
  · refine reordered other _ also (List.Perm.swap logs early [late]) fun name => ?_
    simp only [List.filter_cons, isNamed, early_named, logs_named, beq_iff_eq, Option.some_inj]
    split
    · rename_i status
      subst status
      rfl
    · rfl
  · have last : Document.IsLast [early, logs, late] "status" late.2 :=
      ⟨[early, logs], late.1, [], rfl, late_named, fun _ later => absurd later List.not_mem_nil⟩
    exact success.2 ⟨late.2, last, StringLiteral.text?_ofText "0x1"⟩
  · have last : Document.IsLast [early, logs, late] "logs" logs.2 := by
      refine ⟨[early], logs.1, [late], rfl, logs_named, fun member later => ?_⟩
      obtain rfl := List.mem_singleton.1 later
      rw [late_named]
      decide
    refine (fields "logs" _).2 (.value last rfl ?_)
    intro null
    cases null

end Receipt

end Courier
