import Courier.Json.Reader
import Courier.Proofs.Json.Spelling
import Courier.Rpc.Request

/-!
# Printed values are read back

A canonical value (`Value.Canonical`) holds whole numbers that fit, lists the members of objects in
ascending order of names and nests only so deep. Reading its text gives it back
(`Value.ofText?_text`). The members of a request stand in an order of their own, so its text
denotes an object with the same members in ascending order (`Rpc.Request.ofText?_text`).
-/
namespace Courier

namespace Json

namespace Members

/-- A member whose name lies above all others is put at the end. -/
theorem insert_last {name : String} (value : Value) {members : List (String × Value)}
    (above : ∀ member ∈ members, member.1 < name) :
    insert name value members = members ++ [(name, value)] := by
  induction members with
  | nil => rfl
  | cons member members ih =>
    obtain ⟨other, old⟩ := member
    have below : other < name := above (other, old) List.mem_cons_self
    have notLess : ¬name < other := fun less => String.lt_irrefl _ (String.lt_trans less below)
    have different : name ≠ other := by
      rintro rfl
      exact String.lt_irrefl _ below
    rw [insert, if_neg notLess, if_neg different,
      ih fun member listed => above member (List.mem_cons_of_mem _ listed)]
    rfl

/-- Members in ascending order are built as they stand. -/
theorem ofList_of_ascending {members : List (String × Value)} (ascending : Ascending members) :
    ofList members = members := by
  suffices ∀ built, Ascending (built ++ members) →
      members.foldl (fun built member => insert member.1 member.2 built) built =
        built ++ members from
    this [] ascending
  clear ascending
  induction members with
  | nil => exact fun built _ => (List.append_nil built).symm
  | cons member members ih =>
    intro built ascending
    have above := (List.pairwise_append.1 ascending).2.2
    rw [List.foldl_cons,
      insert_last member.2 fun earlier listed => above earlier listed member List.mem_cons_self,
      ih _ (by rwa [List.append_assoc]), List.append_assoc]
    rfl

end Members

namespace Value

/-- A value that its text gives back: numbers are whole and fit, the names of an object ascend,
and at most `room` containers nest. -/
inductive Canonical : Nat → Value → Prop where
  /-- The absent value. -/
  | null {room : Nat} : Canonical room .null
  /-- A truth value. -/
  | bool {room : Nat} (b : Bool) : Canonical room (.bool b)
  /-- A whole number between `-2 ^ 63` and `2 ^ 64`. -/
  | integer {room : Nat} {n : Int} (low : -(NumberLiteral.signBound : Int) ≤ n)
    (high : n < UInt64.size) : Canonical room (.integer n)
  /-- A text. -/
  | string {room : Nat} (s : String) : Canonical room (.string s)
  /-- Values with room for one container less. -/
  | array {room : Nat} {items : List Value} (canonical : ∀ item ∈ items, Canonical room item) :
    Canonical (room + 1) (.array items)
  /-- Members in ascending order whose values have room for one container less. -/
  | object {room : Nat} {members : List (String × Value)} (ascending : Members.Ascending members)
    (canonical : ∀ member ∈ members, Canonical room member.2) :
    Canonical (room + 1) (.object members)

/-- An object of one member is canonical if the value of the member is. -/
theorem Canonical.single {room : Nat} {name : String} {value : Value}
    (canonical : Canonical room value) : Canonical (room + 1) (.object [(name, value)]) := by
  refine .object (List.pairwise_singleton _ _) fun member listed => ?_
  obtain rfl := List.mem_singleton.1 listed
  exact canonical

/-- Canonical values are legible. -/
theorem Canonical.legible {room : Nat} {value : Value} (canonical : Canonical room value) :
    value.Legible := by
  induction canonical with
  | null => exact legible_word rfl rfl (by decide) rfl
  | bool b => cases b <;> exact legible_word rfl rfl (by decide) rfl
  | integer low high => exact legible_integer _
  | string s => exact legible_string s
  | array _ ih => exact legible_array ih
  | object _ _ ih => exact legible_object ih

/-- Trees that denote their values one by one denote the list of them. -/
theorem itemValues?_itemDocuments {room : Nat} {items : List Value}
    (denoted : ∀ item ∈ items, item.document.value? room = some item) :
    Document.itemValues? room (itemDocuments items) = some items := by
  induction items with
  | nil => rfl
  | cons item items ih =>
    rw [itemDocuments, Document.itemValues?, denoted item List.mem_cons_self,
      ih fun other listed => denoted other (List.mem_cons_of_mem _ listed)]
    rfl

/-- Trees that denote the values of members one by one denote the list of members. -/
theorem memberValues?_memberDocuments {room : Nat} {members : List (String × Value)}
    (denoted : ∀ member ∈ members, member.2.document.value? room = some member.2) :
    Document.memberValues? room (memberDocuments members) = some members := by
  induction members with
  | nil => rfl
  | cons member members ih =>
    obtain ⟨name, value⟩ := member
    rw [memberDocuments, Document.memberValues?, StringLiteral.text?_ofText,
      denoted (name, value) List.mem_cons_self,
      ih fun other listed => denoted other (List.mem_cons_of_mem _ listed)]
    rfl

/-- The tree of a canonical value denotes that value. -/
theorem Canonical.value?_document {room : Nat} {value : Value}
    (canonical : Canonical room value) : value.document.value? room = some value := by
  induction canonical with
  | null => rfl
  | bool b => rfl
  | integer low high =>
    simp only [document, Document.value?, NumberLiteral.value?,
      NumberLiteral.integer?_ofInt low high]
  | string s =>
    simp only [document, Document.value?, StringLiteral.text?_ofText, Option.map_some]
  | array _ ih =>
    simp only [document, Document.value?, Nat.add_eq_zero_iff, Nat.one_ne_zero, and_false,
      ↓reduceIte, Nat.add_sub_cancel, itemValues?_itemDocuments ih, Option.map_some]
  | object ascending _ ih =>
    simp only [document, Document.value?, Nat.add_eq_zero_iff, Nat.one_ne_zero, and_false,
      ↓reduceIte, Nat.add_sub_cancel, memberValues?_memberDocuments ih, Option.map_some,
      Members.ofList_of_ascending ascending]

/-- A canonical value is read back from its text. -/
theorem ofText?_text {value : Value} (canonical : Canonical maxDepth value) :
    ofText? value.text = some value := by
  rw [ofText?, ofText?_of_legible canonical.legible, Option.bind_some, canonical.value?_document]

/-- The text of an object whose values are canonical denotes the object with its members put in
order. -/
theorem ofText?_text_object {members : List (String × Value)}
    (canonical : ∀ member ∈ members, Canonical (maxDepth - 1) member.2) :
    ofText? (Value.object members).text = some (.object (Members.ofList members)) := by
  have legible : (Value.object members).Legible :=
    legible_object fun member listed => (canonical member listed).legible
  have denoted := memberValues?_memberDocuments fun member listed =>
    (canonical member listed).value?_document
  rw [ofText?, ofText?_of_legible legible, Option.bind_some, document, Document.value?,
    if_neg (by decide), denoted, Option.map_some]

end Value

end Json

namespace Rpc.Request

open Json (Value)

/-- The object that the text of a request denotes. -/
def decoded (method : String) (params : Value) : Value :=
  .object [("id", .integer number), ("jsonrpc", .string version), ("method", .string method),
    ("params", params)]

/-- A request with canonical parameters is read back from its text. -/
theorem ofText?_text (request : Request)
    (canonical : Value.Canonical (Json.maxDepth - 1) request.params) :
    Value.ofText? request.text = some (decoded request.method request.params) := by
  have values : ∀ member ∈ [("jsonrpc", Value.string version), ("method", .string request.method),
      ("params", request.params), ("id", .integer number)],
      Value.Canonical (Json.maxDepth - 1) member.2 := by
    simp only [List.forall_mem_cons, List.not_mem_nil, false_implies, implies_true, and_true]
    exact ⟨.string _, .string _, canonical, .integer (by decide) (by decide)⟩
  rw [text, json, Value.ofText?_text_object values]
  simp (disch := decide) only [decoded, Json.Members.ofList, List.foldl_cons, List.foldl_nil,
    Json.Members.insert, if_pos, if_neg]

end Rpc.Request

end Courier
