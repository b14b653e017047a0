import Courier.Proofs.Json.Depth
import Courier.Proofs.Json.RoundTrip
import Courier.Receipt

/-!
# How deep values nest

The depth of a value is the number of containers around its innermost part (`Value.depth`). A plain
value (`Value.Plain`) holds whole numbers that fit and lists the members of objects in ascending
order of names. It is read back from its text if it is no deeper than the reader has room for, and
refused otherwise (`Value.ofText?_text_of_plain`). A receipt is its value, so its limit is that of
the reader; a request puts its parameters into an object, so theirs is lower by one
(`Rpc.Request.ofText?_text_of_plain`).
-/
namespace Courier

namespace Json

namespace Value

mutual

/-- The number of containers around the innermost part of a value, itself included. -/
def depth : Value → Nat
  | .null => 0
  | .bool _ => 0
  | .integer _ => 0
  | .real _ => 0
  | .string _ => 0
  | .array items => itemsDepth items + 1
  | .object members => membersDepth members + 1

/-- The greatest depth among values. -/
def itemsDepth : List Value → Nat
  | [] => 0
  | item :: rest => max (depth item) (itemsDepth rest)

/-- The greatest depth among the values of members. -/
def membersDepth : List (String × Value) → Nat
  | [] => 0
  | (_, value) :: rest => max (depth value) (membersDepth rest)

end

/-- A bound on the depth of items is one on each. -/
theorem itemsDepth_le_iff {items : List Value} {room : Nat} :
    itemsDepth items ≤ room ↔ ∀ item ∈ items, item.depth ≤ room := by
  induction items with
  | nil => simp only [itemsDepth, Nat.zero_le, List.not_mem_nil, false_implies, implies_true]
  | cons item items ih => rw [itemsDepth, Nat.max_le, ih, List.forall_mem_cons]

/-- A bound on the depth of members is one on each. -/
theorem membersDepth_le_iff {members : List (String × Value)} {room : Nat} :
    membersDepth members ≤ room ↔ ∀ member ∈ members, member.2.depth ≤ room := by
  induction members with
  | nil => simp only [membersDepth, Nat.zero_le, List.not_mem_nil, false_implies, implies_true]
  | cons member members ih => rw [membersDepth, Nat.max_le, ih, List.forall_mem_cons]

mutual

/-- The tree of the text of a value is as deep as the value. -/
theorem depth_document : ∀ value : Value, value.document.depth = value.depth
  | .null => rfl
  | .bool _ => rfl
  | .integer _ => rfl
  | .real _ => rfl
  | .string _ => rfl
  | .array items => by rw [document, Document.depth, depth, itemsDepth_itemDocuments items]
  | .object members => by rw [document, Document.depth, depth, membersDepth_memberDocuments members]

/-- The trees of the texts of items are as deep as the items. -/
theorem itemsDepth_itemDocuments : ∀ items : List Value,
    Document.itemsDepth (itemDocuments items) = itemsDepth items
  | [] => rfl
  | item :: rest => by
    rw [itemDocuments, Document.itemsDepth, itemsDepth, depth_document item,
      itemsDepth_itemDocuments rest]

/-- The trees of the texts of members are as deep as their values. -/
theorem membersDepth_memberDocuments : ∀ members : List (String × Value),
    Document.membersDepth (memberDocuments members) = membersDepth members
  | [] => rfl
  | (_, value) :: rest => by
    rw [memberDocuments, Document.membersDepth, membersDepth, depth_document value,
      membersDepth_memberDocuments rest]

end

/-- The tree of a value that is deeper than there is room for denotes none. -/
theorem value?_document_eq_none {value : Value} {room : Nat} (deep : room < value.depth) :
    value.document.value? room = none := by
  rw [← depth_document] at deep
  exact Document.value?_eq_none_of_lt_depth deep

/-- A value whose whole numbers fit, with names in ascending order in every object. No limit is set
to its depth. -/
inductive Plain : Value → Prop where
  /-- The absent value. -/
  | null : Plain .null
  /-- A truth value. -/
  | bool (b : Bool) : Plain (.bool b)
  /-- A whole number of 64 bits, with a sign or without one: none below `-2 ^ 63`, none from
  `2 ^ 64` on. -/
  | integer {n : Int} (low : -(NumberLiteral.signBound : Int) ≤ n) (high : n < UInt64.size) :
    Plain (.integer n)
  /-- A text. -/
  | string (s : String) : Plain (.string s)
  /-- Plain values in order. -/
  | array {items : List Value} (plain : ∀ item ∈ items, Plain item) : Plain (.array items)
  /-- Plain values under names in ascending order. -/
  | object {members : List (String × Value)} (ascending : Members.Ascending members)
    (plain : ∀ member ∈ members, Plain member.2) : Plain (.object members)

/-- A plain value is canonical where there is room for its depth. -/
theorem Plain.canonical {value : Value} (plain : value.Plain) {room : Nat}
    (fits : value.depth ≤ room) : Canonical room value := by
  induction plain generalizing room with
  | null => exact .null
  | bool b => exact .bool b
  | integer low high => exact .integer low high
  | string s => exact .string s
  | array plain ih =>
    rw [depth] at fits
    obtain ⟨room, rfl⟩ := Nat.exists_eq_add_one.2 (Nat.zero_lt_of_lt fits)
    have each := itemsDepth_le_iff.1 (Nat.le_of_succ_le_succ fits)
    exact .array fun item listed => ih item listed (each item listed)
  | object ascending plain ih =>
    rw [depth] at fits
    obtain ⟨room, rfl⟩ := Nat.exists_eq_add_one.2 (Nat.zero_lt_of_lt fits)
    have each := membersDepth_le_iff.1 (Nat.le_of_succ_le_succ fits)
    exact .object ascending fun member listed => ih member listed (each member listed)

/-- The text of a plain value is read back exactly if the value is no deeper than the reader has
room for. -/
theorem ofText?_text_of_plain {value : Value} (plain : value.Plain) :
    ofText? value.text = if value.depth ≤ maxDepth then some value else none := by
  split
  · rename_i fits
    exact ofText?_text (plain.canonical fits)
  · rename_i deep
    have legible : value.Legible := (plain.canonical (Nat.le_refl _)).legible
    rw [ofText?, ofText?_of_legible legible, Option.bind_some]
    exact value?_document_eq_none (Nat.lt_of_not_le deep)

end Value

end Json

open Json (Value)

namespace Rpc.Request

/-- The text of a request with plain parameters is read back exactly if they leave room for the
object around them. -/
theorem ofText?_text_of_plain (request : Request) (plain : request.params.Plain) :
    Value.ofText? request.text =
      if request.params.depth ≤ Json.maxDepth - 1
      then some (decoded request.method request.params) else none := by
  split
  · rename_i fits
    exact request.ofText?_text (plain.canonical fits)
  · rename_i deep
    have legible : request.json.Legible := by
      apply Value.legible_object
      simp only [List.forall_mem_cons, List.not_mem_nil, false_implies, implies_true, and_true]
      exact ⟨Value.legible_string _, Value.legible_string _,
        (plain.canonical (Nat.le_refl _)).legible, Value.legible_integer _⟩
    have whole : request.json.depth = request.params.depth + 1 := by
      simp only [json, Value.depth, Value.membersDepth, Nat.max_zero, Nat.zero_max]
    have refused : request.json.document.value? Json.maxDepth = none :=
      Value.value?_document_eq_none (by omega)
    rw [Value.ofText?, text, Value.ofText?_of_legible legible, Option.bind_some, refused]

end Rpc.Request

/-- A plain value is read back from the text of a receipt if it nests at most 127 containers, and
then has that text again. From the text of a request with any method it is read back as the
parameters if it nests at most 126, next to the version, the method and the number, and nothing
else stands there. -/
theorem plain_read_back {value : Value} (plain : value.Plain) :
    (value.depth ≤ 127 →
      Receipt.ofText? (Receipt.mk value).text = some (Receipt.mk value) ∧
      (Receipt.ofText? (Receipt.mk value).text).map Receipt.text =
        some (Receipt.mk value).text) ∧
    (value.depth ≤ 126 → ∀ method : String,
      Value.ofText? (Rpc.Request.mk method value).text =
        some (.object [("id", .integer 1), ("jsonrpc", .string "2.0"),
          ("method", .string method), ("params", value)])) := by
  constructor
  · intro fits
    have read : Receipt.ofText? (Receipt.mk value).text = some (Receipt.mk value) := by
      have found := (Value.ofText?_text_of_plain plain).trans (if_pos fits)
      rw [Receipt.ofText?, Receipt.text, found, Option.map_some]
    exact ⟨read, by rw [read, Option.map_some]⟩
  · intro fits method
    have read := Rpc.Request.ofText?_text_of_plain ⟨method, value⟩ plain
    exact read.trans (if_pos fits)

/-- A value three deep, with both ends of the range of whole numbers, with an empty name, and with
characters that are escaped. -/
theorem plain_read_back_three_deep :
    let members := [("", Value.null), ("\x01\"\\", .integer (-9223372036854775808)),
      ("\u00E9", .array [])]
    let value := Value.array
      [.object members, .integer 18446744073709551615, .string "\n/\x00\x7F"]
    value.Plain ∧ value.depth = 3 ∧
      Receipt.ofText? (Receipt.mk value).text = some (Receipt.mk value) ∧
      Value.ofText? (Rpc.Request.mk "\"" value).text =
        some (.object [("id", .integer 1), ("jsonrpc", .string "2.0"),
          ("method", .string "\""), ("params", value)]) := by
  intro members value
  have ascending : Json.Members.Ascending members := by
    simp only [members, Json.Members.Ascending, List.pairwise_cons, List.forall_mem_cons,
      List.not_mem_nil, false_implies, implies_true, and_true, List.Pairwise.nil]
    decide
  have object : (Value.object members).Plain := by
    apply Value.Plain.object ascending
    simp only [members, List.forall_mem_cons, List.not_mem_nil, false_implies, implies_true,
      and_true]
    exact ⟨.null, .integer (by decide) (by decide), .array (by simp)⟩
  have plain : value.Plain := by
    apply Value.Plain.array
    simp only [List.forall_mem_cons, List.not_mem_nil, false_implies, implies_true, and_true]
    exact ⟨object, .integer (by decide) (by decide), .string _⟩
  have deep : value.depth = 3 := rfl
  obtain ⟨asReceipt, asParams⟩ := plain_read_back plain
  exact ⟨plain, deep, (asReceipt (by omega)).1, asParams (by omega) "\""⟩

end Courier
