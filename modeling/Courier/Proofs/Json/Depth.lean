import Courier.Json.Reader
import Courier.Proofs.Json.Assembly

/-!
# How deep documents nest

The depth of a document is the number of containers around its innermost part (`Document.depth`). A
reader gives a document a value only if it has room for its depth (`Document.depth_le_of_value?`),
and any reader that has room gives it the same one (`Document.value?_of_depth_le`).
-/
namespace Courier.Json.Document

mutual

/-- The number of containers around the innermost part of a document, itself included. -/
def depth : Document → Nat
  | .scalar _ => 0
  | .array items => itemsDepth items + 1
  | .object members => membersDepth members + 1

/-- The greatest depth among documents. -/
def itemsDepth : List Document → Nat
  | [] => 0
  | item :: rest => max (depth item) (itemsDepth rest)

/-- The greatest depth among the documents of members. -/
def membersDepth : List (StringLiteral × Document) → Nat
  | [] => 0
  | (_, document) :: rest => max (depth document) (membersDepth rest)

end

/-- A bound on the depth of items is one on each. -/
theorem itemsDepth_le_iff {items : List Document} {room : Nat} :
    itemsDepth items ≤ room ↔ ∀ item ∈ items, item.depth ≤ room := by
  induction items with
  | nil => simp only [itemsDepth, Nat.zero_le, List.not_mem_nil, false_implies, implies_true]
  | cons item items ih => rw [itemsDepth, Nat.max_le, ih, List.forall_mem_cons]

/-- A bound on the depth of members is one on each. -/
theorem membersDepth_le_iff {members : List (StringLiteral × Document)} {room : Nat} :
    membersDepth members ≤ room ↔ ∀ member ∈ members, member.2.depth ≤ room := by
  induction members with
  | nil => simp only [membersDepth, Nat.zero_le, List.not_mem_nil, false_implies, implies_true]
  | cons member members ih => rw [membersDepth, Nat.max_le, ih, List.forall_mem_cons]

/-- Where items have values each of them has one. -/
theorem forall_of_itemValues? {room : Nat} {items : List Document} {values : List Value}
    (denote : itemValues? room items = some values) :
    ∀ item ∈ items, ∃ value, item.value? room = some value := by
  induction items generalizing values with
  | nil => exact fun _ listed => absurd listed List.not_mem_nil
  | cons item items ih =>
    obtain ⟨value, first, denote⟩ := Option.bind_eq_some_iff.1 denote
    obtain ⟨rest, others, -⟩ := Option.bind_eq_some_iff.1 denote
    exact List.forall_mem_cons.2 ⟨⟨value, first⟩, ih others⟩

/-- Where members have values the document of each has one. -/
theorem forall_of_memberValues? {room : Nat} {members : List (StringLiteral × Document)}
    {values : List (String × Value)} (denote : memberValues? room members = some values) :
    ∀ member ∈ members, ∃ value, member.2.value? room = some value := by
  induction members generalizing values with
  | nil => exact fun _ listed => absurd listed List.not_mem_nil
  | cons member members ih =>
    obtain ⟨name, -, denote⟩ := Option.bind_eq_some_iff.1 denote
    obtain ⟨value, first, denote⟩ := Option.bind_eq_some_iff.1 denote
    obtain ⟨rest, others, -⟩ := Option.bind_eq_some_iff.1 denote
    exact List.forall_mem_cons.2 ⟨⟨value, first⟩, ih others⟩

/-- Items that have the same values one by one have the same values together. -/
theorem itemValues?_congr {room more : Nat} {items : List Document}
    (same : ∀ item ∈ items, item.value? room = item.value? more) :
    itemValues? room items = itemValues? more items := by
  induction items with
  | nil => rfl
  | cons item items ih =>
    obtain ⟨first, others⟩ := List.forall_mem_cons.1 same
    rw [itemValues?, itemValues?, first, ih others]

/-- Members whose values are the same one by one have the same values together. -/
theorem memberValues?_congr {room more : Nat} {members : List (StringLiteral × Document)}
    (same : ∀ member ∈ members, member.2.value? room = member.2.value? more) :
    memberValues? room members = memberValues? more members := by
  induction members with
  | nil => rfl
  | cons member members ih =>
    obtain ⟨first, others⟩ := List.forall_mem_cons.1 same
    obtain ⟨name, document⟩ := member
    rw [memberValues?, memberValues?, first, ih others]

/-- A document that has a value is no deeper than there is room for. -/
theorem depth_le_of_value? {document : Document} {room : Nat} {value : Value}
    (denotes : document.value? room = some value) : document.depth ≤ room := by
  induction document using induction generalizing room value with
  | scalar s => exact Nat.zero_le room
  | array items ih =>
    rw [value?] at denotes
    split at denotes
    · exact nomatch denotes
    · rename_i deep
      obtain ⟨values, denote, -⟩ := Option.map_eq_some_iff.1 denotes
      have fits : itemsDepth items ≤ room - 1 := by
        rw [itemsDepth_le_iff]
        intro item listed
        obtain ⟨value, denotes⟩ := forall_of_itemValues? denote item listed
        exact ih item listed denotes
      rw [depth]
      omega
  | object members ih =>
    rw [value?] at denotes
    split at denotes
    · exact nomatch denotes
    · rename_i deep
      obtain ⟨values, denote, -⟩ := Option.map_eq_some_iff.1 denotes
      have fits : membersDepth members ≤ room - 1 := by
        rw [membersDepth_le_iff]
        intro member listed
        obtain ⟨value, denotes⟩ := forall_of_memberValues? denote member listed
        exact ih member listed denotes
      rw [depth]
      omega

/-- A document that is deeper than the room has no value. -/
theorem value?_eq_none_of_lt_depth {document : Document} {room : Nat}
    (deep : room < document.depth) : document.value? room = none := by
  rw [Option.eq_none_iff_forall_ne_some]
  intro value denotes
  exact absurd (depth_le_of_value? denotes) (Nat.not_le.2 deep)

/-- Where there is room for a document its value does not depend on how much. -/
theorem value?_of_depth_le {document : Document} {room more : Nat} (fits : document.depth ≤ room)
    (also : document.depth ≤ more) : document.value? room = document.value? more := by
  induction document using induction generalizing room more with
  | scalar s => cases s <;> rfl
  | array items ih =>
    rw [depth] at fits also
    -- The array takes up one container of either room.
    have each := itemsDepth_le_iff.1 (Nat.le_sub_one_of_lt fits)
    have eachAlso := itemsDepth_le_iff.1 (Nat.le_sub_one_of_lt also)
    have same : itemValues? (room - 1) items = itemValues? (more - 1) items :=
      itemValues?_congr fun item listed => ih item listed (each item listed) (eachAlso item listed)
    rw [value?, value?, if_neg (by omega), if_neg (by omega), same]
  | object members ih =>
    rw [depth] at fits also
    have each := membersDepth_le_iff.1 (Nat.le_sub_one_of_lt fits)
    have eachAlso := membersDepth_le_iff.1 (Nat.le_sub_one_of_lt also)
    have same : memberValues? (room - 1) members = memberValues? (more - 1) members :=
      memberValues?_congr fun member listed =>
        ih member listed (each member listed) (eachAlso member listed)
    rw [value?, value?, if_neg (by omega), if_neg (by omega), same]

end Courier.Json.Document
