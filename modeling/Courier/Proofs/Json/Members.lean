import Mathlib.Data.List.Induction
import Courier.Proofs.Json.Record

/-!
# Members that a reader keeps

A reader turns the members of an object, as they are spelled, into members in ascending order of
names. Of members with one name it keeps the last (`Document.find?_of_value?`), which is the first
one from the end (`Document.isLast_iff`). Of the order of members with different names it keeps
nothing (`Document.value?_of_perm`).
-/
namespace Courier.Json

namespace Members

variable {members others : List (String × Value)}

/-- What is found is the value of the first member with the name. -/
theorem find?_eq_map_find? (name : String) (members : List (String × Value)) :
    find? name members = (members.find? (name = ·.1)).map (·.2) := by
  induction members with
  | nil => rfl
  | cons member rest ih =>
    rw [find?, List.find?_cons, ih]
    by_cases same : name = member.1 <;> simp [same]

/-- Of the members put in, the last with a name is found. -/
theorem find?_ofList (name : String) (members : List (String × Value)) :
    find? name (ofList members) = find? name members.reverse := by
  induction members using List.reverseRecOn with
  | nil => rfl
  | append_singleton earlier member ih =>
    have last : ofList (earlier ++ [member]) = insert member.1 member.2 (ofList earlier) :=
      List.foldl_append
    rw [last, find?_insert, ih, List.reverse_append, List.reverse_singleton,
      List.singleton_append, find?]

/-- A name below those of all members is not found. -/
theorem find?_eq_none_of_lt {name : String} (below : ∀ member ∈ members, name < member.1) :
    find? name members = none := by
  rw [find?_eq_map_find?, Option.map_eq_none_iff, List.find?_eq_none]
  intro member listed same
  have same : name = member.1 := of_decide_eq_true same
  exact String.lt_irrefl name (same ▸ below member listed)

/-- What is found among members in ascending order is not below the first. -/
theorem Ascending.not_lt_of_find? {first : String × Value} {name : String} {value : Value}
    (ascending : Ascending (first :: members))
    (found : find? name (first :: members) = some value) : ¬name < first.1 := by
  intro less
  have below : ∀ member ∈ first :: members, name < member.1 :=
    List.forall_mem_cons.2 ⟨less, fun member listed =>
      String.lt_trans less ((List.pairwise_cons.1 ascending).1 member listed)⟩
  rw [find?_eq_none_of_lt below] at found
  exact nomatch found

/-- Members in ascending order are settled by what is found among them. -/
theorem Ascending.ext (ascending : Ascending members) (also : Ascending others)
    (same : ∀ name, find? name members = find? name others) : members = others := by
  have head (member : String × Value) (rest : List (String × Value)) :
      find? member.1 (member :: rest) = some member.2 := if_pos rfl
  induction members generalizing others with
  | nil =>
    cases others with
    | nil => rfl
    | cons other later => exact nomatch (same other.1).trans (head other later)
  | cons member rest ih =>
    cases others with
    | nil => exact nomatch (same member.1).symm.trans (head member rest)
    | cons other later =>
      have left := (same member.1).symm.trans (head member rest)
      have right := (same other.1).trans (head other later)
      have names : member.1 = other.1 :=
        String.le_antisymm (String.not_lt.1 (ascending.not_lt_of_find? right))
          (String.not_lt.1 (also.not_lt_of_find? left))
      have values : member.2 = other.2 := by
        rw [names, head other later] at left
        exact (Option.some.inj left).symm
      have ⟨above, tail⟩ := List.pairwise_cons.1 ascending
      have ⟨alsoAbove, alsoTail⟩ := List.pairwise_cons.1 also
      have others : rest = later := by
        refine ih tail alsoTail fun name => ?_
        by_cases first : name = member.1
        · subst first
          rw [find?_eq_none_of_lt above, find?_eq_none_of_lt (names ▸ alsoAbove)]
        · have further := same name
          rwa [find?, find?, if_neg first, if_neg (names ▸ first)] at further
      rw [Prod.ext names values, others]

/-- Members with the same order among those of each name come to the same. -/
theorem ofList_eq_of_filter_eq
    (same : ∀ name : String, members.filter (name = ·.1) = others.filter (name = ·.1)) :
    ofList members = ofList others := by
  refine (ascending_ofList members).ext (ascending_ofList others) fun name => ?_
  have kept (list : List (String × Value)) :
      list.reverse.find? (name = ·.1) = (list.filter (name = ·.1)).reverse.head? := by
    rw [← List.filter_reverse, List.head?_filter]
  rw [find?_ofList, find?_ofList, find?_eq_map_find?, find?_eq_map_find?, kept, kept, same]

end Members

namespace Document

open Record (isNamed)

variable {room : Nat} {members others : List (StringLiteral × Document)}

/-- A member as it is read: the text of its name and its value. -/
def memberValue? (room : Nat) (member : StringLiteral × Document) : Option (String × Value) := do
  some (← member.1.text?, ← member.2.value? room)

/-- A member is read if its name denotes a text and its document a value. -/
theorem memberValue?_eq_some_iff {member : StringLiteral × Document} {held : String × Value} :
    memberValue? room member = some held ↔
      member.1.text? = some held.1 ∧ member.2.value? room = some held.2 := by
  unfold memberValue?
  cases member.1.text? with
  | none => simp
  | some name =>
    cases member.2.value? room with
    | none => simp
    | some value => simp [Prod.ext_iff]

/-- Members are read one by one, and there must be something to read in each. -/
theorem memberValues?_eq_some_iff {read : List (String × Value)} :
    memberValues? room members = some read ↔
      (∀ member ∈ members, (memberValue? room member).isSome = true) ∧
        members.filterMap (memberValue? room) = read := by
  induction members generalizing read with
  | nil => simp [memberValues?]
  | cons member rest ih =>
    have first : memberValues? room (member :: rest) =
        (memberValue? room member).bind fun held => (memberValues? room rest).map (held :: ·) := by
      rw [memberValues?, memberValue?]
      cases member.1.text? <;> cases member.2.value? room <;>
        cases memberValues? room rest <;> rfl
    rw [first, List.forall_mem_cons]
    cases taken : memberValue? room member with
    | none => simp
    | some held =>
      rw [List.filterMap_cons_some taken, Option.bind_some, Option.map_eq_some_iff]
      simp only [ih, Option.isSome_some, true_and]
      constructor
      · rintro ⟨_, ⟨all, rfl⟩, rfl⟩
        exact ⟨all, rfl⟩
      · rintro ⟨all, rfl⟩
        exact ⟨_, ⟨all, rfl⟩, rfl⟩

/-- A member is read with the name that it is spelled with. -/
theorem isNamed_of_memberValue? {member : StringLiteral × Document} {held : String × Value}
    (taken : memberValue? room member = some held) (name : String) :
    isNamed name member = decide (name = held.1) := by
  rw [isNamed, (memberValue?_eq_some_iff.1 taken).1, Bool.eq_iff_iff, beq_iff_eq,
    decide_eq_true_iff, Option.some_inj]
  exact eq_comm

/-- The members read with a name are those that are spelled with it. -/
theorem filter_filterMap_memberValue? (room : Nat) (name : String)
    (members : List (StringLiteral × Document)) :
    (members.filterMap (memberValue? room)).filter (name = ·.1) =
      (members.filter (isNamed name)).filterMap (memberValue? room) := by
  rw [List.filter_filterMap, List.filterMap_filter]
  congr 1
  funext member
  cases taken : memberValue? room member with
  | none => simp
  | some held =>
    rw [isNamed_of_memberValue? taken, Option.filter_some]

/-- What is found among members that are read is what is read from the first that is found. -/
theorem find?_filterMap_memberValue? (name : String)
    (all : ∀ member ∈ members, (memberValue? room member).isSome = true) :
    Members.find? name (members.filterMap (memberValue? room)) =
      (members.find? (isNamed name)).bind fun member => member.2.value? room := by
  induction members with
  | nil => rfl
  | cons member rest ih =>
    obtain ⟨first, others⟩ := List.forall_mem_cons.1 all
    obtain ⟨held, taken⟩ := Option.isSome_iff_exists.1 first
    rw [List.filterMap_cons_some taken, Members.find?, List.find?_cons,
      isNamed_of_memberValue? taken]
    by_cases same : name = held.1
    · rw [if_pos same, decide_eq_true same]
      exact (memberValue?_eq_some_iff.1 taken).2.symm
    · rw [if_neg same, decide_eq_false same]
      exact ih others

/-- Among the members of a value the last one spelled with a name is found. -/
theorem find?_of_value? {held : List (String × Value)}
    (denotes : (Document.object members).value? room = some (.object held)) (name : String) :
    Members.find? name held =
      (members.reverse.find? (isNamed name)).bind fun member => member.2.value? (room - 1) := by
  rw [value?] at denotes
  split at denotes
  · exact nomatch denotes
  · obtain ⟨read, listed, same⟩ := Option.map_eq_some_iff.1 denotes
    obtain rfl := Value.object.inj same
    obtain ⟨all, rfl⟩ := memberValues?_eq_some_iff.1 listed
    rw [Members.find?_ofList, ← List.filterMap_reverse]
    exact find?_filterMap_memberValue? name fun member listed =>
      all member (List.mem_reverse.1 listed)

/-- Members in another order, which is the same among those of each name, make the same value. -/
theorem value?_of_perm {value : Value}
    (denotes : (Document.object members).value? room = some value)
    (reordered : members.Perm others)
    (same : ∀ name, members.filter (isNamed name) = others.filter (isNamed name)) :
    (Document.object others).value? room = some value := by
  rw [value?] at denotes ⊢
  split at denotes
  · exact nomatch denotes
  · rename_i room_left
    obtain ⟨read, listed, rfl⟩ := Option.map_eq_some_iff.1 denotes
    obtain ⟨all, rfl⟩ := memberValues?_eq_some_iff.1 listed
    have also := memberValues?_eq_some_iff.2
      ⟨fun member listed => all member (reordered.mem_iff.2 listed), rfl⟩
    rw [if_neg room_left, also, Option.map_some]
    congr 2
    refine Members.ofList_eq_of_filter_eq fun name => ?_
    rw [filter_filterMap_memberValue?, filter_filterMap_memberValue?, same]

/-- Whether a document is that of the last of the members with a name, as their literals denote
it. -/
def IsLast (members : List (StringLiteral × Document)) (name : String) (document : Document) :
    Prop :=
  ∃ before literal after, members = before ++ (literal, document) :: after ∧
    literal.text? = some name ∧ ∀ member ∈ after, member.1.text? ≠ some name

/-- The last member with a name is the first one from the end. -/
theorem isLast_iff {name : String} {document : Document} :
    IsLast members name document ↔
      ∃ literal, members.reverse.find? (isNamed name) = some (literal, document) := by
  simp only [List.find?_eq_some_iff_append, isNamed, beq_iff_eq, Bool.not_eq_eq_eq_not,
    Bool.not_true, beq_eq_false_iff_ne]
  constructor
  · rintro ⟨before, literal, after, rfl, named, others⟩
    refine ⟨literal, named, after.reverse, before.reverse, by simp, ?_⟩
    exact fun member listed => others member (List.mem_reverse.1 listed)
  · rintro ⟨literal, named, after, before, whole, others⟩
    refine ⟨before.reverse, literal, after.reverse, ?_, named, ?_⟩
    · rw [← List.reverse_reverse members, whole]
      simp
    · exact fun member listed => others member (List.mem_reverse.1 listed)

/-- A search from the end finds no member of a name exactly if no member has the name. -/
theorem find?_reverse_eq_none_iff {name : String} :
    members.reverse.find? (isNamed name) = none ↔
      ∀ member ∈ members, member.1.text? ≠ some name := by
  simp [isNamed]

end Document

end Courier.Json
