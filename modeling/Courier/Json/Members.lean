import Courier.Json.Value

/-!
# Members of objects

A reader builds the members of an object one by one: names stand in ascending order
(`ascending_ofList`) and the last of several members with one name wins (`find?_insert`).
-/
namespace Courier.Json

namespace Members

/-- A member put at its place among members in ascending order of names, where it replaces one
of the same name. -/
def insert (name : String) (value : Value) : List (String × Value) → List (String × Value)
  | [] => [(name, value)]
  | (other, old) :: rest =>
    if name < other then (name, value) :: (other, old) :: rest
    else if name = other then (name, value) :: rest
    else (other, old) :: insert name value rest

/-- The members that a list of members builds, the later of two with one name winning. -/
def ofList (members : List (String × Value)) : List (String × Value) :=
  members.foldl (fun built member => insert member.1 member.2 built) []

/-- The value of the first member with a name. -/
def find? (name : String) : List (String × Value) → Option Value
  | [] => none
  | (other, value) :: rest => if name = other then some value else find? name rest

/-- Whether names stand in strictly ascending order. -/
def Ascending (members : List (String × Value)) : Prop :=
  members.Pairwise fun earlier later => earlier.1 < later.1

/-- The member put in is found under its name, and the others as before. -/
theorem find?_insert (name other : String) (value : Value) (members : List (String × Value)) :
    find? name (insert other value members) =
      if name = other then some value else find? name members := by
  induction members with
  | nil => simp only [insert, find?]
  | cons member rest ih =>
    obtain ⟨present, old⟩ := member
    simp only [insert]
    split
    · simp only [find?]
    · split
      · rename_i same
        subst same
        simp only [find?]
        split <;> rfl
      · simp only [find?, ih]
        grind

/-- Only the member put in is new. -/
theorem mem_insert {member : String × Value} {name : String} {value : Value}
    {members : List (String × Value)} (found : member ∈ insert name value members) :
    member = (name, value) ∨ member ∈ members := by
  induction members with
  | nil => simpa [insert] using found
  | cons first rest ih =>
    simp only [insert] at found
    grind

/-- Putting a member in keeps the order. -/
theorem ascending_insert (name : String) (value : Value) {members : List (String × Value)}
    (ascending : Ascending members) : Ascending (insert name value members) := by
  induction members with
  | nil => exact List.pairwise_singleton _ _
  | cons first rest ih =>
    obtain ⟨other, old⟩ := first
    have ⟨below, later⟩ := List.pairwise_cons.1 ascending
    simp only [insert]
    split
    · rename_i less
      refine List.pairwise_cons.2 ⟨fun member found => ?_, ascending⟩
      rcases List.mem_cons.1 found with rfl | found
      · exact less
      · exact String.lt_trans less (below member found)
    · split
      · rename_i same
        subst same
        exact List.pairwise_cons.2 ⟨below, later⟩
      · rename_i notLess different
        refine List.pairwise_cons.2 ⟨fun member found => ?_, ih later⟩
        rcases mem_insert found with rfl | found
        · exact Std.lt_of_le_of_ne (String.not_lt.1 notLess) (Ne.symm different)
        · exact below member found

/-- Members built from a list stand in ascending order. -/
theorem ascending_ofList (members : List (String × Value)) : Ascending (ofList members) := by
  suffices ∀ built, Ascending built →
      Ascending (members.foldl (fun built member => insert member.1 member.2 built) built) from
    this [] List.Pairwise.nil
  induction members with
  | nil => exact fun _ ascending => ascending
  | cons member rest ih => exact fun built ascending => ih _ (ascending_insert _ _ ascending)

end Members

/-- The member of an object with a name; values of other kinds have none. -/
def Value.member? (name : String) : Value → Option Value
  | .object members => Members.find? name members
  | _ => none

end Courier.Json
