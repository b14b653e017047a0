import Courier.Json.Document
import Courier.Json.Members

/-!
# Reading values and records

`Document.value?` gives the value that a document denotes: every literal must denote something
and containers may nest only so deep. A record is a document with known fields: an object whose
members carry their names, or an array that lists the fields in order. Members of other names
are skipped, whatever they hold.
-/
namespace Courier.Json

/-- Containers that may nest on the way to a value that is read. -/
def maxDepth : Nat := 127

namespace Document

mutual

/-- The value that a document denotes, with room for so many nested containers. -/
def value? (room : Nat) : Document → Option Value
  | .scalar .null => some .null
  | .scalar (.bool b) => some (.bool b)
  | .scalar (.number l) => l.value?
  | .scalar (.string l) => l.text?.map .string
  | .array items => if room = 0 then none else (itemValues? (room - 1) items).map .array
  | .object members =>
    if room = 0 then none
    else (memberValues? (room - 1) members).map fun read => .object (Members.ofList read)

/-- The values that documents denote. -/
def itemValues? (room : Nat) : List Document → Option (List Value)
  | [] => some []
  | item :: rest => do some ((← value? room item) :: (← itemValues? room rest))

/-- The named values that members denote, in the order in which they stand. -/
def memberValues? (room : Nat) :
    List (StringLiteral × Document) → Option (List (String × Value))
  | [] => some []
  | (name, item) :: rest => do
    some ((← name.text?, ← value? room item) :: (← memberValues? room rest))

end

/-- The text that a document denotes, if it is a string. -/
def text? : Document → Option String
  | .scalar (.string l) => l.text?
  | _ => none

/-- The whole number between `-2 ^ 63` and `2 ^ 63` that a document denotes, if it is spelled as
one. -/
def int64? : Document → Option Int
  | .scalar (.number l) => l.integer?.filter fun n => n < NumberLiteral.signBound
  | _ => none

end Document

namespace Record

/-- The members of an object with the texts of their names; nothing if a name denotes none. -/
def named? : List (StringLiteral × Document) → Option (List (String × Document))
  | [] => some []
  | (name, document) :: rest => do some ((← name.text?, document) :: (← named? rest))

/-- The document of the first member with a name. -/
def find? (members : List (String × Document)) (field : String) : Option Document :=
  (members.find? fun member => member.1 == field).map (·.2)

/-- Whether at most one member has a name. -/
def atMostOnce (members : List (String × Document)) (field : String) : Bool :=
  (members.countP fun member => member.1 == field) ≤ 1

/-- The documents of a record's fields, by name. An object may not name a field twice, and an
array may not have more items than there are fields. -/
def fields? (fields : List String) : Document → Option (String → Option Document)
  | .scalar _ => none
  | .array items =>
    if items.length ≤ fields.length then
      some fun field => (fields.idxOf? field).bind fun place => items[place]?
    else none
  | .object members => do
    let members ← named? members
    if fields.all (atMostOnce members) then some (find? members) else none

/-- A field that may be missing or `null`. -/
def optional? {α : Type} (read : Document → Option α) : Option Document → Option (Option α)
  | none => some none
  | some (.scalar .null) => some none
  | some document => (read document).map some

end Record

/-- The value that a text denotes. -/
def Value.ofText? (text : String) : Option Value :=
  (Document.ofText? text).bind (Document.value? maxDepth)

end Courier.Json
