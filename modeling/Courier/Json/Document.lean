import Courier.Json.Token

/-!
# JSON documents

The tree of a well spelled JSON text: members in the order and number in which they stand, and
literals as they are spelled. Nothing is asked of what literals denote, of names or of depth, so
every text of the grammar has a document.

Tokens are put together by a machine that holds the containers part way through, the innermost
first; a complete value goes to the innermost one.
-/
namespace Courier.Json

/-- The tree of a JSON text. -/
inductive Document where
  /-- A value without parts. -/
  | scalar (s : Scalar)
  /-- Items in order. -/
  | array (items : List Document)
  /-- Members in order. -/
  | object (members : List (StringLiteral × Document))
  deriving Repr

namespace Document

/-- A container part way through, waiting for a value. Parts are held in reverse. -/
inductive Frame where
  /-- An array and the items before the one it waits for. -/
  | items (done : List Document)
  /-- An object, the members before the one it waits for, and that one's name. -/
  | members (done : List (StringLiteral × Document)) (name : StringLiteral)

/-- What the machine waits for. -/
inductive Progress where
  /-- A value. -/
  | value (stack : List Frame)
  /-- The first item of an array, or its end. -/
  | firstItem (stack : List Frame)
  /-- A comma or the end of an array with some items. -/
  | nextItem (done : List Document) (stack : List Frame)
  /-- The first name of an object, or its end. -/
  | firstName (stack : List Frame)
  /-- A name, after a comma. -/
  | name (done : List (StringLiteral × Document)) (stack : List Frame)
  /-- The colon after a name. -/
  | colon (done : List (StringLiteral × Document)) (name : StringLiteral) (stack : List Frame)
  /-- A comma or the end of an object with some members. -/
  | nextMember (done : List (StringLiteral × Document)) (stack : List Frame)
  /-- Nothing more. -/
  | finished (document : Document)

/-- The machine after a complete value. -/
def complete (document : Document) : List Frame → Progress
  | [] => .finished document
  | .items done :: stack => .nextItem (document :: done) stack
  | .members done name :: stack => .nextMember ((name, document) :: done) stack

/-- The machine waiting for a value, at a token. -/
def beginValue (stack : List Frame) : Token → Option Progress
  | .scalar s => some (complete (.scalar s) stack)
  | .openArray => some (.firstItem stack)
  | .openObject => some (.firstName stack)
  | _ => none

/-- The machine at a token. -/
def step : Progress → Token → Option Progress
  | .value stack, token => beginValue stack token
  | .firstItem stack, .closeArray => some (complete (.array []) stack)
  | .firstItem stack, token => beginValue (.items [] :: stack) token
  | .nextItem done stack, .comma => some (.value (.items done :: stack))
  | .nextItem done stack, .closeArray => some (complete (.array done.reverse) stack)
  | .firstName stack, .closeObject => some (complete (.object []) stack)
  | .firstName stack, .scalar (.string name) => some (.colon [] name stack)
  | .name done stack, .scalar (.string name) => some (.colon done name stack)
  | .colon done name stack, .colon => some (.value (.members done name :: stack))
  | .nextMember done stack, .comma => some (.name done stack)
  | .nextMember done stack, .closeObject => some (complete (.object done.reverse) stack)
  | _, _ => none

/-- The document when the tokens end. -/
def finish : Progress → Option Document
  | .finished document => some document
  | _ => none

/-- The document that tokens spell. -/
def ofTokens? (tokens : List Token) : Option Document :=
  (tokens.foldlM step (.value [])).bind finish

/-- The document that an input spells. -/
def ofSymbols? (input : List Symbol) : Option Document :=
  (Token.ofSymbols? input).bind ofTokens?

/-- The document that a text spells. -/
def ofText? (text : String) : Option Document := ofSymbols? (symbols text)

end Document

end Courier.Json
