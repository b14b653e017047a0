import Courier.Json.Literal
import Courier.Text.Utf8

/-!
# JSON tokens

A text is cut into marks and scalars by a machine that takes one symbol at a time, where a
symbol is a character or, as `none`, a part that spells no character. Everything between marks,
blanks and quotation marks is a word; a word is a literal name or a number, or the text is no
JSON. Damage is tolerated inside a string, where the literal records it, and nowhere else.
-/
namespace Courier.Json

/-- A character, or a damaged part of the input. -/
abbrev Symbol := Option Char

/-- The symbols of a text: its characters. -/
def symbols (text : String) : List Symbol := text.toList.map some

/-- A value without parts, as it is spelled. -/
inductive Scalar where
  /-- The word `null`. -/
  | null
  /-- The word `true` or `false`. -/
  | bool (b : Bool)
  /-- A number. -/
  | number (l : NumberLiteral)
  /-- A string. -/
  | string (l : StringLiteral)
  deriving DecidableEq, Repr

/-- The scalar that a word spells. -/
def Scalar.ofWord? (word : List Char) : Option Scalar :=
  if word = ['n', 'u', 'l', 'l'] then some .null
  else if word = ['t', 'r', 'u', 'e'] then some (.bool true)
  else if word = ['f', 'a', 'l', 's', 'e'] then some (.bool false)
  else (NumberLiteral.ofChars? word).map .number

/-- A unit of a JSON text. -/
inductive Token where
  /-- An opening bracket. -/
  | openArray
  /-- A closing bracket. -/
  | closeArray
  /-- An opening brace. -/
  | openObject
  /-- A closing brace. -/
  | closeObject
  /-- A comma. -/
  | comma
  /-- A colon. -/
  | colon
  /-- A scalar. -/
  | scalar (s : Scalar)
  deriving DecidableEq, Repr

/-- The token of a character that is one by itself. -/
def Token.ofMark? (c : Char) : Option Token :=
  if c = '[' then some .openArray
  else if c = ']' then some .closeArray
  else if c = '{' then some .openObject
  else if c = '}' then some .closeObject
  else if c = ',' then some .comma
  else if c = ':' then some .colon
  else none

/-- Whether a character is blank between tokens. -/
def isGap (c : Char) : Bool := c = ' ' || c = '\n' || c = '\r' || c = '\t'

namespace Lexer

/-- Where the machine stands between two symbols. What is under way is held in reverse. -/
inductive Mode where
  /-- Between tokens. -/
  | between
  /-- In a word. -/
  | word (reversed : List Char)
  /-- In a string. -/
  | string (reversed : List Piece)
  /-- In a string, after a backslash. -/
  | escape (reversed : List Piece)
  /-- In a string, after `\u` and `count` digits that spell `value`. -/
  | unit (reversed : List Piece) (count value : Nat)
  deriving DecidableEq, Repr

/-- The machine: its mode, and the tokens found, in reverse. -/
structure State where
  /-- Where it stands. -/
  mode : Mode
  /-- What it found. -/
  found : List Token
  deriving DecidableEq, Repr

/-- The machine before the first symbol. -/
def start : State := ⟨.between, []⟩

/-- The machine between tokens, at a character. -/
def begin (found : List Token) (c : Char) : State :=
  if isGap c then ⟨.between, found⟩
  else if c = '"' then ⟨.string [], found⟩
  else
    match Token.ofMark? c with
    | some token => ⟨.between, token :: found⟩
    | none => ⟨.word [c], found⟩

/-- Whether a character ends a word. -/
def endsWord (c : Char) : Bool := isGap c || c = '"' || (Token.ofMark? c).isSome

/-- The character that a short escape denotes. -/
def shortEscape? (c : Char) : Option Char :=
  if c = '"' then some '"'
  else if c = '\\' then some '\\'
  else if c = '/' then some '/'
  else if c = 'b' then some '\x08'
  else if c = 'f' then some '\x0C'
  else if c = 'n' then some '\n'
  else if c = 'r' then some '\r'
  else if c = 't' then some '\t'
  else none

/-- The machine at a character. -/
def stepChar (state : State) (c : Char) : Option State :=
  match state.mode with
  | .between => some (begin state.found c)
  | .word reversed =>
    if endsWord c then
      (Scalar.ofWord? reversed.reverse).map fun scalar => begin (.scalar scalar :: state.found) c
    else some ⟨.word (c :: reversed), state.found⟩
  | .string reversed =>
    if c = '"' then some ⟨.between, .scalar (.string reversed.reverse) :: state.found⟩
    else if c = '\\' then some ⟨.escape reversed, state.found⟩
    else if c.toNat < 0x20 then none
    else some ⟨.string (.char c :: reversed), state.found⟩
  | .escape reversed =>
    if c = 'u' then some ⟨.unit reversed 0 0, state.found⟩
    else (shortEscape? c).map fun meant => ⟨.string (.char meant :: reversed), state.found⟩
  | .unit reversed count value =>
    (Hex.digitValue? c).map fun digit =>
      let value := 16 * value + digit
      if count = 3 then ⟨.string (.unit value :: reversed), state.found⟩
      else ⟨.unit reversed (count + 1) value, state.found⟩

/-- The machine at a symbol. -/
def step (state : State) : Symbol → Option State
  | some c => stepChar state c
  | none =>
    match state.mode with
    | .string reversed => some ⟨.string (.damaged :: reversed), state.found⟩
    | _ => none

/-- The tokens found when the input ends, which it may not do inside a string. -/
def finish (state : State) : Option (List Token) :=
  match state.mode with
  | .between => some state.found.reverse
  | .word reversed =>
    (Scalar.ofWord? reversed.reverse).map fun scalar => (.scalar scalar :: state.found).reverse
  | _ => none

end Lexer

/-- The tokens of an input. -/
def Token.ofSymbols? (input : List Symbol) : Option (List Token) :=
  (input.foldlM Lexer.step Lexer.start).bind Lexer.finish

end Courier.Json
