import Mathlib.Data.List.TakeWhile
import Courier.Json.Printer
import Courier.Proofs.Json.Assembly
import Courier.Proofs.Numerals

/-!
# Printed values are well spelled

The tree of the text that the printer writes for a value (`Value.document`), and the machine that
cuts a text into tokens. Between tokens the machine takes a printed value for the tokens of that
tree, whatever follows, as long as what follows ends a word (`tokensFrom?_chars`).
-/
namespace Courier.Json

/-- The piece that a reader finds where a character was printed inside a string. -/
def Piece.ofChar (c : Char) : Piece :=
  if c.toNat < 0x20 ∧ c ∉ ['\x08', '\x0C', '\n', '\r', '\t'] then .unit c.toNat else .char c

/-- The string literal that a text is printed as. -/
def StringLiteral.ofText (text : String) : StringLiteral := text.toList.map Piece.ofChar

/-- A unit that is no half of a surrogate pair denotes a character by itself. -/
theorem StringLiteral.chars?_unit {value : Nat} (high : isHigh value = false)
    (low : isLow value = false) (rest : StringLiteral) :
    chars? (.unit value :: rest) = (chars? rest).map (Char.ofNat value :: ·) := by
  rw [chars?.eq_def]
  simp only [high, low, Bool.false_eq_true, ↓reduceIte]

/-- The pieces of printed characters denote those characters. -/
theorem StringLiteral.chars?_ofChar (cs : List Char) : chars? (cs.map Piece.ofChar) = some cs := by
  induction cs with
  | nil => rfl
  | cons c cs ih =>
    rw [List.map_cons, Piece.ofChar]
    split
    · rename_i control
      have high : isHigh c.toNat = false := by
        simp only [isHigh, Bool.and_eq_false_iff, decide_eq_false_iff_not]
        omega
      have low : isLow c.toNat = false := by
        simp only [isLow, Bool.and_eq_false_iff, decide_eq_false_iff_not]
        omega
      rw [chars?_unit high low, ih, Option.map_some, Char.ofNat_toNat]
    · simp only [chars?, ih, Option.map_some]

/-- The literal that a text is printed as denotes that text. -/
theorem StringLiteral.text?_ofText (text : String) : (ofText text).text? = some text := by
  rw [text?, ofText, chars?_ofChar, Option.map_some, String.ofList_toList]

/-- The number literal that a whole number is printed as. -/
def NumberLiteral.ofInt (n : Int) : NumberLiteral :=
  { negative := n < 0, whole := Nat.toDigits 10 n.natAbs, fraction := none, exponent := none }

/-- The literal that a whole number is printed as denotes that number, if it fits. -/
theorem NumberLiteral.integer?_ofInt {n : Int} (low : -(signBound : Int) ≤ n)
    (high : n < UInt64.size) : (ofInt n).integer? = some n := by
  have bound : (signBound : Int) ≤ UInt64.size := by decide
  simp only [integer?, ofInt, Option.isSome_none, Bool.or_self, Bool.false_eq_true, ↓reduceIte,
    Decimal.digitsValue_toDigits, decide_eq_true_eq]
  by_cases negative : n < 0
  · rw [if_pos negative, if_pos (by omega)]
    exact congrArg some (by omega)
  · rw [if_neg negative, if_pos (by omega)]
    exact congrArg some (by omega)

/-- A digit is no mark, no blank, no quotation mark and no sign. -/
theorem endsWord_of_isDigit {c : Char} (digit : c.isDigit = true) : Lexer.endsWord c = false := by
  have bounds : 48 ≤ c.toNat ∧ c.toNat ≤ 57 := by
    simpa [Char.isDigit, UInt32.le_iff_toNat_le] using digit
  have apart (other : Char) (outside : other.toNat < 48 ∨ 57 < other.toNat) : c ≠ other := by
    rintro rfl
    omega
  simp [Lexer.endsWord, isGap, Token.ofMark?, apart]

/-- A printed whole number is read as its literal. -/
theorem NumberLiteral.ofChars?_integerChars (n : Int) :
    ofChars? (integerChars n) = some (ofInt n) := by
  obtain ⟨first, others, digits⟩ := List.exists_cons_of_ne_nil
    (Nat.toDigits_ne_nil : Nat.toDigits 10 n.natAbs ≠ [])
  have all : ∀ c ∈ first :: others, c.isDigit = true := fun c listed =>
    Nat.isDigit_of_mem_toDigits (by decide) (by decide) (digits ▸ listed)
  have taken : (first :: others).takeWhile Char.isDigit = first :: others :=
    List.takeWhile_eq_self_iff.2 all
  have dropped : (first :: others).dropWhile Char.isDigit = [] :=
    List.dropWhile_eq_nil_iff.2 all
  have unsigned : first ≠ '-' := by
    rintro rfl
    exact absurd (all '-' List.mem_cons_self) (by decide)
  have proper : ¬((first :: others).head? = some '0' ∧ 1 < (first :: others).length) := by
    rintro ⟨zero, long⟩
    rw [← digits] at zero long
    by_cases positive : n.natAbs = 0
    · simp [positive] at long
    · exact head?_toDigits_ne (by decide) (by decide) positive zero
  by_cases negative : n < 0
  · simp only [ofChars?, integerChars, negative, ↓reduceIte, digits, splitSign, splitDigits?, taken,
      dropped, Option.bind_eq_bind, Option.bind_some, proper, splitFraction?, exponent?, ofInt,
      decide_true]
  · have sign : splitSign (first :: others) = (false, first :: others) := by
      unfold splitSign
      split
      · rename_i same
        exact absurd (List.cons.inj same).1 unsigned
      · rfl
    simp only [ofChars?, integerChars, negative, ↓reduceIte, digits, sign, splitDigits?, taken,
      dropped, Option.bind_eq_bind, Option.bind_some, proper, splitFraction?, exponent?, ofInt,
      decide_false]

namespace Lexer

/-- The tokens of a text when the machine has come to a state. -/
def tokensFrom? (state : State) (cs : List Char) : Option (List Token) :=
  ((cs.map some).foldlM step state).bind finish

/-- The tokens of a text are those of the rest when the machine has met the first character. -/
theorem tokensFrom?_cons (state : State) (c : Char) (cs : List Char) :
    tokensFrom? state (c :: cs) = (stepChar state c).bind fun next => tokensFrom? next cs := by
  simp only [tokensFrom?, List.map_cons, List.foldlM_cons, step, Option.bind_eq_bind,
    Option.bind_assoc]

/-- A mark between tokens is the token that it stands for. -/
theorem tokensFrom?_mark {c : Char} {token : Token} (mark : Token.ofMark? c = some token)
    (found : List Token) (rest : List Char) :
    tokensFrom? ⟨.between, found⟩ (c :: rest) = tokensFrom? ⟨.between, token :: found⟩ rest := by
  have known : c = '[' ∨ c = ']' ∨ c = '{' ∨ c = '}' ∨ c = ',' ∨ c = ':' := by
    unfold Token.ofMark? at mark
    grind
  rw [tokensFrom?_cons]
  rcases known with rfl | rfl | rfl | rfl | rfl | rfl <;> cases mark <;> rfl

/-- Whether a word that stands before characters ends there: there are none, or the first one
ends it. -/
def Ends (rest : List Char) : Prop := ∀ c ∈ rest.head?, endsWord c = true

/-- Nothing ends a word. -/
theorem ends_nil : Ends [] := fun _ none => nomatch none

/-- A character that ends words ends one whatever follows it. -/
theorem ends_cons {c : Char} (ends : endsWord c = true) (rest : List Char) : Ends (c :: rest) := by
  intro first head
  cases head
  exact ends

/-- Inside a word the machine takes up characters that do not end it. -/
theorem tokensFrom?_inWord {word : List Char} (inner : ∀ c ∈ word, endsWord c = false)
    (reversed : List Char) (found : List Token) (rest : List Char) :
    tokensFrom? ⟨.word reversed, found⟩ (word ++ rest) =
      tokensFrom? ⟨.word (word.reverse ++ reversed), found⟩ rest := by
  induction word generalizing reversed with
  | nil => rfl
  | cons c word ih =>
    rw [List.cons_append, tokensFrom?_cons]
    simp only [stepChar, inner c List.mem_cons_self, Bool.false_eq_true, ↓reduceIte,
      Option.bind_some]
    rw [ih (fun other listed => inner other (List.mem_cons_of_mem _ listed)), List.reverse_cons,
      List.append_assoc]
    rfl

/-- Where a word ends its scalar is found. -/
theorem tokensFrom?_endWord {reversed : List Char} {scalar : Scalar}
    (spelled : Scalar.ofWord? reversed.reverse = some scalar) (found : List Token)
    {rest : List Char} (ends : Ends rest) :
    tokensFrom? ⟨.word reversed, found⟩ rest =
      tokensFrom? ⟨.between, .scalar scalar :: found⟩ rest := by
  cases rest with
  | nil =>
    simp only [tokensFrom?, List.map_nil, List.foldlM_nil, Option.pure_def, Option.bind_some,
      finish, spelled, Option.map_some]
  | cons c rest =>
    rw [tokensFrom?_cons, tokensFrom?_cons]
    simp only [stepChar, ends c rfl, ↓reduceIte, spelled, Option.map_some]

/-- A whole word between tokens is the scalar that it spells. -/
theorem tokensFrom?_word {word : List Char} {scalar : Scalar}
    (spelled : Scalar.ofWord? word = some scalar) (inner : ∀ c ∈ word, endsWord c = false)
    (found : List Token) {rest : List Char} (ends : Ends rest) :
    tokensFrom? ⟨.between, found⟩ (word ++ rest) =
      tokensFrom? ⟨.between, .scalar scalar :: found⟩ rest := by
  cases word with
  | nil =>
    have nothing : Scalar.ofWord? [] = none := by decide
    exact absurd (nothing.symm.trans spelled) (by simp)
  | cons c word =>
    have plain := inner c List.mem_cons_self
    simp only [endsWord, Bool.or_eq_false_iff, decide_eq_false_iff_not,
      Option.isSome_eq_false_iff, Option.isNone_iff_eq_none] at plain
    obtain ⟨⟨gap, quotation⟩, mark⟩ := plain
    rw [List.cons_append, tokensFrom?_cons]
    simp only [stepChar, begin, gap, quotation, mark, Bool.false_eq_true, ↓reduceIte,
      Option.bind_some]
    rw [tokensFrom?_inWord fun other listed => inner other (List.mem_cons_of_mem _ listed)]
    exact tokensFrom?_endWord (by simpa using spelled) found ends

/-- Inside a string a printed character is one piece. -/
theorem tokensFrom?_escape (c : Char) (reversed : List Piece) (found : List Token)
    (rest : List Char) :
    tokensFrom? ⟨.string reversed, found⟩ (escape c ++ rest) =
      tokensFrom? ⟨.string (Piece.ofChar c :: reversed), found⟩ rest := by
  by_cases short : c ∈ ['"', '\\', '\x08', '\x0C', '\n', '\r', '\t']
  · simp only [List.mem_cons, List.not_mem_nil, or_false] at short
    rcases short with rfl | rfl | rfl | rfl | rfl | rfl | rfl <;> rfl
  · simp only [List.mem_cons, List.not_mem_nil, or_false, not_or] at short
    obtain ⟨quotation, backslash, b, f, n, r, t⟩ := short
    by_cases control : c.toNat < 0x20
    · have piece : Piece.ofChar c = .unit c.toNat := by
        simp [Piece.ofChar, control, b, f, n, r, t]
      have value : 16 * (c.toNat / 16) + c.toNat % 16 = c.toNat := by omega
      have low : c.toNat % 16 < 16 := by omega
      have high : c.toNat / 16 < 16 := by omega
      have zero : Hex.digitValue? '0' = some 0 := by decide
      simp only [escape, quotation, backslash, b, f, n, r, t, control, ↓reduceIte,
        List.cons_append, List.nil_append, tokensFrom?_cons, stepChar, Char.reduceEq,
        Option.bind_some, zero, Hex.digitValue?_digit low, Hex.digitValue?_digit high,
        Option.map_some, piece, Nat.reduceEqDiff, Nat.mul_zero, Nat.zero_add, value]
    · have piece : Piece.ofChar c = .char c := by
        simp [Piece.ofChar, control]
      simp only [escape, quotation, backslash, b, f, n, r, t, control, ↓reduceIte,
        List.cons_append, List.nil_append, tokensFrom?_cons, stepChar, Option.bind_some, piece]

/-- A printed text between tokens is its string literal. -/
theorem tokensFrom?_quote (text : String) (found : List Token) (rest : List Char) :
    tokensFrom? ⟨.between, found⟩ (quote text ++ rest) =
      tokensFrom? ⟨.between, .scalar (.string (.ofText text)) :: found⟩ rest := by
  have inside (cs : List Char) (reversed : List Piece) :
      tokensFrom? ⟨.string reversed, found⟩ (cs.flatMap escape ++ ('"' :: rest)) =
        tokensFrom? ⟨.string ((cs.map Piece.ofChar).reverse ++ reversed), found⟩
          ('"' :: rest) := by
    induction cs generalizing reversed with
    | nil => rfl
    | cons c cs ih =>
      rw [List.flatMap_cons, List.append_assoc, tokensFrom?_escape, ih, List.map_cons,
        List.reverse_cons, List.append_assoc]
      rfl
  have closing (reversed : List Piece) : tokensFrom? ⟨.string reversed, found⟩ ('"' :: rest) =
      tokensFrom? ⟨.between, .scalar (.string reversed.reverse) :: found⟩ rest := rfl
  have opening (cs : List Char) :
      tokensFrom? ⟨.between, found⟩ ('"' :: cs) = tokensFrom? ⟨.string [], found⟩ cs := rfl
  have shape : quote text ++ rest = '"' :: (text.toList.flatMap escape ++ '"' :: rest) := by
    simp only [quote, List.cons_append, List.append_assoc, List.nil_append]
  rw [shape, opening, inside, closing, List.append_nil, List.reverse_reverse]
  rfl

end Lexer

namespace Value

mutual

/-- The tree of the text that a value is printed as. -/
def document : Value → Document
  | .null => .scalar .null
  | .bool b => .scalar (.bool b)
  | .integer n => .scalar (.number (.ofInt n))
  | .real x => .scalar ((Scalar.ofWord? x.chars).getD .null)
  | .string s => .scalar (.string (.ofText s))
  | .array items => .array (itemDocuments items)
  | .object members => .object (memberDocuments members)

/-- The trees of the texts that values are printed as. -/
def itemDocuments : List Value → List Document
  | [] => []
  | item :: rest => document item :: itemDocuments rest

/-- The names and trees of the texts that members are printed as. -/
def memberDocuments : List (String × Value) → List (StringLiteral × Document)
  | [] => []
  | (name, value) :: rest => (.ofText name, document value) :: memberDocuments rest

end

/-- Whether the machine, between tokens, takes the text of a value for the tokens of its tree. -/
def Legible (value : Value) : Prop :=
  ∀ found rest, Lexer.Ends rest →
    Lexer.tokensFrom? ⟨.between, found⟩ (value.chars ++ rest) =
      Lexer.tokensFrom? ⟨.between, value.document.tokens.reverse ++ found⟩ rest

/-- The names of scalars are legible. -/
theorem legible_word {value : Value} {word : List Char} {scalar : Scalar}
    (written : value.chars = word) (tree : value.document = .scalar scalar)
    (spelled : Scalar.ofWord? word = some scalar)
    (inner : word.any Lexer.endsWord = false) : value.Legible := by
  intro found rest ends
  have inside : ∀ c ∈ word, Lexer.endsWord c = false := by
    simpa only [List.any_eq_false, Bool.not_eq_true] using inner
  rw [written, tree, Lexer.tokensFrom?_word spelled inside found ends]
  rfl

/-- Whole numbers are legible. -/
theorem legible_integer (n : Int) : (Value.integer n).Legible := by
  have inner : ∀ c ∈ integerChars n, Lexer.endsWord c = false := by
    intro c listed
    have digit {c : Char} (listed : c ∈ Nat.toDigits 10 n.natAbs) : Lexer.endsWord c = false :=
      endsWord_of_isDigit (Nat.isDigit_of_mem_toDigits (by decide) (by decide) listed)
    unfold integerChars at listed
    split at listed
    · rcases List.mem_cons.1 listed with rfl | listed
      · decide
      · exact digit listed
    · exact digit listed
  have spelled : Scalar.ofWord? (integerChars n) = some (.number (.ofInt n)) := by
    have apart (name : List Char) (plain : NumberLiteral.ofChars? name = none) :
        integerChars n ≠ name := by
      intro same
      rw [← same, NumberLiteral.ofChars?_integerChars] at plain
      exact nomatch plain
    rw [Scalar.ofWord?, if_neg (apart _ (by decide)), if_neg (apart _ (by decide)),
      if_neg (apart _ (by decide)), NumberLiteral.ofChars?_integerChars]
    rfl
  refine legible_word rfl rfl spelled (List.any_eq_false.2 fun c listed => ?_)
  rw [inner c listed]
  exact Bool.false_ne_true

/-- Texts are legible. -/
theorem legible_string (s : String) : (Value.string s).Legible := by
  intro found rest ends
  exact Lexer.tokensFrom?_quote s found rest

/-- Legible items make a legible array. -/
theorem legible_array {items : List Value} (legible : ∀ item ∈ items, item.Legible) :
    (Value.array items).Legible := by
  have comma : Lexer.endsWord ',' = true := by decide
  have closing : Lexer.endsWord ']' = true := by decide
  have inside (found : List Token) (rest : List Char) :
      Lexer.tokensFrom? ⟨.between, found⟩ (itemChars items ++ ']' :: rest) =
        Lexer.tokensFrom?
          ⟨.between, (Document.itemTokens (itemDocuments items)).reverse ++ found⟩
          (']' :: rest) := by
    induction items generalizing found with
    | nil => rfl
    | cons item items ih =>
      have first := legible item List.mem_cons_self
      have others := ih fun other listed => legible other (List.mem_cons_of_mem _ listed)
      cases items with
      | nil => exact first found _ (Lexer.ends_cons closing rest)
      | cons next items =>
        rw [itemChars, List.append_assoc, List.cons_append,
          first found _ (Lexer.ends_cons comma _), Lexer.tokensFrom?_mark rfl, others]
        simp only [itemDocuments, Document.itemTokens, List.reverse_append, List.reverse_cons,
          List.append_assoc, List.cons_append, List.nil_append]
  intro found rest ends
  rw [chars, List.cons_append, List.cons_append, List.append_assoc, List.cons_append,
    List.nil_append, Lexer.tokensFrom?_mark rfl, inside, Lexer.tokensFrom?_mark rfl]
  simp only [document, Document.tokens, List.cons_append, List.reverse_cons, List.reverse_append,
    List.reverse_nil, List.nil_append, List.append_assoc]

/-- Members with legible values make a legible object, in whatever order they stand. -/
theorem legible_object {members : List (String × Value)}
    (legible : ∀ member ∈ members, member.2.Legible) : (Value.object members).Legible := by
  have comma : Lexer.endsWord ',' = true := by decide
  have closing : Lexer.endsWord '}' = true := by decide
  have inside (found : List Token) (rest : List Char) :
      Lexer.tokensFrom? ⟨.between, found⟩ (memberChars members ++ '}' :: rest) =
        Lexer.tokensFrom?
          ⟨.between, (Document.memberTokens (memberDocuments members)).reverse ++ found⟩
          ('}' :: rest) := by
    induction members generalizing found with
    | nil => rfl
    | cons member members ih =>
      obtain ⟨name, value⟩ := member
      have first := legible (name, value) List.mem_cons_self
      have others := ih fun other listed => legible other (List.mem_cons_of_mem _ listed)
      cases members with
      | nil =>
        rw [memberChars, List.append_assoc, List.cons_append, Lexer.tokensFrom?_quote,
          Lexer.tokensFrom?_mark rfl, first _ _ (Lexer.ends_cons closing rest)]
        simp only [memberDocuments, Document.memberTokens, List.reverse_cons,
          List.append_assoc, List.cons_append, List.nil_append]
      | cons next members =>
        rw [memberChars, List.append_assoc, List.append_assoc, List.cons_append,
          Lexer.tokensFrom?_quote, Lexer.tokensFrom?_mark rfl, List.cons_append,
          first _ _ (Lexer.ends_cons comma _), Lexer.tokensFrom?_mark rfl, others]
        simp only [memberDocuments, Document.memberTokens, List.reverse_append,
          List.reverse_cons, List.append_assoc, List.cons_append, List.nil_append]
  intro found rest ends
  rw [chars, List.cons_append, List.cons_append, List.append_assoc, List.cons_append,
    List.nil_append, Lexer.tokensFrom?_mark rfl, inside, Lexer.tokensFrom?_mark rfl]
  simp only [document, Document.tokens, List.cons_append, List.reverse_cons, List.reverse_append,
    List.reverse_nil, List.nil_append, List.append_assoc]

/-- A legible value has the tree of its text. -/
theorem ofText?_of_legible {value : Value} (legible : value.Legible) :
    Document.ofText? value.text = some value.document := by
  have found := legible [] [] Lexer.ends_nil
  have ended : Lexer.tokensFrom? ⟨.between, value.document.tokens.reverse ++ []⟩ [] =
      some value.document.tokens := by
    simp only [Lexer.tokensFrom?, List.map_nil, List.foldlM_nil, Option.pure_def,
      Option.bind_some, Lexer.finish, List.append_nil, List.reverse_reverse]
  rw [ended, List.append_nil] at found
  have tokens : Token.ofSymbols? (symbols value.text) = some value.document.tokens := by
    rw [symbols, text, String.toList_ofList]
    exact found
  rw [Document.ofText?, Document.ofSymbols?, tokens, Option.bind_some,
    Document.ofTokens?_tokens]

end Value

end Courier.Json
