import Courier.Proofs.Json.Spelling

/-!
# Texts inside texts

A text that is well spelled by itself is spelled the same inside a larger one. The machine that cuts
a text into tokens never looks back at those it has found (`Lexer.tokensFrom?_onto`), so the tokens
of two texts in a row are those of the first and then those of the second, if the second ends a word
(`Lexer.tokensFrom?_append`). The machine that puts tokens together never looks at the containers
around the value that it waits for (`Document.step_onto`), so it takes the tokens of a document for
that document wherever it waits for a value (`Document.foldlM_step_of_ofTokens?`). Together they put
the document of a text where the text is put (`Document.ofText?_splice`).
-/
namespace Courier.Json

namespace Lexer

/-- A state with more tokens found before its own. -/
def State.onto (earlier : List Token) (state : State) : State :=
  ⟨state.mode, state.found ++ earlier⟩

/-- Between tokens the machine does the same whatever it has found. -/
theorem begin_onto (earlier found : List Token) (c : Char) :
    begin (found ++ earlier) c = (begin found c).onto earlier := by
  unfold begin
  split
  · rfl
  · split
    · rfl
    · split <;> rfl

/-- At every character the machine does the same whatever it has found. -/
theorem stepChar_onto (earlier : List Token) (state : State) (c : Char) :
    stepChar (state.onto earlier) c = (stepChar state c).map (State.onto earlier) := by
  obtain ⟨mode, found⟩ := state
  cases mode with
  | between => exact congrArg some (begin_onto earlier found c)
  | word reversed =>
    simp only [stepChar, State.onto]
    split
    · rw [Option.map_map]
      congr 1
      funext scalar
      exact begin_onto earlier (.scalar scalar :: found) c
    · rfl
  | string reversed =>
    simp only [stepChar, State.onto]
    split
    · rfl
    · split
      · rfl
      · split <;> rfl
  | escape reversed =>
    simp only [stepChar, State.onto]
    split
    · rfl
    · rw [Option.map_map]
      rfl
  | unit reversed count value =>
    simp only [stepChar, State.onto, Option.map_map]
    congr 1
    funext digit
    simp only [Function.comp_apply]
    split <;> rfl

/-- The tokens of an input come behind those found before. -/
theorem tokensFrom?_onto (earlier : List Token) (state : State) (cs : List Char) :
    tokensFrom? (state.onto earlier) cs =
      (tokensFrom? state cs).map fun tokens => earlier.reverse ++ tokens := by
  induction cs generalizing state with
  | nil =>
    obtain ⟨mode, found⟩ := state
    cases mode with
    | between => simp [tokensFrom?, finish, State.onto]
    | word reversed =>
      simp only [tokensFrom?, finish, State.onto, List.map_nil, List.foldlM_nil, Option.pure_def,
        Option.bind_some, Option.map_map]
      congr 1
      funext scalar
      simp
    | string reversed => rfl
    | escape reversed => rfl
    | unit reversed count value => rfl
  | cons c cs ih =>
    rw [tokensFrom?_cons, tokensFrom?_cons, stepChar_onto, Option.map_bind, Option.bind_map]
    congr 1
    funext next
    exact ih next

/-- The tokens of two texts in a row are those of the one and then those of the other, if the other
ends a word. -/
theorem tokensFrom?_append {state : State} {cs rest : List Char} {tokens : List Token}
    (spelled : tokensFrom? state cs = some tokens) (ends : Ends rest) :
    tokensFrom? state (cs ++ rest) =
      (tokensFrom? start rest).map fun others => tokens ++ others := by
  induction cs generalizing state with
  | nil =>
    obtain ⟨mode, found⟩ := state
    cases mode with
    | between =>
      have same : found.reverse = tokens := Option.some.inj spelled
      rw [← same]
      exact tokensFrom?_onto found start rest
    | word reversed =>
      obtain ⟨scalar, read, same⟩ := Option.map_eq_some_iff.1 spelled
      rw [← same, List.nil_append, tokensFrom?_endWord read found ends]
      exact tokensFrom?_onto (.scalar scalar :: found) start rest
    | string reversed => exact nomatch spelled
    | escape reversed => exact nomatch spelled
    | unit reversed count value => exact nomatch spelled
  | cons c cs ih =>
    rw [tokensFrom?_cons] at spelled
    obtain ⟨next, stepped, spelled⟩ := Option.bind_eq_some_iff.1 spelled
    rw [List.cons_append, tokensFrom?_cons, stepped, Option.bind_some]
    exact ih spelled

/-- Where the machine has come to between tokens, what follows is taken by itself. -/
theorem tokensFrom?_of_between {front rest : List Char} {found : List Token}
    (taken : (front.map some).foldlM step start = some ⟨.between, found⟩) :
    tokensFrom? start (front ++ rest) =
      (tokensFrom? start rest).map fun tokens => found.reverse ++ tokens := by
  have first : tokensFrom? start (front ++ rest) = tokensFrom? ⟨.between, found⟩ rest := by
    simp only [tokensFrom?, List.map_append, List.foldlM_append, taken, Option.bind_eq_bind,
      Option.bind_some]
  rw [first]
  exact tokensFrom?_onto found start rest

end Lexer

namespace Document

/-- What the machine waits for if there are more containers around. -/
def Progress.onto (around : List Frame) : Progress → Progress
  | .value stack => .value (stack ++ around)
  | .firstItem stack => .firstItem (stack ++ around)
  | .nextItem done stack => .nextItem done (stack ++ around)
  | .firstName stack => .firstName (stack ++ around)
  | .name done stack => .name done (stack ++ around)
  | .colon done literal stack => .colon done literal (stack ++ around)
  | .nextMember done stack => .nextMember done (stack ++ around)
  | .finished document => complete document around

/-- A complete value goes to the innermost container, whatever is around. -/
theorem complete_onto (around : List Frame) (document : Document) (stack : List Frame) :
    complete document (stack ++ around) = (complete document stack).onto around := by
  match stack with
  | [] => rfl
  | .items done :: stack => rfl
  | .members done literal :: stack => rfl

/-- A value begins in the same way, whatever is around. -/
theorem beginValue_onto (around : List Frame) {stack : List Frame} {token : Token}
    {next : Progress} (begun : beginValue stack token = some next) :
    beginValue (stack ++ around) token = some (next.onto around) := by
  cases token with
  | scalar s =>
    obtain rfl := Option.some.inj begun
    exact congrArg some (complete_onto around (.scalar s) stack)
  | openArray =>
    obtain rfl := Option.some.inj begun
    rfl
  | openObject =>
    obtain rfl := Option.some.inj begun
    rfl
  | _ => exact nomatch begun

/-- The machine takes a token in the same way, whatever is around. -/
theorem step_onto (around : List Frame) {progress next : Progress} {token : Token}
    (stepped : step progress token = some next) :
    step (progress.onto around) token = some (next.onto around) := by
  unfold step at stepped
  -- One case for each line of `step`: it begins a value, completes one, or keeps the containers.
  split at stepped
  · exact beginValue_onto around stepped
  · obtain rfl := Option.some.inj stepped
    exact congrArg some (complete_onto around (.array []) _)
  · -- An array that does not end begins with an item.
    rename_i stack ends
    cases token with
    | closeArray => exact absurd rfl ends
    | _ => exact @beginValue_onto around (.items [] :: stack) _ _ stepped
  · obtain rfl := Option.some.inj stepped
    rfl
  · obtain rfl := Option.some.inj stepped
    exact congrArg some (complete_onto around _ _)
  · obtain rfl := Option.some.inj stepped
    exact congrArg some (complete_onto around (.object []) _)
  · obtain rfl := Option.some.inj stepped
    rfl
  · obtain rfl := Option.some.inj stepped
    rfl
  · obtain rfl := Option.some.inj stepped
    rfl
  · obtain rfl := Option.some.inj stepped
    rfl
  · obtain rfl := Option.some.inj stepped
    exact congrArg some (complete_onto around _ _)
  · exact nomatch stepped

/-- Tokens in a row are taken in the same way inside other containers. -/
theorem foldlM_step_onto (around : List Frame) {tokens : List Token} {progress last : Progress}
    (taken : tokens.foldlM step progress = some last) :
    tokens.foldlM step (progress.onto around) = some (last.onto around) := by
  induction tokens generalizing progress with
  | nil =>
    obtain rfl := Option.some.inj taken
    rfl
  | cons token tokens ih =>
    rw [List.foldlM_cons] at taken ⊢
    obtain ⟨next, stepped, taken⟩ := Option.bind_eq_some_iff.1 taken
    rw [step_onto around stepped]
    exact ih taken

/-- Wherever the machine waits for a value, it takes the tokens of a document for that value. -/
theorem foldlM_step_of_ofTokens? {tokens : List Token} {document : Document}
    (spelled : ofTokens? tokens = some document) (stack : List Frame) :
    tokens.foldlM step (.value stack) = some (complete document stack) := by
  obtain ⟨last, taken, ended⟩ := Option.bind_eq_some_iff.1 spelled
  cases last with
  | finished whole =>
    obtain rfl := Option.some.inj ended
    exact foldlM_step_onto stack taken
  | _ => exact nomatch ended

/-- The text of a document between two others is taken for that document, if the machines wait for
a value after the one and the other ends a word. -/
theorem ofText?_splice {front text back : String} {found rest : List Token} {stack : List Frame}
    {document : Document} (taken : (symbols front).foldlM Lexer.step Lexer.start =
      some ⟨.between, found⟩)
    (waits : found.reverse.foldlM step (.value []) = some (.value stack))
    (spelled : ofText? text = some document) (ends : Lexer.Ends back.toList)
    (closing : Token.ofSymbols? (symbols back) = some rest) :
    ofText? (front ++ text ++ back) = (rest.foldlM step (complete document stack)).bind finish := by
  obtain ⟨tokens, cut, assembled⟩ := Option.bind_eq_some_iff.1 spelled
  have inner : Lexer.tokensFrom? Lexer.start (text.toList ++ back.toList) =
      some (tokens ++ rest) := by
    rw [Lexer.tokensFrom?_append cut ends]
    exact congrArg (Option.map _) closing
  have outer : Token.ofSymbols? (symbols (front ++ text ++ back)) =
      some (found.reverse ++ (tokens ++ rest)) := by
    show Lexer.tokensFrom? Lexer.start (front ++ text ++ back).toList = _
    rw [String.toList_append, String.toList_append, List.append_assoc,
      Lexer.tokensFrom?_of_between taken, inner]
    rfl
  rw [ofText?, ofSymbols?, outer, Option.bind_some, ofTokens?, List.foldlM_append, waits]
  show ((tokens ++ rest).foldlM step (.value stack)).bind finish = _
  rw [List.foldlM_append, foldlM_step_of_ofTokens? assembled stack]
  rfl

end Document

end Courier.Json
