import Courier.Json.Document

/-!
# Documents from their tokens

The tokens of a document, and the machine that puts tokens together. From any stack of containers
part way through, the machine takes the tokens of a document and stands where it stands after that
complete value (`foldlM_step_tokens`). So every document is put together from its own tokens.
-/
namespace Courier.Json.Document

/-- What holds of every document that it holds of the parts of holds of all documents. -/
@[elab_as_elim]
theorem induction {motive : Document → Prop} (scalar : ∀ s, motive (.scalar s))
    (array : ∀ items, (∀ item ∈ items, motive item) → motive (.array items))
    (object : ∀ members, (∀ member ∈ members, motive member.2) → motive (.object members)) :
    ∀ document, motive document
  | .scalar s => scalar s
  | .array items => array items fun item _ => induction scalar array object item
  | .object members => object members fun member _ => induction scalar array object member.2
termination_by document => sizeOf document
decreasing_by
  · rename_i listed
    have := List.sizeOf_lt_of_mem listed
    simp only [Document.array.sizeOf_spec]
    omega
  · rename_i listed
    have := List.sizeOf_lt_of_mem listed
    obtain ⟨name, document⟩ := member
    simp only [Document.object.sizeOf_spec, Prod.mk.sizeOf_spec] at this ⊢
    omega

mutual

/-- The tokens that spell a document. -/
def tokens : Document → List Token
  | .scalar s => [.scalar s]
  | .array items => .openArray :: itemTokens items ++ [.closeArray]
  | .object members => .openObject :: memberTokens members ++ [.closeObject]

/-- The tokens of items with commas between them. -/
def itemTokens : List Document → List Token
  | [] => []
  | [item] => tokens item
  | item :: next :: rest => tokens item ++ .comma :: itemTokens (next :: rest)

/-- The tokens of members with commas between them. -/
def memberTokens : List (StringLiteral × Document) → List Token
  | [] => []
  | [(name, document)] => .scalar (.string name) :: .colon :: tokens document
  | (name, document) :: next :: rest =>
    .scalar (.string name) :: .colon :: tokens document ++ .comma :: memberTokens (next :: rest)

end

/-- The first token of a document opens it, so the machine takes it for the first item of an
array as it takes it for any value. -/
theorem foldlM_step_firstItem (document : Document) (stack : List Frame) (rest : List Token) :
    (document.tokens ++ rest).foldlM step (.firstItem stack) =
      (document.tokens ++ rest).foldlM step (.value (.items [] :: stack)) := by
  cases document <;> simp only [tokens, List.cons_append, List.foldlM_cons, step]

/-- What is asked of the tokens of one document: the machine takes them for that value. -/
def Assembles (document : Document) : Prop :=
  ∀ stack rest, (document.tokens ++ rest).foldlM step (.value stack) =
    rest.foldlM step (complete document stack)

/-- The machine takes the tokens of the items left to the end of an array. -/
theorem foldlM_step_itemTokens (items : List Document) (item : Document)
    (assembles : ∀ document ∈ item :: items, document.Assembles) (done : List Document)
    (stack : List Frame) (rest : List Token) :
    (itemTokens (item :: items) ++ .closeArray :: rest).foldlM step
        (.value (.items done :: stack)) =
      rest.foldlM step (complete (.array (done.reverse ++ item :: items)) stack) := by
  induction items generalizing item done with
  | nil =>
    rw [itemTokens, assembles item List.mem_cons_self]
    simp only [complete, List.foldlM_cons, step, Option.bind_eq_bind, Option.bind_some,
      List.reverse_cons]
  | cons next items ih =>
    rw [itemTokens, List.append_assoc, assembles item List.mem_cons_self]
    simp only [complete, List.cons_append, List.foldlM_cons, step, Option.bind_eq_bind,
      Option.bind_some]
    rw [ih next (fun document listed => assembles document (List.mem_cons_of_mem _ listed)),
      List.reverse_cons, List.append_assoc]
    rfl

/-- The machine takes the tokens of the members left, from the first name on, to the end of an
object. -/
theorem foldlM_step_memberTokens (members : List (StringLiteral × Document))
    (member : StringLiteral × Document)
    (assembles : ∀ entry ∈ member :: members, entry.2.Assembles)
    (done : List (StringLiteral × Document)) (stack : List Frame) (rest : List Token) :
    (memberTokens (member :: members) ++ .closeObject :: rest).foldlM step (.name done stack) =
      rest.foldlM step (complete (.object (done.reverse ++ member :: members)) stack) := by
  induction members generalizing member done with
  | nil =>
    obtain ⟨name, document⟩ := member
    simp only [memberTokens, List.cons_append, List.foldlM_cons, step, Option.bind_eq_bind,
      Option.bind_some]
    rw [assembles (name, document) List.mem_cons_self]
    simp only [complete, List.foldlM_cons, step, Option.bind_eq_bind, Option.bind_some,
      List.reverse_cons]
  | cons next members ih =>
    obtain ⟨name, document⟩ := member
    simp only [memberTokens, List.cons_append, List.append_assoc, List.foldlM_cons, step,
      Option.bind_eq_bind, Option.bind_some]
    rw [assembles (name, document) List.mem_cons_self]
    simp only [complete, List.foldlM_cons, step, Option.bind_eq_bind, Option.bind_some]
    rw [ih next (fun entry listed => assembles entry (List.mem_cons_of_mem _ listed)),
      List.reverse_cons, List.append_assoc]
    rfl

/-- The first name of an object is taken as a name after a comma is. -/
theorem foldlM_step_firstName (member : StringLiteral × Document)
    (members : List (StringLiteral × Document)) (stack : List Frame) (rest : List Token) :
    (memberTokens (member :: members) ++ rest).foldlM step (.firstName stack) =
      (memberTokens (member :: members) ++ rest).foldlM step (.name [] stack) := by
  cases members <;> simp only [memberTokens, List.cons_append, List.foldlM_cons, step]

/-- From any stack the machine takes the tokens of a document for that complete value. -/
theorem foldlM_step_tokens (document : Document) : document.Assembles := by
  induction document using induction with
  | scalar s =>
    intro stack rest
    simp only [tokens, List.cons_append, List.nil_append, List.foldlM_cons, step, beginValue,
      Option.bind_eq_bind, Option.bind_some]
  | array items ih =>
    intro stack rest
    simp only [tokens, List.cons_append, List.append_assoc, List.nil_append, List.foldlM_cons,
      step, beginValue, Option.bind_eq_bind, Option.bind_some]
    cases items with
    | nil =>
      simp only [itemTokens, List.nil_append, List.foldlM_cons, step, Option.bind_eq_bind,
        Option.bind_some]
    | cons item items =>
      have first : (itemTokens (item :: items) ++ .closeArray :: rest).foldlM step
          (.firstItem stack) = (itemTokens (item :: items) ++ .closeArray :: rest).foldlM step
          (.value (.items [] :: stack)) := by
        cases items with
        | nil => exact foldlM_step_firstItem item stack _
        | cons next items =>
          simp only [itemTokens, List.append_assoc]
          exact foldlM_step_firstItem item stack _
      rw [first, foldlM_step_itemTokens items item ih]
      rfl
  | object members ih =>
    intro stack rest
    simp only [tokens, List.cons_append, List.append_assoc, List.nil_append, List.foldlM_cons,
      step, beginValue, Option.bind_eq_bind, Option.bind_some]
    cases members with
    | nil =>
      simp only [memberTokens, List.nil_append, List.foldlM_cons, step, Option.bind_eq_bind,
        Option.bind_some]
    | cons member members =>
      rw [foldlM_step_firstName, foldlM_step_memberTokens members member ih]
      rfl

/-- Every document is put together from its tokens. -/
theorem ofTokens?_tokens (document : Document) : ofTokens? document.tokens = some document := by
  have taken := foldlM_step_tokens document [] []
  rw [List.append_nil] at taken
  rw [ofTokens?, taken]
  rfl

end Courier.Json.Document
