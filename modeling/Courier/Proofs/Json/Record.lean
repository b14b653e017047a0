import Courier.Json.Reader

/-!
# Records

What a record says of its fields. A document is a record if it is an object that names no field
twice or an array with no more items than there are fields (`Record.Sound`), and then each field has
a document or none (`Record.value?`). That is all that a reader learns (`Record.fields?_of_sound`,
`Record.fields?_of_not_sound`).
-/
namespace Courier.Json.Record

/-- Whether a member has a name, as the text that its literal denotes. -/
def isNamed (field : String) (member : StringLiteral × Document) : Bool :=
  member.1.text? == some field

/-- A member has the name that its literal denotes, whatever it holds. -/
theorem isNamed_of_text? {name : StringLiteral} {field : String}
    (reads : name.text? = some field) (document : Document) :
    isNamed field (name, document) = true := by
  unfold isNamed
  rw [reads, beq_iff_eq]

/-- Whether a document is a record of fields. -/
def Sound (fields : List String) : Document → Prop
  | .scalar _ => False
  | .array items => items.length ≤ fields.length
  | .object members =>
    (∀ member ∈ members, member.1.text?.isSome = true) ∧
      ∀ field ∈ fields, members.countP (isNamed field) ≤ 1

/-- The document of a field: that of the first member with its name, or the item at its place. -/
def value? (fields : List String) : Document → String → Option Document
  | .scalar _, _ => none
  | .array items, field => (fields.idxOf? field).bind (items[·]?)
  | .object members, field => (members.find? (isNamed field)).map (·.2)

/-- The names of members are found if each denotes a text, and then each member is named as it is
spelled. -/
theorem named?_of_forall {members : List (StringLiteral × Document)}
    (texts : ∀ member ∈ members, member.1.text?.isSome = true) :
    ∃ read, named? members = some read ∧ ∀ field,
      find? read field = (members.find? (isNamed field)).map (·.2) ∧
      (read.countP fun member => member.1 == field) = members.countP (isNamed field) := by
  induction members with
  | nil => exact ⟨[], rfl, fun field => ⟨rfl, rfl⟩⟩
  | cons member rest ih =>
    obtain ⟨name, document⟩ := member
    have spelled := texts (name, document) List.mem_cons_self
    obtain ⟨text, spelled⟩ := Option.isSome_iff_exists.1 spelled
    have spelled : name.text? = some text := spelled
    obtain ⟨read, others, same⟩ := ih fun member listed => texts member (.tail _ listed)
    refine ⟨(text, document) :: read, ?_, fun field => ?_⟩
    · rw [named?, spelled, others]
      rfl
    · obtain ⟨found, counted⟩ := same field
      have alike : isNamed field (name, document) = (text == field) := by
        unfold isNamed
        rw [spelled]
        rfl
      constructor
      · unfold find? at found ⊢
        rw [List.find?_cons, List.find?_cons, alike]
        cases text == field with
        | true => rfl
        | false => exact found
      · rw [List.countP_cons, List.countP_cons, alike, counted]

/-- Members that have names have texts for them. -/
theorem forall_of_named? {members : List (StringLiteral × Document)}
    {read : List (String × Document)} (named : named? members = some read) :
    ∀ member ∈ members, member.1.text?.isSome = true := by
  induction members generalizing read with
  | nil => exact fun _ listed => absurd listed List.not_mem_nil
  | cons member rest ih =>
    obtain ⟨name, document⟩ := member
    unfold named? at named
    cases spelled : name.text? with
    | none =>
      rw [spelled] at named
      exact nomatch named
    | some text =>
      cases others : named? rest with
      | none =>
        rw [spelled, others] at named
        exact nomatch named
      | some read =>
        intro member listed
        cases listed with
        | head => exact Option.isSome_iff_exists.2 ⟨text, spelled⟩
        | tail _ later => exact ih others member later

variable {fields : List String} {document : Document}

/-- A reader learns what a record says of its fields. -/
theorem fields?_of_sound (sound : Sound fields document) :
    fields? fields document = some (value? fields document) := by
  cases document with
  | scalar s => exact absurd sound id
  | array items =>
    exact if_pos sound
  | object members =>
    obtain ⟨texts, once⟩ := sound
    obtain ⟨read, named, same⟩ := named?_of_forall texts
    have few : fields.all (atMostOnce read) = true := by
      rw [List.all_eq_true]
      intro field known
      unfold atMostOnce
      rw [decide_eq_true_iff, (same field).2]
      exact once field known
    have found : find? read = value? fields (.object members) := by
      funext field
      exact (same field).1
    show (named? members >>= fun read => if fields.all (atMostOnce read) = true then _ else _) = _
    rw [named]
    show (if fields.all (atMostOnce read) = true then some (find? read) else none) = _
    rw [if_pos few, found]

/-- The reader learns nothing of the fields from a document that is no record. -/
theorem fields?_of_not_sound (unsound : ¬Sound fields document) :
    fields? fields document = none := by
  cases document with
  | scalar s => rfl
  | array items =>
    exact if_neg unsound
  | object members =>
    cases named : named? members with
    | none =>
      show (named? members >>= _) = _
      rw [named]
      rfl
    | some read =>
      have texts := forall_of_named? named
      obtain ⟨others, also, same⟩ := named?_of_forall texts
      have one : others = read := Option.some.inj (also.symm.trans named)
      rw [one] at same
      have many : ¬fields.all (atMostOnce read) = true := by
        intro few
        rw [List.all_eq_true] at few
        apply unsound
        refine ⟨texts, fun field known => ?_⟩
        have once := few field known
        unfold atMostOnce at once
        rw [decide_eq_true_iff, (same field).2] at once
        exact once
      show (named? members >>= fun read => if fields.all (atMostOnce read) = true then _ else _) = _
      rw [named]
      show (if fields.all (atMostOnce read) = true then some (find? read) else none) = _
      rw [if_neg many]

end Courier.Json.Record
