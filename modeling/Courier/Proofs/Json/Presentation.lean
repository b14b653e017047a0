import Courier.Proofs.Json.Record

/-!
# Presentations of a record

The same fields can be presented in many ways (`Record.Restates`): members in another order, members
of other names among them, absent fields spelled out as `null`, and the fields listed as an array.
Such a change makes no difference to what the fields hold, but for that between an absent field and
`null` (`Record.Restates.agree`). An object that names a field twice is no record
(`Record.Repeats.not_sound`).
-/
namespace Courier.Json.Record

variable {fields : List String}

/-- The document of a field, where `null` is as good as nothing. -/
def solid : Option Document → Option Document
  | some (.scalar .null) => none
  | found => found

/-- Whether two documents say the same of fields, an absent one being as good as `null`. -/
structure Agree (fields : List String) (first second : Document) : Prop where
  /-- Both are records, or neither is. -/
  sound : Sound fields first ↔ Sound fields second
  /-- The fields hold the same. -/
  value : Sound fields first → ∀ field ∈ fields,
    solid (value? fields first field) = solid (value? fields second field)

/-- Whether one document presents fields as another does, up to a single change. -/
inductive Restates (fields : List String) : Document → Document → Prop where
  /-- The members stand in another order. -/
  | permuted {members others : List (StringLiteral × Document)} (same : members.Perm others) :
    Restates fields (.object members) (.object others)
  /-- There is one more member, which has another name than the fields and holds anything. -/
  | padded {before after : List (StringLiteral × Document)} {name : StringLiteral} {text : String}
    (reads : name.text? = some text) (unknown : text ∉ fields) (document : Document) :
    Restates fields (.object (before ++ after)) (.object (before ++ (name, document) :: after))
  /-- An absent field is there and holds `null`. -/
  | nulled {before after : List (StringLiteral × Document)} {name : StringLiteral}
    {field : String} (reads : name.text? = some field)
    (absent : ∀ member ∈ before ++ after, member.1.text? ≠ some field) :
    Restates fields (.object (before ++ after))
      (.object (before ++ (name, .scalar .null) :: after))
  /-- The members, which are fields that are there once, are listed in the order of the fields, with
  `null` for those that are absent, less absent ones at the end. -/
  | listed {members : List (StringLiteral × Document)} {count : Nat}
    (known : ∀ member ∈ members, ∃ field ∈ fields, member.1.text? = some field)
    (once : (members.map (·.1.text?)).Nodup)
    (absent : ∀ field ∈ fields.drop count, ∀ member ∈ members, member.1.text? ≠ some field) :
    Restates fields (.object members) (.array ((fields.take count).map fun field =>
      (value? fields (.object members) field).getD (.scalar .null)))

/-- What is found of a kind that is there once at most does not depend on the order. -/
theorem find?_of_perm {α : Type} {things others : List α} {kind : α → Bool}
    (same : things.Perm others) (once : things.countP kind ≤ 1) :
    things.find? kind = others.find? kind := by
  have kept : (things.filter kind).Perm (others.filter kind) := same.filter kind
  rw [List.countP_eq_length_filter] at once
  rw [← List.head?_filter, ← List.head?_filter]
  match things.filter kind, others.filter kind, kept, once with
  | [], _, kept, _ =>
    rw [List.nil_perm.1 kept]
  | [_], _, kept, _ =>
    rw [List.singleton_perm.1 kept]

/-- A member changes nothing for fields that it does not name. -/
theorem insert_of_ne {before after : List (StringLiteral × Document)} {name : StringLiteral}
    {text field : String} (reads : name.text? = some text) (other : text ≠ field)
    (document : Document) :
    (before ++ (name, document) :: after).countP (isNamed field) =
        (before ++ after).countP (isNamed field) ∧
      (before ++ (name, document) :: after).find? (isNamed field) =
        (before ++ after).find? (isNamed field) := by
  have unnamed : ¬isNamed field (name, document) = true := by
    unfold isNamed
    rw [reads, beq_iff_eq, Option.some.injEq]
    exact other
  constructor
  · rw [List.countP_append, List.countP_append, List.countP_cons_of_neg unnamed]
  · rw [List.find?_append, List.find?_append, List.find?_cons_of_neg unnamed]

/-- All members have texts for their names, with one more that has, exactly if the others do. -/
theorem forall_insert_iff {before after : List (StringLiteral × Document)} {name : StringLiteral}
    {text : String} (reads : name.text? = some text) (document : Document) :
    (∀ member ∈ before ++ (name, document) :: after, member.1.text?.isSome = true) ↔
      ∀ member ∈ before ++ after, member.1.text?.isSome = true := by
  have spelled : name.text?.isSome = true := Option.isSome_iff_exists.2 ⟨text, reads⟩
  constructor
  · intro all member listed
    rw [List.mem_append] at listed
    exact all member (List.mem_append.2 (listed.imp_right (.tail _)))
  · intro others member listed
    rw [List.mem_append, List.mem_cons] at listed
    rcases listed with early | same | late
    · exact others member (List.mem_append_left _ early)
    · rw [same]
      exact spelled
    · exact others member (List.mem_append_right _ late)

/-- Of a field that no member names there is nothing. -/
theorem find?_of_absent {members : List (StringLiteral × Document)} {field : String}
    (absent : ∀ member ∈ members, member.1.text? ≠ some field) :
    members.countP (isNamed field) = 0 ∧ members.find? (isNamed field) = none := by
  have unnamed : ∀ member ∈ members, ¬isNamed field member = true := by
    intro member listed
    unfold isNamed
    rw [beq_iff_eq]
    exact absent member listed
  exact ⟨List.countP_eq_zero.2 unnamed, List.find?_eq_none.2 unnamed⟩

/-- The order of members makes no difference. -/
theorem agree_of_perm {members others : List (StringLiteral × Document)}
    (same : members.Perm others) : Agree fields (.object members) (.object others) := by
  have texts : (∀ member ∈ members, member.1.text?.isSome = true) ↔
      ∀ member ∈ others, member.1.text?.isSome = true := by
    simp only [same.mem_iff]
  have counts : (∀ field ∈ fields, members.countP (isNamed field) ≤ 1) ↔
      ∀ field ∈ fields, others.countP (isNamed field) ≤ 1 := by
    simp only [same.countP_eq]
  refine ⟨and_congr texts counts, fun sound field known => ?_⟩
  show solid ((members.find? (isNamed field)).map _) =
    solid ((others.find? (isNamed field)).map _)
  rw [find?_of_perm same (sound.2 field known)]

/-- A member that names none of the fields makes no difference. -/
theorem agree_of_unknown {before after : List (StringLiteral × Document)} {name : StringLiteral}
    {text : String} (reads : name.text? = some text) (unknown : text ∉ fields)
    (document : Document) :
    Agree fields (.object (before ++ after)) (.object (before ++ (name, document) :: after)) := by
  have other (field : String) (known : field ∈ fields) : text ≠ field := by
    intro same
    rw [same] at unknown
    exact unknown known
  constructor
  · apply and_congr (forall_insert_iff reads document).symm
    apply forall_congr'
    intro field
    apply forall_congr'
    intro known
    rw [(insert_of_ne reads (other field known) document).1]
  · intro _ field known
    show solid (((before ++ after).find? (isNamed field)).map _) = solid (Option.map _ _)
    rw [(insert_of_ne reads (other field known) document).2]

/-- A member that is `null` makes no difference to a field that is absent without it. -/
theorem agree_of_null {before after : List (StringLiteral × Document)} {name : StringLiteral}
    {field : String} (reads : name.text? = some field)
    (absent : ∀ member ∈ before ++ after, member.1.text? ≠ some field) :
    Agree fields (.object (before ++ after))
      (.object (before ++ (name, .scalar .null) :: after)) := by
  have named : isNamed field (name, .scalar .null) = true := isNamed_of_text? reads _
  obtain ⟨count, found⟩ := find?_of_absent absent
  have one : (before ++ (name, .scalar .null) :: after).countP (isNamed field) = 1 := by
    rw [List.countP_append, List.countP_cons_of_pos named, ← Nat.add_assoc, ← List.countP_append,
      count]
  have null : (before ++ (name, .scalar .null) :: after).find? (isNamed field) =
      some (name, .scalar .null) := by
    rw [List.find?_append] at found ⊢
    rw [(Option.or_eq_none_iff.1 found).1, Option.none_or, List.find?_cons_of_pos named]
  constructor
  · apply and_congr (forall_insert_iff reads (.scalar .null)).symm
    apply forall_congr'
    intro other
    apply forall_congr'
    intro _
    by_cases same : field = other
    · rw [← same, count, one]
      exact ⟨fun _ => Nat.le_refl 1, fun _ => Nat.zero_le 1⟩
    · rw [(insert_of_ne reads same (.scalar .null)).1]
  · intro _ other _
    show solid (((before ++ after).find? (isNamed other)).map _) = solid (Option.map _ _)
    by_cases same : field = other
    · rw [← same, found, null]
      rfl
    · rw [(insert_of_ne reads same (.scalar .null)).2]

/-- Members that name fields, each another one, say of the fields what the array says that lists
them. -/
theorem agree_of_listed {members : List (StringLiteral × Document)} {count : Nat}
    (known : ∀ member ∈ members, ∃ field ∈ fields, member.1.text? = some field)
    (once : (members.map (·.1.text?)).Nodup)
    (absent : ∀ field ∈ fields.drop count, ∀ member ∈ members, member.1.text? ≠ some field) :
    Agree fields (.object members) (.array ((fields.take count).map fun field =>
      (value? fields (.object members) field).getD (.scalar .null))) := by
  have record : Sound fields (.object members) := by
    constructor
    · intro member listed
      obtain ⟨field, _, reads⟩ := known member listed
      exact Option.isSome_iff_exists.2 ⟨field, reads⟩
    · intro field _
      have few := List.nodup_iff_count.1 once (some field)
      rw [List.count_eq_countP, List.countP_map] at few
      exact few
  have short : ((fields.take count).map fun field =>
      (value? fields (.object members) field).getD (.scalar .null)).length ≤ fields.length := by
    rw [List.length_map, List.length_take]
    exact Nat.min_le_right count fields.length
  refine ⟨⟨fun _ => short, fun _ => record⟩, fun _ field mentioned => ?_⟩
  obtain ⟨place, first⟩ := Option.isSome_iff_exists.1 (List.isSome_idxOf?.2 mentioned)
  obtain ⟨inside, there, _⟩ := List.idxOf?_eq_some_iff.1 first
  have item : value? fields (.array ((fields.take count).map fun field =>
      (value? fields (.object members) field).getD (.scalar .null))) field =
      (fields.take count)[place]?.map fun field =>
        (value? fields (.object members) field).getD (.scalar .null) := by
    show (fields.idxOf? field).bind _ = _
    rw [first, Option.bind_some, List.getElem?_map]
  rw [item]
  by_cases early : place < count
  · have listed : (fields.take count)[place]? = some field := by
      rw [List.getElem?_take_of_lt early, List.getElem?_eq_getElem inside, there]
    rw [listed, Option.map_some]
    cases value? fields (.object members) field <;> rfl
  · have missing : (fields.take count)[place]? = none := by
      rw [List.getElem?_eq_none_iff, List.length_take]
      omega
    have late : field ∈ fields.drop count := by
      have reach : count + (place - count) = place := by omega
      rw [List.mem_iff_getElem?]
      refine ⟨place - count, ?_⟩
      rw [List.getElem?_drop, reach, List.getElem?_eq_getElem inside, there]
    have nothing := (find?_of_absent (absent field late)).2
    rw [missing]
    show solid ((members.find? (isNamed field)).map _) = _
    rw [nothing]
    rfl

/-- A presentation that is changed in one way says the same of the fields. -/
theorem Restates.agree {first second : Document} (restates : Restates fields first second) :
    Agree fields first second := by
  cases restates with
  | permuted same => exact agree_of_perm same
  | padded reads unknown document => exact agree_of_unknown reads unknown document
  | nulled reads absent => exact agree_of_null reads absent
  | listed known once absent => exact agree_of_listed known once absent

/-- A presentation is no `null`. -/
theorem Restates.ne_null {first second : Document} (restates : Restates fields first second) :
    first ≠ .scalar .null ∧ second ≠ .scalar .null := by
  cases restates <;> exact ⟨nofun, nofun⟩

/-- Whether a place in a document is that of a field: what the document is around what stands
there. -/
inductive Hole (fields : List String) (field : String) : (Document → Document) → Prop where
  /-- It is the value of a member with the name. -/
  | member {before after : List (StringLiteral × Document)} {name : StringLiteral}
    (reads : name.text? = some field) :
    Hole fields field fun document => .object (before ++ (name, document) :: after)
  /-- It is the item with the number of the field. -/
  | item {before after : List Document} (place : fields.idxOf? field = some before.length) :
    Hole fields field fun document => .array (before ++ document :: after)

namespace Hole

variable {field : String} {around : Document → Document}

/-- Whether a document is a record does not depend on what stands at one place. -/
theorem sound_iff (hole : Hole fields field around) (first second : Document) :
    Sound fields (around first) ↔ Sound fields (around second) := by
  cases hole with
  | @member before after name reads =>
    have texts :
        (∀ member ∈ before ++ (name, first) :: after, member.1.text?.isSome = true) ↔
          ∀ member ∈ before ++ (name, second) :: after, member.1.text?.isSome = true :=
      (forall_insert_iff reads first).trans (forall_insert_iff reads second).symm
    apply and_congr texts
    simp only [List.countP_append, List.countP_cons]
    exact Iff.rfl
  | @item before after place =>
    show (before ++ first :: after).length ≤ _ ↔ (before ++ second :: after).length ≤ _
    rw [List.length_append, List.length_append, List.length_cons, List.length_cons]

/-- A record holds of the field what stands at its place. -/
theorem value?_self (hole : Hole fields field around) (known : field ∈ fields)
    {document : Document} (sound : Sound fields (around document)) :
    value? fields (around document) field = some document := by
  cases hole with
  | @member before after name reads =>
    have named : isNamed field (name, document) = true := isNamed_of_text? reads document
    have once := sound.2 field known
    rw [List.countP_append, List.countP_cons_of_pos named] at once
    have none_before : before.countP (isNamed field) = 0 := by omega
    have nothing : before.find? (isNamed field) = none :=
      List.find?_eq_none.2 (List.countP_eq_zero.1 none_before)
    show Option.map _ ((before ++ (name, document) :: after).find? (isNamed field)) = _
    rw [List.find?_append, nothing, Option.none_or, List.find?_cons_of_pos named]
    rfl
  | @item before after place =>
    show (fields.idxOf? field).bind _ = _
    rw [place, Option.bind_some, List.getElem?_append_right (Nat.le_refl _), Nat.sub_self]
    rfl

/-- What it holds of another field does not depend on that. -/
theorem value?_of_ne (hole : Hole fields field around) {other : String} (differs : field ≠ other)
    (first second : Document) :
    value? fields (around first) other = value? fields (around second) other := by
  cases hole with
  | @member before after name reads =>
    show Option.map _ ((before ++ (name, first) :: after).find? (isNamed other)) =
      Option.map _ ((before ++ (name, second) :: after).find? (isNamed other))
    rw [(insert_of_ne reads differs first).2, (insert_of_ne reads differs second).2]
  | @item before after place =>
    show (fields.idxOf? other).bind _ = (fields.idxOf? other).bind _
    cases elsewhere : fields.idxOf? other with
    | none => rfl
    | some number =>
      obtain ⟨_, here, _⟩ := List.idxOf?_eq_some_iff.1 place
      obtain ⟨_, there, _⟩ := List.idxOf?_eq_some_iff.1 elsewhere
      rw [Option.bind_some, Option.bind_some]
      rcases Nat.lt_trichotomy number before.length with early | same | late
      · rw [List.getElem?_append_left early, List.getElem?_append_left early]
      · subst same
        exact absurd (here.symm.trans there) differs
      · rw [List.getElem?_append_right (Nat.le_of_lt late),
          List.getElem?_append_right (Nat.le_of_lt late)]
        obtain ⟨beyond, far⟩ : ∃ beyond, number - before.length = beyond + 1 :=
          Nat.exists_eq_succ_of_ne_zero (Nat.sub_ne_zero_of_lt late)
        rw [far, List.getElem?_cons_succ, List.getElem?_cons_succ]

end Hole

/-- Whether a document is an object that names one of the fields twice. -/
inductive Repeats (fields : List String) : Document → Prop where
  /-- Two members have the name, wherever they stand and whatever they hold. -/
  | intro {before between after : List (StringLiteral × Document)} {one two : StringLiteral}
    {field : String} (known : field ∈ fields) (reads : one.text? = some field)
    (also : two.text? = some field) (first second : Document) :
    Repeats fields
      (.object (before ++ (one, first) :: (between ++ (two, second) :: after)))

/-- An object that names a field twice is no record. -/
theorem Repeats.not_sound {document : Document} (repeats : Repeats fields document) :
    ¬Sound fields document := by
  intro sound
  cases repeats with
  | @intro before between after one two field known reads also first second =>
    have once := sound.2 field known
    rw [List.countP_append, List.countP_cons_of_pos (isNamed_of_text? reads first),
      List.countP_append, List.countP_cons_of_pos (isNamed_of_text? also second)] at once
    omega

end Courier.Json.Record
