import Courier.Proofs.HelpFlags

/-!
# The grammar of the command line

What a command line is made of, said without the machine that reads it. A part is a positional, a
number for an option or the flag that asks for every event in the log (`Part`), and each is spelled
in one of a few ways (`Part.Spelled`). A command line is a row of spelled parts; after the marker
`--` there are only positionals (`MadeOf`). What the machine makes of a part does not depend on how
it is spelled (`State.take`).
-/
namespace Courier.CommandLine

/-- Whether a text is the numeral of a number of 64 bits: decimal digits, one at least, and a plus
sign before them or not. -/
def Numeral (text : String) (value : UInt64) : Prop :=
  ∃ digits, (text.toList = digits ∨ text.toList = '+' :: digits) ∧ digits ≠ [] ∧
    (∀ c ∈ digits, c.isDigit = true) ∧ Decimal.digitsValue digits = value.toNat

/-- What the digits behind a sign come to. -/
theorem number?_of_digits {text : String} {digits : List Char}
    (written : text.toList = '+' :: digits ∨ text.toList = digits ∧ digits.head? ≠ some '+')
    (value : UInt64) :
    number? text = some value ↔ digits ≠ [] ∧ (∀ c ∈ digits, c.isDigit = true) ∧
      Decimal.digitsValue digits = value.toNat := by
  have shape : number? text =
      if digits.isEmpty || !digits.all Char.isDigit then none
      else if Decimal.digitsValue digits < UInt64.size
        then some (UInt64.ofNat (Decimal.digitsValue digits)) else none := by
    unfold number?
    rcases written with signed | ⟨plain, unsigned⟩
    · simp only [signed]
    · rw [plain]
      split
      · exact absurd rfl unsigned
      · rfl
  rw [shape]
  constructor
  · intro found
    split at found
    · exact nomatch found
    · rename_i sound
      simp only [Bool.or_eq_true, List.isEmpty_iff, Bool.not_eq_true', not_or,
        Bool.not_eq_false, List.all_eq_true] at sound
      split at found
      · rename_i small
        have exact : (UInt64.ofNat (Decimal.digitsValue digits)).toNat =
            Decimal.digitsValue digits := UInt64.toNat_ofNat_of_lt' small
        have same := Option.some.inj found
        rw [same] at exact
        exact ⟨sound.1, sound.2, exact.symm⟩
      · exact nomatch found
  · intro ⟨filled, all, exact⟩
    have small : Decimal.digitsValue digits < UInt64.size := by
      rw [exact]
      exact value.toNat_lt
    have sound : (digits.isEmpty || !digits.all Char.isDigit) = false := by
      simpa [filled] using all
    rw [sound, if_pos small, exact, UInt64.ofNat_toNat]
    rfl

/-- The number that a text spells is the one that it is the numeral of. -/
theorem number?_eq_some_iff {text : String} {value : UInt64} :
    number? text = some value ↔ Numeral text value := by
  constructor
  · intro found
    by_cases signed : text.toList.head? = some '+'
    · obtain ⟨digits, written⟩ : ∃ digits, text.toList = '+' :: digits :=
        List.head?_eq_some_iff.1 signed
      exact ⟨digits, .inr written, (number?_of_digits (.inl written) value).1 found⟩
    · exact ⟨text.toList, .inl rfl, (number?_of_digits (.inr ⟨rfl, signed⟩) value).1 found⟩
  · intro ⟨digits, written, filled, all, exact⟩
    have unsigned : digits.head? ≠ some '+' := by
      intro first
      have digit := all '+' (List.mem_of_mem_head? first)
      exact absurd digit (by decide)
    have shape : text.toList = '+' :: digits ∨ text.toList = digits ∧ digits.head? ≠ some '+' :=
      written.symm.imp_right fun plain => ⟨plain, unsigned⟩
    exact (number?_of_digits shape value).2 ⟨filled, all, exact⟩

/-- The numbers that an option takes from a text are those that reach its least one. -/
theorem NumberOption.value?_eq_some_iff {option : NumberOption} {text : String} {value : UInt64} :
    option.value? text = some value ↔ Numeral text value ∧ option.least ≤ value.toNat := by
  unfold NumberOption.value?
  rw [Option.filter_eq_some_iff, number?_eq_some_iff, decide_eq_true_iff]

/-- The names of options are the ones that they are given by. -/
theorem NumberOption.ofName?_eq_some_iff {name : String} {option : NumberOption} :
    ofName? name = some option ↔ name = option.name := by
  constructor
  · intro known
    unfold ofName? at known
    split at known
    all_goals
      cases known
    all_goals rfl
  · rintro rfl
    cases option <;> rfl

/-- A part of a command line. -/
inductive Part where
  /-- A positional. -/
  | positional (text : String)
  /-- A number for an option. -/
  | setting (option : NumberOption) (value : UInt64)
  /-- The flag that asks for every event in the log. -/
  | verbose
  deriving DecidableEq, Repr

namespace Part

/-- Whether a part is spelled by arguments. A numeral never begins with a dash, so neither does
the separate value of an option. -/
inductive Spelled : Part → List String → Prop where
  /-- A positional begins with no dash, or is nothing but one. -/
  | positional {text : String} (undashed : text.toList.head? ≠ some '-' ∨ text = "-") :
    Spelled (.positional text) [text]
  /-- An option, and its number as the next argument. -/
  | apart {option : NumberOption} {text : String} {value : UInt64} (numeral : Numeral text value)
    (enough : option.least ≤ value.toNat) :
    Spelled (.setting option value) ["--" ++ option.name, text]
  /-- An option and its number in one argument. -/
  | joined {option : NumberOption} {text : String} {value : UInt64} (numeral : Numeral text value)
    (enough : option.least ≤ value.toNat) :
    Spelled (.setting option value) ["--" ++ option.name ++ "=" ++ text]
  /-- The letter of the flag. -/
  | short : Spelled .verbose ["-v"]
  /-- Its name. -/
  | long : Spelled .verbose ["--verbose"]

/-- The positional that a part is. -/
def text? : Part → Option String
  | .positional text => some text
  | _ => none

/-- The number that a part gives for an option. -/
def number? (option : NumberOption) : Part → Option UInt64
  | .setting other value => if other = option then some value else none
  | _ => none

/-- Whether a part is the flag that asks for every event in the log. -/
def isVerbose : Part → Bool
  | .verbose => true
  | _ => false

end Part

/-- Whether arguments are made of parts, one after another. After the marker every argument is a
positional. -/
inductive MadeOf : List String → List Part → Prop where
  /-- There is nothing more. -/
  | nil : MadeOf [] []
  /-- A part, and then others. -/
  | cons {words rest : List String} {part : Part} {parts : List Part}
    (spelled : part.Spelled words) (later : MadeOf rest parts) :
    MadeOf (words ++ rest) (part :: parts)
  /-- The marker, and then positionals. -/
  | marker (texts : List String) : MadeOf ("--" :: texts) (texts.map .positional)

namespace State

/-- The state after a part, however the part is spelled. -/
def take (state : State) : Part → Except Stop State
  | .positional text => state.positional text
  | .setting option value =>
    if (state.numbers.get option).isSome then .error (.usage (.repeated ("--" ++ option.name)))
    else .ok { state with numbers := state.numbers.set value option, waiting := none }
  | .verbose => state.beVerbose

/-- Whether the machine stands between parts. -/
structure Between (state : State) : Prop where
  /-- No option waits for its value. -/
  idle : state.waiting = none
  /-- The marker has not been met. -/
  unmarked : state.plain = false

variable {state next : State}

/-- Between parts an argument is taken as it is where no option waits. -/
theorem Between.step_eq (between : state.Between) (argument : String) :
    state.step argument = state.free argument := by
  unfold step
  rw [between.unmarked, between.idle]
  rfl

/-- An argument is the value of the option that waits, unless it begins with a dash and is more than
that. -/
theorem Between.step_waiting (between : state.Between) (option : NumberOption) (text : String) :
    step { state with waiting := some option } text =
      if text.toList.head? = some '-' ∧ text ≠ "-" then .error (.usage (.missingValue option))
      else value { state with waiting := some option } option text := by
  have unmarked : ¬state.plain = true := by
    rw [between.unmarked]
    exact Bool.false_ne_true
  unfold step
  rw [if_neg unmarked]

/-- A positional is taken while there is room for it. -/
theorem take_positional_eq_ok_iff {text : String} :
    state.take (.positional text) = .ok next ↔ state.positionals.length < maxPositionals ∧
      next = { state with positionals := text :: state.positionals } := by
  unfold take positional
  by_cases room : state.positionals.length < maxPositionals
  · simp [room, eq_comm]
  · simp [room]

/-- A number is taken for an option that has none. -/
theorem take_setting_eq_ok_iff {option : NumberOption} {value : UInt64} :
    state.take (.setting option value) = .ok next ↔ state.numbers.get option = none ∧
      next = { state with numbers := state.numbers.set value option, waiting := none } := by
  unfold take
  cases given : (state.numbers.get option).isSome with
  | false =>
    rw [Option.isSome_eq_false_iff, Option.isNone_iff_eq_none] at given
    simp [given, eq_comm]
  | true =>
    have present : state.numbers.get option ≠ none := Option.isSome_iff_ne_none.1 given
    simp [given, present]

/-- The flag for detail is taken exactly if it was not taken before. -/
theorem take_verbose_eq_ok_iff :
    state.take .verbose = .ok next ↔
      state.verbose = false ∧ next = { state with verbose := true } := by
  unfold take beVerbose
  cases loud : state.verbose with
  | false => simp [eq_comm]
  | true => simp

/-- The machine stands between parts after a part that it takes there. -/
theorem Between.of_take (between : state.Between) {part : Part}
    (taken : state.take part = .ok next) : next.Between := by
  cases part with
  | positional text =>
    have after := (take_positional_eq_ok_iff.1 taken).2
    rw [after]
    exact ⟨between.idle, between.unmarked⟩
  | setting option value =>
    have after := (take_setting_eq_ok_iff.1 taken).2
    rw [after]
    exact ⟨rfl, between.unmarked⟩
  | verbose =>
    have after := (take_verbose_eq_ok_iff.1 taken).2
    rw [after]
    exact ⟨between.idle, between.unmarked⟩

/-- The machine stands between parts after any number of parts that it takes there. -/
theorem Between.of_foldlM_take {parts : List Part} (between : state.Between)
    (taken : parts.foldlM take state = .ok next) : next.Between := by
  induction parts generalizing state with
  | nil =>
    have same := Except.ok.inj taken
    rw [← same]
    exact between
  | cons part parts ih =>
    rw [List.foldlM_cons, bind_eq_ok_iff] at taken
    obtain ⟨middle, first, others⟩ := taken
    exact ih (between.of_take first) others

/-- The value of an option is taken as the part that it is. -/
theorem value_eq_ok_iff {option : NumberOption} {text : String} :
    state.value option text = .ok next ↔
      ∃ value, (Numeral text value ∧ option.least ≤ value.toNat) ∧
        state.take (.setting option value) = .ok next := by
  unfold value take
  by_cases given : (state.numbers.get option).isSome = true
  · simp [given]
  · simp only [given, Bool.false_eq_true, ↓reduceIte, ← NumberOption.value?_eq_some_iff]
    cases option.value? text with
    | none => simp
    | some value => simp

end State

end Courier.CommandLine
