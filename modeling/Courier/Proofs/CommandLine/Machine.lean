import Courier.Proofs.CommandLine.Grammar

/-!
# The machine and the grammar

Between parts the machine takes the arguments of a part as that part
(`State.foldlM_step_of_spelled`), so arguments that are made of parts are taken as these parts
(`State.foldlM_step_of_madeOf`). It takes nothing else: arguments that it takes to their end are
made of parts (`State.madeOf_of_foldlM_step`).
-/
namespace Courier.CommandLine

namespace State

variable {state next : State}

/-- The name of an option is that option, with a value or without one. -/
theorem long_name (option : NumberOption) (text : Option String) :
    state.long option.name text =
      match text with
      | some text => state.value option text
      | none =>
        if (state.numbers.get option).isSome
        then .error (.usage (.repeated ("--" ++ option.name)))
        else .ok { state with waiting := some option } := by
  have known : NumberOption.ofName? option.name = some option :=
    NumberOption.ofName?_eq_some_iff.2 rfl
  unfold long
  rw [known]
  cases text <;> rfl

/-- A name that stands for no option is taken only if it is that of the flag, which has no value. -/
theorem long_eq_ok_iff_of_not_option {name : String} {text : Option String}
    (other : NumberOption.ofName? name = none) :
    state.long name text = .ok next ↔
      name = "verbose" ∧ text = none ∧ state.take .verbose = .ok next := by
  unfold long take
  rw [other]
  cases text with
  | some value =>
    dsimp only
    split <;> simp
  | none =>
    by_cases help : name = "help"
    · simp [help]
    · by_cases version : name = "version"
      · simp [version]
      · by_cases verbose : name = "verbose"
        · simp [verbose]
        · simp [help, version, verbose]

/-- An argument of two dashes and more: a name up to an equals sign, and a value behind it. -/
theorem free_of_dashes {argument : String} {rest : List Char}
    (shape : argument.toList = '-' :: '-' :: rest) (more : rest ≠ []) :
    state.free argument =
      match rest.dropWhile (· ≠ '=') with
      | _ :: text =>
        state.long (String.ofList (rest.takeWhile (· ≠ '='))) (some (String.ofList text))
      | [] => state.long (String.ofList (rest.takeWhile (· ≠ '='))) none := by
  unfold free
  rw [shape]
  cases rest with
  | nil => exact absurd rfl more
  | cons c rest => rfl

/-- An argument of one dash and more: letters, one after another. -/
theorem free_of_dash {argument : String} {letters : List Char}
    (shape : argument.toList = '-' :: letters) (more : letters ≠ [])
    (single : letters.head? ≠ some '-') : state.free argument = letters.foldlM short state := by
  unfold free
  rw [shape]
  cases letters with
  | nil => exact absurd rfl more
  | cons letter letters =>
    split
    all_goals
      rename_i same
    · exact absurd (congrArg (·.tail.head?) same) single
    · exact absurd (congrArg (·.tail.head?) same) single
    · exact nomatch same
    · rw [(List.cons.inj same).2]
    · exact absurd rfl (same _)

/-- The name of an option holds no equals sign. -/
theorem takeWhile_name (option : NumberOption) (rest : List Char)
    (ends : rest.head? = none ∨ rest.head? = some '=') :
    (option.name.toList ++ rest).takeWhile (· ≠ '=') = option.name.toList ∧
      (option.name.toList ++ rest).dropWhile (· ≠ '=') = rest := by
  have inside : ∀ c ∈ option.name.toList, decide (c ≠ '=') = true := by
    cases option <;> exact List.all_eq_true.1 rfl
  rw [List.takeWhile_append_of_pos inside, List.dropWhile_append_of_pos inside]
  cases rest with
  | nil => simp
  | cons c rest =>
    obtain rfl : c = '=' := by simpa using ends
    simp

/-- An argument of two dashes and the name of an option. -/
theorem free_option (option : NumberOption) :
    state.free ("--" ++ option.name) = state.long option.name none := by
  have shape : ("--" ++ option.name).toList = '-' :: '-' :: (option.name.toList ++ []) := by
    simp
  have more : option.name.toList ++ [] ≠ [] := by
    cases option <;> decide
  obtain ⟨front, back⟩ := takeWhile_name option [] (.inl rfl)
  rw [free_of_dashes shape more, back, front, String.ofList_toList]

/-- An argument of two dashes, the name of an option, an equals sign and a value. -/
theorem free_option_value (option : NumberOption) (text : String) :
    state.free ("--" ++ option.name ++ "=" ++ text) = state.long option.name (some text) := by
  have shape : ("--" ++ option.name ++ "=" ++ text).toList =
      '-' :: '-' :: (option.name.toList ++ '=' :: text.toList) := by
    simp
  have more : option.name.toList ++ '=' :: text.toList ≠ [] := by
    simp
  obtain ⟨front, back⟩ := takeWhile_name option ('=' :: text.toList) (.inr rfl)
  rw [free_of_dashes shape more, back, front]
  dsimp only
  rw [String.ofList_toList, String.ofList_toList]

/-- An argument that begins with no dash, or is nothing but one, is a positional. -/
theorem free_of_undashed {argument : String}
    (undashed : argument.toList.head? ≠ some '-' ∨ argument = "-") :
    state.free argument = state.positional argument := by
  rcases undashed with undashed | rfl
  · unfold free
    split
    all_goals
      rename_i dashed
    · exact absurd (congrArg List.head? dashed) undashed
    · exact absurd (congrArg List.head? dashed) undashed
    · rfl
    · exact absurd (congrArg List.head? dashed) undashed
    · rfl
  · rfl

/-- What an argument is that the machine takes where no option waits: the marker, a part by itself,
or the name of an option that has no number yet. -/
inductive Takes (state : State) : String → State → Prop where
  /-- The marker. -/
  | marker : Takes state "--" { state with plain := true }
  /-- A part. -/
  | part {argument : String} {part : Part} {next : State} (spelled : part.Spelled [argument])
    (taken : state.take part = .ok next) : Takes state argument next
  /-- An option, the number of which is to follow. -/
  | option {option : NumberOption} (absent : state.numbers.get option = none) :
    Takes state ("--" ++ option.name) { state with waiting := some option }

/-- A long name that the machine takes is a part, or an option whose number is to follow. -/
theorem takes_of_long {argument : String} (name : String) (text : Option String)
    (shape : argument = "--" ++ name ++ (text.elim "" fun text => "=" ++ text))
    (taken : state.long name text = .ok next) : Takes state argument next := by
  cases known : NumberOption.ofName? name with
  | some option =>
    obtain rfl := NumberOption.ofName?_eq_some_iff.1 known
    rw [long_name] at taken
    cases text with
    | some text =>
      obtain ⟨value, ⟨numeral, enough⟩, taken⟩ := value_eq_ok_iff.1 taken
      have whole : argument = "--" ++ option.name ++ "=" ++ text := by
        rw [shape, Option.elim_some, String.append_assoc, String.append_assoc,
          String.append_assoc]
      rw [whole]
      exact .part (.joined numeral enough) taken
    | none =>
      have whole : argument = "--" ++ option.name := by
        rw [shape, Option.elim_none, String.append_empty]
      dsimp only at taken
      split at taken
      · exact nomatch taken
      · rename_i absent
        rw [Option.isSome_iff_ne_none, Decidable.not_not] at absent
        have after := Except.ok.inj taken
        rw [whole, ← after]
        exact .option absent
  | none =>
    obtain ⟨verbose, bare, taken⟩ := (long_eq_ok_iff_of_not_option known).1 taken
    have whole : argument = "--verbose" := by
      rw [shape, verbose, bare]
      rfl
    rw [whole]
    exact .part .long taken

/-- An argument of two dashes and more that the machine takes is a part, or an option whose number
is to follow. -/
theorem takes_of_dashes {argument : String} {rest : List Char}
    (shape : argument.toList = '-' :: '-' :: rest) (more : rest ≠ [])
    (taken : state.free argument = .ok next) : Takes state argument next := by
  have whole := List.takeWhile_append_dropWhile (p := (· ≠ '=')) (l := rest)
  rw [free_of_dashes shape more] at taken
  cases valued : rest.dropWhile (· ≠ '=') with
  | nil =>
    rw [valued] at taken
    apply takes_of_long _ none _ taken
    rw [valued, List.append_nil] at whole
    rw [whole, ← String.toList_inj, shape]
    simp
  | cons mark text =>
    rw [valued] at taken
    apply takes_of_long _ (some (String.ofList text)) _ taken
    have ended := List.head?_dropWhile_not (· ≠ '=') rest
    rw [valued] at ended
    obtain rfl : mark = '=' := by simpa using ended
    rw [valued] at whole
    generalize rest.takeWhile (· ≠ '=') = name at whole ⊢
    rw [← String.toList_inj, shape, ← whole]
    simp

/-- What the machine takes where no option waits. -/
theorem takes_of_free {argument : String} (taken : state.free argument = .ok next) :
    Takes state argument next := by
  by_cases undashed : argument.toList.head? ≠ some '-' ∨ argument = "-"
  · rw [free_of_undashed undashed] at taken
    exact .part (.positional undashed) taken
  · rw [not_or, Decidable.not_not] at undashed
    obtain ⟨dashed, more⟩ := undashed
    obtain ⟨letters, shape⟩ := List.head?_eq_some_iff.1 dashed
    have some_letter : letters ≠ [] := by
      rintro rfl
      exact more (String.toList_inj.1 shape)
    by_cases long : letters.head? = some '-'
    · obtain ⟨rest, rfl⟩ := List.head?_eq_some_iff.1 long
      by_cases bare : rest = []
      · subst bare
        obtain rfl : argument = "--" := String.toList_inj.1 shape
        have after : State.mk _ _ _ _ _ = next := Except.ok.inj taken
        rw [← after]
        exact .marker
      · exact takes_of_dashes shape bare taken
    · rw [free_of_dash shape some_letter long, foldlM_short_eq_ok_iff] at taken
      rcases taken with ⟨none, -⟩ | ⟨flag, quiet, after⟩
      · exact absurd none some_letter
      · have whole : argument = "-v" := by
          rw [← String.toList_inj, shape, flag]
          rfl
        rw [whole]
        exact .part .short (take_verbose_eq_ok_iff.2 ⟨quiet, after⟩)

/-- The value that a numeral gives is taken as the part that it is. -/
theorem value_of_numeral {option : NumberOption} {text : String} {value : UInt64}
    (numeral : Numeral text value) (enough : option.least ≤ value.toNat) :
    state.value option text = state.take (.setting option value) := by
  have read : option.value? text = some value :=
    NumberOption.value?_eq_some_iff.2 ⟨numeral, enough⟩
  unfold State.value take
  rw [read]

/-- A numeral begins with no dash. -/
theorem head?_ne_dash {text : String} {value : UInt64} (numeral : Numeral text value) :
    text.toList.head? ≠ some '-' := by
  obtain ⟨digits, written, filled, all, -⟩ := numeral
  intro dashed
  rcases written with plain | signed
  · rw [plain] at dashed
    have digit := all '-' (List.mem_of_mem_head? dashed)
    exact absurd digit (by decide)
  · rw [signed] at dashed
    exact absurd (Option.some.inj dashed) (by decide)

/-- The arguments of a part are taken as the part, however it is spelled. -/
theorem foldlM_step_of_spelled (between : state.Between) {part : Part} {words : List String}
    (spelled : part.Spelled words) : words.foldlM step state = state.take part := by
  have single (argument : String) : [argument].foldlM step state = state.free argument := by
    rw [List.foldlM_cons, between.step_eq]
    exact bind_pure _
  cases spelled with
  | positional undashed =>
    rw [single, free_of_undashed undashed]
    rfl
  | @apart option text value numeral enough =>
    rw [List.foldlM_cons, between.step_eq, free_option, long_name]
    cases given : (state.numbers.get option).isSome with
    | true =>
      simp only [↓reduceIte, take, given]
      rfl
    | false =>
      have undashed := head?_ne_dash numeral
      have waited : step { state with waiting := some option } text =
          state.take (.setting option value) := by
        rw [between.step_waiting, if_neg fun dashed => undashed dashed.1,
          value_of_numeral numeral enough]
        rfl
      rw [← waited]
      exact bind_pure (step { state with waiting := some option } text)
  | joined numeral enough =>
    rw [single, free_option_value, long_name]
    exact value_of_numeral numeral enough
  | short =>
    rw [single]
    have letter : ['v'].foldlM short state = state.short 'v' := bind_pure (state.short 'v')
    exact letter
  | long => exact single "--verbose"

/-- After the marker every argument is taken as a positional. -/
theorem foldlM_step_marked (texts : List String) (state : State) :
    texts.foldlM step { state with plain := true } =
      ((texts.map .positional).foldlM take state).map fun next => { next with plain := true } := by
  induction texts generalizing state with
  | nil => rfl
  | cons text texts ih =>
    have met : step { state with plain := true } text =
        (state.take (.positional text)).map fun next => { next with plain := true } := by
      change positional { state with plain := true } text = (state.positional text).map _
      unfold positional
      split <;> rfl
    rw [List.map_cons, List.foldlM_cons, List.foldlM_cons, met]
    cases state.take (.positional text) with
    | error stop => rfl
    | ok next => exact ih next

/-- Arguments that the machine takes after the marker are taken as positionals. -/
theorem exists_take_of_marked {texts : List String} {last : State}
    (taken : texts.foldlM step { state with plain := true } = .ok last) :
    ∃ next, (texts.map .positional).foldlM take state = .ok next ∧
      last = { next with plain := true } := by
  rw [foldlM_step_marked] at taken
  cases positionals : (texts.map .positional).foldlM take state with
  | error stop =>
    rw [positionals] at taken
    exact nomatch taken
  | ok next =>
    rw [positionals] at taken
    exact ⟨next, rfl, (Except.ok.inj taken).symm⟩

/-- Arguments that are made of parts are taken as these parts, up to whether the marker is met. -/
theorem foldlM_step_of_madeOf {arguments : List String} {parts : List Part}
    (made : MadeOf arguments parts) (between : state.Between)
    (taken : parts.foldlM take state = .ok next) :
    ∃ plain, arguments.foldlM step state = .ok { next with plain } := by
  induction made generalizing state with
  | nil =>
    obtain rfl : state = next := Except.ok.inj taken
    exact ⟨state.plain, rfl⟩
  | @cons words rest part parts spelled later ih =>
    rw [List.foldlM_cons, bind_eq_ok_iff] at taken
    obtain ⟨middle, first, others⟩ := taken
    obtain ⟨plain, reached⟩ := ih (between.of_take first) others
    refine ⟨plain, ?_⟩
    rw [List.foldlM_append, foldlM_step_of_spelled between spelled, first]
    exact reached
  | marker texts =>
    have met : step state "--" = .ok { state with plain := true } := by
      rw [between.step_eq]
      rfl
    refine ⟨true, ?_⟩
    rw [List.foldlM_cons, met]
    change texts.foldlM step { state with plain := true } = _
    rw [foldlM_step_marked, taken]
    rfl

/-- An argument that the machine takes where an option waits completes the part. -/
theorem take_of_step_waiting (between : state.Between) {option : NumberOption}
    (absent : state.numbers.get option = none) {text : String}
    (taken : step { state with waiting := some option } text = .ok next) :
    ∃ value, (Numeral text value ∧ option.least ≤ value.toNat) ∧
      state.take (.setting option value) = .ok next := by
  rw [between.step_waiting] at taken
  split at taken
  · exact nomatch taken
  · obtain ⟨value, fits, took⟩ := value_eq_ok_iff.1 taken
    have after := (take_setting_eq_ok_iff.1 took).2
    exact ⟨value, fits, take_setting_eq_ok_iff.2 ⟨absent, after⟩⟩

/-- Arguments that the machine takes to their end are made of parts. -/
theorem madeOf_of_foldlM_step {arguments : List String} {last : State} (between : state.Between)
    (taken : arguments.foldlM step state = .ok last) (ended : last.waiting = none) :
    ∃ parts next, MadeOf arguments parts ∧ parts.foldlM take state = .ok next ∧
      last = { next with plain := last.plain } := by
  -- A part takes up one argument or two, so the induction is on their number.
  induction size : arguments.length using Nat.strongRecOn generalizing arguments state with
  | ind count ih =>
    cases arguments with
    | nil =>
      obtain rfl : state = last := Except.ok.inj taken
      exact ⟨[], state, .nil, rfl, rfl⟩
    | cons argument rest =>
      have shorter : rest.length < count := by
        rw [← size, List.length_cons]
        omega
      rw [List.foldlM_cons, bind_eq_ok_iff] at taken
      obtain ⟨middle, first, others⟩ := taken
      rw [between.step_eq] at first
      cases takes_of_free first with
      | marker =>
        obtain ⟨next, positionals, same⟩ := exists_take_of_marked others
        refine ⟨_, next, .marker rest, positionals, ?_⟩
        rw [same]
      | @part _ part _ spelled took =>
        obtain ⟨parts, next, made, later, same⟩ :=
          ih rest.length shorter (between.of_take took) others rfl
        refine ⟨part :: parts, next, .cons spelled made, ?_, same⟩
        rw [List.foldlM_cons, took]
        exact later
      | @option option absent =>
        cases rest with
        | nil =>
          have same := Except.ok.inj others
          rw [← same] at ended
          exact nomatch ended
        | cons text rest =>
          rw [List.foldlM_cons, bind_eq_ok_iff] at others
          obtain ⟨after, second, others⟩ := others
          obtain ⟨value, ⟨numeral, enough⟩, took⟩ := take_of_step_waiting between absent second
          have fewer : rest.length < count := by
            rw [List.length_cons] at shorter
            omega
          obtain ⟨parts, next, made, later, same⟩ :=
            ih rest.length fewer (between.of_take took) others rfl
          refine ⟨.setting option value :: parts, next, .cons (.apart numeral enough) made, ?_,
            same⟩
          rw [List.foldlM_cons, took]
          exact later

end State

end Courier.CommandLine
