import Courier.CommandLine
import Courier.Proofs.Results

/-!
# Asking for help

A command line comes to the help or the version exactly if a flag that asks for it is met before
anything is wrong (`read_help_or_version_iff`). Which arguments are such a flag depends on what has
been read: none is after `--`, none is the value of an option, and in a cluster of short flags only
a first `v` may stand before the letter.
-/
namespace Courier.CommandLine

/-- Whether a step of the machine stops because help or the version is asked for. -/
def Queries {α : Type} (outcome : Except Stop α) : Prop :=
  outcome = .error .help ∨ outcome = .error .version

/-- Whether letters behind one dash ask for help or the version: the letter comes first, or after
one request for every event in the log that is not a second one. -/
def ClusterAsks (verbose : Bool) (letters : List Char) : Prop :=
  ∃ before letter after, letters = before ++ letter :: after ∧
    (letter = 'h' ∨ letter = 'V') ∧ (before = [] ∨ before = ['v'] ∧ verbose = false)

/-- Whether an argument asks for help or the version after what has been read. -/
def IsHelpFlag (state : State) (argument : String) : Prop :=
  state.plain = false ∧ state.waiting = none ∧
    (argument = "--help" ∨ argument = "--version" ∨
      ∃ letters, argument.toList = '-' :: letters ∧ ClusterAsks state.verbose letters)

/-- Whether arguments ask for help or the version before anything is wrong. -/
def AsksForHelp (arguments : List String) : Prop :=
  ∃ before argument after state, arguments = before ++ argument :: after ∧
    before.foldlM State.step {} = .ok state ∧ IsHelpFlag state argument

section Queries

variable {α β : Type}

@[simp] theorem not_queries_ok (result : α) : ¬Queries (.ok result : Except Stop α) := by
  simp [Queries]

@[simp] theorem not_queries_pure (result : α) : ¬Queries (pure result : Except Stop α) :=
  not_queries_ok result

@[simp] theorem not_queries_usage (error : UsageError) :
    ¬Queries (.error (.usage error) : Except Stop α) := by
  simp [Queries]

@[simp] theorem not_queries_throw (error : UsageError) :
    ¬Queries (throw (.usage error) : Except Stop α) :=
  not_queries_usage error

@[simp] theorem queries_help : Queries (.error .help : Except Stop α) := .inl rfl

@[simp] theorem queries_version : Queries (.error .version : Except Stop α) := .inr rfl

/-- Of two steps the first asks, or the second does after the first has come to a result. -/
theorem queries_bind_iff {first : Except Stop α} {second : α → Except Stop β} :
    Queries (first >>= second) ↔
      Queries first ∨ ∃ between, first = .ok between ∧ Queries (second between) := by
  cases first <;> simp [Queries, bind, Except.bind]

/-- A list of steps asks if one of them does after those before it have come to a result. -/
theorem queries_foldlM_iff {step : β → α → Except Stop β} {inputs : List α} {state : β} :
    Queries (inputs.foldlM step state) ↔
      ∃ before input after between, inputs = before ++ input :: after ∧
        before.foldlM step state = .ok between ∧ Queries (step between input) := by
  unfold Queries
  rw [foldlM_eq_error_iff, foldlM_eq_error_iff]
  constructor
  · rintro (⟨before, input, after, between, split, passed, asks⟩ |
      ⟨before, input, after, between, split, passed, asks⟩)
    · exact ⟨before, input, after, between, split, passed, .inl asks⟩
    · exact ⟨before, input, after, between, split, passed, .inr asks⟩
  · rintro ⟨before, input, after, between, split, passed, asks | asks⟩
    · exact .inl ⟨before, input, after, between, split, passed, asks⟩
    · exact .inr ⟨before, input, after, between, split, passed, asks⟩

end Queries

namespace State

variable {state : State}

@[simp] theorem not_queries_positional (argument : String) :
    ¬Queries (state.positional argument) := by
  unfold positional
  split <;> simp

@[simp] theorem not_queries_value (option : NumberOption) (text : String) :
    ¬Queries (state.value option text) := by
  unfold value
  split
  · simp
  · split <;> simp

@[simp] theorem not_queries_beVerbose : ¬Queries state.beVerbose := by
  unfold beVerbose
  split <;> simp

@[simp] theorem not_queries_polls (environment : Option String) :
    ¬Queries (state.polls environment) := by
  unfold polls
  split
  · simp
  · simp
  · split <;> simp

/-- The end of the arguments asks for nothing. -/
theorem not_queries_finish (environment : Option String) :
    ¬Queries (state.finish environment) := by
  unfold finish
  cases state.waiting with
  | some option => simp [throw_bind]
  | none =>
    dsimp only
    rw [queries_bind_iff]
    rintro (polls | ⟨polls, -, rest⟩)
    · exact not_queries_polls environment polls
    · split at rest <;> simp at rest

/-- The long names that ask for help or the version take no value. -/
theorem queries_long_iff {name : String} {text : Option String} :
    Queries (state.long name text) ↔ text = none ∧ (name = "help" ∨ name = "version") := by
  have other {option : NumberOption} (known : NumberOption.ofName? name = some option) :
      ¬(name = "help" ∨ name = "version") := by
    rintro (rfl | rfl) <;> exact nomatch known
  unfold long
  cases known : NumberOption.ofName? name with
  | some option =>
    have unasked := other known
    cases text with
    | some value => simp
    | none =>
      dsimp only
      split <;> simp [unasked]
  | none =>
    cases text with
    | some value =>
      dsimp only
      split <;> simp
    | none =>
      by_cases help : name = "help"
      · simp [help]
      · by_cases version : name = "version"
        · simp [version]
        · dsimp only
          split <;> simp [help, version]

/-- The letters that ask for help or the version. -/
theorem queries_short_iff {letter : Char} :
    Queries (state.short letter) ↔ letter = 'h' ∨ letter = 'V' := by
  unfold short
  split
  · simp [*]
  · split
    · simp [*]
    · split <;> simp [*]

/-- The one letter that the machine goes on after is a first `v`. -/
theorem short_eq_ok_iff {letter : Char} {after : State} :
    state.short letter = .ok after ↔
      letter = 'v' ∧ state.verbose = false ∧ after = { state with verbose := true } := by
  unfold short beVerbose
  by_cases help : letter = 'h'
  · simp [help]
  · by_cases version : letter = 'V'
    · simp [version]
    · by_cases verbose : letter = 'v'
      · cases state.verbose <;> simp [verbose, eq_comm]
      · simp [help, version, verbose]

/-- A cluster that the machine goes on after has no letter, or is a first `v`. -/
theorem foldlM_short_eq_ok_iff {letters : List Char} {after : State} :
    letters.foldlM short state = .ok after ↔
      letters = [] ∧ after = state ∨
        letters = ['v'] ∧ state.verbose = false ∧ after = { state with verbose := true } := by
  match letters with
  | [] =>
    constructor
    · intro same
      exact .inl ⟨rfl, (Except.ok.inj same).symm⟩
    · rintro (⟨-, rfl⟩ | ⟨single, -⟩)
      · rfl
      · exact nomatch single
  | [letter] =>
    have alone : [letter].foldlM short state = state.short letter := bind_pure _
    rw [alone, short_eq_ok_iff]
    simp
  | first :: second :: rest =>
    simp only [List.foldlM_cons, bind_eq_ok_iff, short_eq_ok_iff]
    constructor
    · rintro ⟨between, ⟨-, -, rfl⟩, last, ⟨-, loud, -⟩, -⟩
      exact nomatch loud
    · rintro (⟨none, -⟩ | ⟨single, -⟩)
      · exact absurd none (List.cons_ne_nil _ _)
      · exact absurd (List.cons.inj single).2 (List.cons_ne_nil _ _)

/-- The clusters that ask for help or the version. -/
theorem queries_cluster_iff {letters : List Char} :
    Queries (letters.foldlM short state) ↔ ClusterAsks state.verbose letters := by
  rw [queries_foldlM_iff]
  constructor
  · rintro ⟨before, letter, after, between, split, passed, asks⟩
    refine ⟨before, letter, after, split, queries_short_iff.1 asks, ?_⟩
    rcases foldlM_short_eq_ok_iff.1 passed with ⟨none, -⟩ | ⟨single, quiet, -⟩
    · exact .inl none
    · exact .inr ⟨single, quiet⟩
  · rintro ⟨before, letter, after, split, asks, none | ⟨single, quiet⟩⟩
    · exact ⟨before, letter, after, _, split, foldlM_short_eq_ok_iff.2 (.inl ⟨none, rfl⟩),
        queries_short_iff.2 asks⟩
    · exact ⟨before, letter, after, _, split,
        foldlM_short_eq_ok_iff.2 (.inr ⟨single, quiet, rfl⟩), queries_short_iff.2 asks⟩

/-- No cluster that asks begins with another dash. -/
theorem not_clusterAsks_dash (verbose : Bool) (letters : List Char) :
    ¬ClusterAsks verbose ('-' :: letters) := by
  rintro ⟨before, letter, after, split, asks, rfl | ⟨rfl, -⟩⟩
  · obtain ⟨rfl, -⟩ := List.cons.inj split
    exact absurd asks (by decide)
  · exact absurd (List.cons.inj split).1 (by decide)

/-- The arguments that ask for help or the version where no option waits for its value. -/
theorem queries_free_iff {argument : String} :
    Queries (state.free argument) ↔
      argument = "--help" ∨ argument = "--version" ∨
        ∃ letters, argument.toList = '-' :: letters ∧ ClusterAsks state.verbose letters := by
  have help : argument = "--help" ↔ argument.toList = '-' :: '-' :: "help".toList :=
    String.toList_inj.symm
  have version : argument = "--version" ↔ argument.toList = '-' :: '-' :: "version".toList :=
    String.toList_inj.symm
  rw [help, version]
  unfold free
  split
  · rename_i dashes
    simp [dashes, not_clusterAsks_dash]
  · rename_i rest _ dashes
    have whole : rest.takeWhile (· ≠ '=') ++ rest.dropWhile (· ≠ '=') = rest :=
      List.takeWhile_append_dropWhile
    simp only [dashes, List.cons.injEq, true_and, exists_eq_left', not_clusterAsks_dash, or_false]
    cases value : rest.dropWhile (· ≠ '=') with
    | cons mark text =>
      dsimp only
      rw [queries_long_iff]
      constructor
      · rintro ⟨valued, -⟩
        exact nomatch valued
      · rintro (rfl | rfl) <;> exact nomatch value
    | nil =>
      rw [value, List.append_nil] at whole
      dsimp only
      rw [queries_long_iff, whole, ← String.toList_inj, ← String.toList_inj, String.toList_ofList]
      simp only [true_and]
  · rename_i dash
    simp [dash, ClusterAsks]
  · rename_i letters _ single _ dash
    rw [queries_cluster_iff, dash]
    constructor
    · intro asks
      exact .inr (.inr ⟨letters, rfl, asks⟩)
    · rintro (help | version | ⟨others, same, asks⟩)
      · exact absurd (List.cons.inj help).2 (single _)
      · exact absurd (List.cons.inj version).2 (single _)
      · rwa [(List.cons.inj same).2]
  · rename_i undashed
    simp only [not_queries_positional, false_iff]
    rintro (help | version | ⟨letters, dash, -⟩)
    · exact undashed _ help
    · exact undashed _ version
    · exact undashed _ dash

/-- The arguments that ask for help or the version. -/
theorem queries_step_iff {argument : String} :
    Queries (state.step argument) ↔ IsHelpFlag state argument := by
  unfold step IsHelpFlag
  cases state.plain with
  | true => simp
  | false =>
    cases state.waiting with
    | some option =>
      simp only [Bool.false_eq_true, ↓reduceIte, reduceCtorEq, false_and, and_false, iff_false]
      split <;> simp
    | none =>
      simp only [Bool.false_eq_true, ↓reduceIte, true_and]
      exact queries_free_iff

end State

/-- A command line comes to the help or the version exactly if its arguments ask for that before
anything is wrong. -/
theorem read_help_or_version_iff (arguments : List String) (environment : Option String) :
    read arguments environment = .help ∨ read arguments environment = .version ↔
      AsksForHelp arguments := by
  have asks : Queries (arguments.foldlM State.step {}) ↔ AsksForHelp arguments := by
    simp only [queries_foldlM_iff, State.queries_step_iff, AsksForHelp]
  have whole : Queries ((arguments.foldlM State.step {}).bind fun state =>
      state.finish environment) ↔ AsksForHelp arguments := by
    refine queries_bind_iff.trans ?_
    simp only [State.not_queries_finish, and_false, exists_false, or_false, asks]
  rw [← whole, read]
  split
  · rename_i done
    simp [done]
  · rename_i stopped
    simp [stopped]
  · rename_i stopped
    simp [stopped]
  · rename_i stopped
    simp [stopped]

end Courier.CommandLine
