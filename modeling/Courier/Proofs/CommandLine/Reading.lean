import Courier.Proofs.CommandLine.Machine

/-!
# What a command line gives

The machine takes parts in a row exactly if they add no positional too many, no second number for an
option and no second flag (`Adds`). What it has read at the end comes to a send exactly if the
positionals are all there and the number of polls is right, so a command line comes to a send
exactly if it is made of parts that give that send (`read_eq_send_iff`).
-/
namespace Courier.CommandLine

namespace Numbers

/-- The number set for an option is the one that it has, and the others stay. -/
theorem get_set (numbers : Numbers) (value : UInt64) (option other : NumberOption) :
    (numbers.set value option).get other =
      if option = other then some value else numbers.get other := by
  cases option <;> cases other <;> rfl

/-- Numbers that are the same for every option are the same. -/
theorem ext_get {one other : Numbers} (same : ∀ option, one.get option = other.get option) :
    one = other := by
  have polls : one.polls = other.polls := same .polls
  have gas : one.gas = other.gas := same .gas
  have gasPrice : one.gasPrice = other.gasPrice := same .gasPrice
  have pollInterval : one.pollInterval = other.pollInterval := same .pollInterval
  cases one
  cases other
  simp_all

end Numbers

/-- What parts add to what has been read: positionals behind the others, and a number for an option
or the flag where there was none. -/
structure Adds (parts : List Part) (state next : State) : Prop where
  /-- The positionals, in reverse. -/
  positionals : next.positionals = (parts.filterMap Part.text?).reverse ++ state.positionals
  /-- There are no more positionals than there may be. -/
  room : next.positionals.length ≤ maxPositionals
  /-- The number that an option had and those that it is given are the one that it has. -/
  numbers : ∀ option, (state.numbers.get option).toList ++
    parts.filterMap (Part.number? option) = (next.numbers.get option).toList
  /-- The flag that was met before and those among the parts are one flag at most. -/
  verbose : state.verbose.toNat + parts.countP Part.isVerbose = next.verbose.toNat

namespace Adds

variable {state middle next : State}

/-- A part adds what it is. -/
theorem single {part : Part} (room : state.positionals.length ≤ maxPositionals)
    (taken : state.take part = .ok next) : Adds [part] state next := by
  cases part with
  | positional text =>
    obtain ⟨free, after⟩ := State.take_positional_eq_ok_iff.1 taken
    rw [after]
    exact ⟨rfl, free, fun option => List.append_nil _, rfl⟩
  | setting option value =>
    obtain ⟨absent, after⟩ := State.take_setting_eq_ok_iff.1 taken
    rw [after]
    refine ⟨rfl, room, fun other => ?_, rfl⟩
    dsimp only
    rw [Numbers.get_set]
    by_cases same : option = other
    · subst same
      simp [Part.number?, absent]
    · simp [Part.number?, same]
  | verbose =>
    obtain ⟨quiet, after⟩ := State.take_verbose_eq_ok_iff.1 taken
    rw [after]
    refine ⟨rfl, room, fun option => List.append_nil _, ?_⟩
    rw [quiet]
    rfl

/-- Parts and then others add together what the first add and then the others. -/
theorem append {first second : List Part} (one : Adds first state middle)
    (other : Adds second middle next) : Adds (first ++ second) state next := by
  refine ⟨?_, other.room, fun option => ?_, ?_⟩
  · rw [other.positionals, one.positionals, List.filterMap_append, List.reverse_append,
      List.append_assoc]
  · rw [List.filterMap_append, ← List.append_assoc, one.numbers option, other.numbers option]
  · have before := one.verbose
    have after := other.verbose
    rw [List.countP_append]
    omega

/-- Parts that are taken add what they are. -/
theorem of_foldlM_take {parts : List Part} (room : state.positionals.length ≤ maxPositionals)
    (taken : parts.foldlM State.take state = .ok next) : Adds parts state next := by
  induction parts generalizing state with
  | nil =>
    have same := Except.ok.inj taken
    rw [← same]
    exact ⟨rfl, room, fun option => List.append_nil _, rfl⟩
  | cons part parts ih =>
    rw [List.foldlM_cons, bind_eq_ok_iff] at taken
    obtain ⟨middle, first, others⟩ := taken
    have one := single room first
    exact one.append (ih one.room others)

/-- The first of parts is taken if what all of them add can be added, and the others add the
rest. -/
theorem exists_take {part : Part} {parts : List Part} (adds : Adds (part :: parts) state next) :
    ∃ middle, state.take part = .ok middle ∧ Adds parts middle next := by
  cases part with
  | positional text =>
    have whole : next.positionals =
        (parts.filterMap Part.text?).reverse ++ text :: state.positionals := by
      rw [adds.positionals, List.filterMap_cons_some (f := Part.text?) (b := text) rfl,
        List.reverse_cons, List.append_assoc]
      rfl
    have free : state.positionals.length < maxPositionals := by
      have room := adds.room
      rw [whole, List.length_append, List.length_cons] at room
      omega
    exact ⟨_, State.take_positional_eq_ok_iff.2 ⟨free, rfl⟩,
      ⟨whole, adds.room, adds.numbers, adds.verbose⟩⟩
  | setting option value =>
    have given := adds.numbers
    have absent : state.numbers.get option = none := by
      have single := congrArg List.length (given option)
      cases had : state.numbers.get option with
      | none => rfl
      | some other =>
        rw [had, List.filterMap_cons_some (b := value) (by simp [Part.number?])] at single
        have most : (next.numbers.get option).toList.length ≤ 1 := Option.length_toList_le
        simp at single
        omega
    refine ⟨_, State.take_setting_eq_ok_iff.2 ⟨absent, rfl⟩,
      ⟨adds.positionals, adds.room, fun other => ?_, adds.verbose⟩⟩
    rw [← given other, Numbers.get_set]
    by_cases same : option = other
    · subst same
      simp [Part.number?, absent]
    · simp [Part.number?, same]
  | verbose =>
    have given : state.verbose.toNat + (parts.countP Part.isVerbose + 1) = next.verbose.toNat := by
      have all := adds.verbose
      rwa [List.countP_cons_of_pos rfl] at all
    have most : next.verbose.toNat ≤ 1 := Bool.toNat_le next.verbose
    have quiet : state.verbose = false := by
      cases had : state.verbose with
      | false => rfl
      | true =>
        rw [had, Bool.toNat_true] at given
        omega
    refine ⟨_, State.take_verbose_eq_ok_iff.2 ⟨quiet, rfl⟩,
      ⟨adds.positionals, adds.room, adds.numbers, ?_⟩⟩
    rw [quiet, Bool.toNat_false] at given
    rw [Bool.toNat_true]
    omega

/-- Parts are taken if what they add can be added. -/
theorem foldlM_take {parts : List Part} (adds : Adds parts state next) (before : state.Between)
    (after : next.Between) : parts.foldlM State.take state = .ok next := by
  induction parts generalizing state with
  | nil =>
    have positionals : next.positionals = state.positionals := adds.positionals
    have numbers : next.numbers = state.numbers := by
      apply Numbers.ext_get
      intro option
      have same := congrArg List.head? (adds.numbers option)
      rw [List.filterMap_nil, List.append_nil, Option.head?_toList, Option.head?_toList] at same
      exact same.symm
    have verbose : next.verbose = state.verbose := by
      have same := adds.verbose
      cases one : state.verbose <;> cases other : next.verbose <;> simp_all
    have waiting : next.waiting = state.waiting := after.idle.trans before.idle.symm
    have plain : next.plain = state.plain := after.unmarked.trans before.unmarked.symm
    have same : state = next := by
      cases state
      cases next
      simp_all
    rw [same]
    rfl
  | cons part parts ih =>
    obtain ⟨middle, first, others⟩ := adds.exists_take
    rw [List.foldlM_cons, first]
    exact ih others (before.of_take first)

end Adds

/-- Whether texts are the positionals that a send has, in their order: four if it has no parameters,
and five in any case. -/
def ArePositionals (texts : List String) (send : Send) : Prop :=
  texts = [send.url, send.call.sender, send.call.target, send.call.signature] ∧
      send.call.params = "" ∨
    texts = [send.url, send.call.sender, send.call.target, send.call.signature, send.call.params]

/-- What a send asks for is what the parts of a command line say, and what they leave unsaid is the
usual. The number of polls that they leave unsaid may be in the environment. -/
structure Gives (parts : List Part) (environment : Option String) (send : Send)
    (verbose : Bool) : Prop where
  /-- The positionals. -/
  positionals : ArePositionals (parts.filterMap Part.text?) send
  /-- No option has two numbers. -/
  once : ∀ option, (parts.filterMap (Part.number? option)).length ≤ 1
  /-- The flag is given once, or not at all. -/
  verbose : parts.countP Part.isVerbose = verbose.toNat
  /-- The gas. -/
  gas : send.gas = (parts.findSome? (Part.number? .gas)).getD 1048576
  /-- The price of gas. -/
  gasPrice : send.gasPrice = (parts.findSome? (Part.number? .gasPrice)).getD 1000000000
  /-- The milliseconds between two polls. -/
  pollInterval : send.pollInterval = (parts.findSome? (Part.number? .pollInterval)).getD 1000
  /-- The number of polls. The environment counts only if the parts do not say it, and has to give
  it right then. -/
  polls : parts.findSome? (Part.number? .polls) = some send.polls ∨
    parts.findSome? (Part.number? .polls) = none ∧
      (environment = none ∧ send.polls = 30 ∨
        ∃ text, environment = some text ∧ Numeral text send.polls ∧ 1 ≤ send.polls.toNat)

namespace State

variable {state : State} {send : Send} {verbose : Bool}

/-- The number of polls is the one given, or that of the environment, or the usual one. -/
theorem polls_eq_ok_iff {environment : Option String} {polls : UInt64} :
    state.polls environment = .ok polls ↔ state.numbers.polls = some polls ∨
      state.numbers.polls = none ∧ (environment = none ∧ polls = 30 ∨
        ∃ text, environment = some text ∧ Numeral text polls ∧ 1 ≤ polls.toNat) := by
  unfold State.polls
  cases state.numbers.polls with
  | some given => simp
  | none =>
    cases environment with
    | none => simp [defaultPolls, eq_comm]
    | some text =>
      have read : NumberOption.polls.value? text = some polls ↔
          Numeral text polls ∧ 1 ≤ polls.toNat := NumberOption.value?_eq_some_iff
      simp only [reduceCtorEq, Option.some.injEq, true_and, false_and, false_or, exists_eq_left',
        ← read]
      cases NumberOption.polls.value? text with
      | none => simp
      | some value => simp

/-- What has been read comes to a send if no option waits, the number of polls is right and the
positionals are all there. -/
theorem finish_eq_ok_iff {environment : Option String} :
    state.finish environment = .ok (send, verbose) ↔
      state.waiting = none ∧ state.polls environment = .ok send.polls ∧
        ArePositionals state.positionals.reverse send ∧
        send.gas = state.numbers.gas.getD defaultGas ∧
        send.gasPrice = state.numbers.gasPrice.getD defaultGasPrice ∧
        send.pollInterval = state.numbers.pollInterval.getD defaultPollInterval ∧
        verbose = state.verbose := by
  obtain ⟨url, ⟨sender, target, signature, params⟩, polls, gas, gasPrice, pollInterval⟩ := send
  unfold finish ArePositionals
  cases state.waiting with
  | some option =>
    constructor
    · intro finished
      exact nomatch finished
    · intro ⟨idle, _⟩
      exact nomatch idle
  | none =>
    dsimp only
    rw [bind_eq_ok_iff]
    constructor
    · intro ⟨given, polled, finished⟩
      split at finished
      · rename_i four
        cases finished
        exact ⟨rfl, polled, .inl ⟨four, rfl⟩, rfl, rfl, rfl, rfl⟩
      · rename_i five
        cases finished
        exact ⟨rfl, polled, .inr five, rfl, rfl, rfl, rfl⟩
      · exact nomatch finished
    · intro ⟨_, polled, texts, gases, prices, intervals, loud⟩
      refine ⟨polls, polled, ?_⟩
      rw [gases, prices, intervals, loud]
      cases texts with
      | inl four =>
        obtain ⟨four, bare⟩ := four
        rw [four, bare]
        rfl
      | inr five =>
        rw [five]
        rfl

end State

/-- What is kept of a list is what is found in it, if that is one thing at most. -/
theorem filterMap_eq_toList_iff {α β : Type} {keep : α → Option β} {things : List α}
    {found : Option β} :
    things.filterMap keep = found.toList ↔
      (things.filterMap keep).length ≤ 1 ∧ things.findSome? keep = found := by
  rw [← List.head?_filterMap]
  constructor
  · intro same
    rw [same]
    exact ⟨Option.length_toList_le, Option.head?_toList⟩
  · intro ⟨few, first⟩
    rw [← first]
    match things.filterMap keep, few with
    | [], _ => rfl
    | [_], _ => rfl

/-- What has been read after parts that may stand together. -/
def State.ofParts (parts : List Part) (verbose : Bool) : State where
  positionals := (parts.filterMap Part.text?).reverse
  numbers :=
    { polls := parts.findSome? (Part.number? .polls)
      gas := parts.findSome? (Part.number? .gas)
      gasPrice := parts.findSome? (Part.number? .gasPrice)
      pollInterval := parts.findSome? (Part.number? .pollInterval) }
  verbose

/-- The number of an option after parts is the first that they give it. -/
theorem State.get_ofParts (parts : List Part) (verbose : Bool) (option : NumberOption) :
    (ofParts parts verbose).numbers.get option = parts.findSome? (Part.number? option) := by
  cases option <;> rfl

/-- Before all parts no option has a number. -/
theorem State.get_start (option : NumberOption) : ({} : State).numbers.get option = none := by
  cases option <;> rfl

/-- Parts that may stand together add to nothing what they are. -/
theorem Adds.ofParts {parts : List Part} {verbose : Bool}
    (room : (parts.filterMap Part.text?).length ≤ maxPositionals)
    (once : ∀ option, (parts.filterMap (Part.number? option)).length ≤ 1)
    (counted : parts.countP Part.isVerbose = verbose.toNat) :
    Adds parts {} (State.ofParts parts verbose) := by
  refine ⟨(List.append_nil _).symm, ?_, fun option => ?_, ?_⟩
  · show (parts.filterMap Part.text?).reverse.length ≤ maxPositionals
    rw [List.length_reverse]
    exact room
  · rw [State.get_start, State.get_ofParts]
    exact filterMap_eq_toList_iff.2 ⟨once option, rfl⟩
  · show 0 + parts.countP Part.isVerbose = verbose.toNat
    rw [Nat.zero_add]
    exact counted

/-- The positionals of a send are no more than there may be. -/
theorem ArePositionals.length_le {texts : List String} {send : Send}
    (positionals : ArePositionals texts send) : texts.length ≤ maxPositionals := by
  cases positionals with
  | inl four =>
    rw [four.1]
    exact Nat.le_succ 4
  | inr five =>
    rw [five]
    exact Nat.le_refl 5

/-- What parts give is what they add to nothing. -/
theorem gives_iff {parts : List Part} {environment : Option String} {send : Send}
    {verbose : Bool} :
    Gives parts environment send verbose ↔ ∃ last, Adds parts {} last ∧ last.Between ∧
      last.finish environment = .ok (send, verbose) := by
  constructor
  · intro gives
    have adds := Adds.ofParts gives.positionals.length_le gives.once gives.verbose
    refine ⟨State.ofParts parts verbose, adds, ⟨rfl, rfl⟩, ?_⟩
    apply State.finish_eq_ok_iff.2
    have texts : ArePositionals (State.ofParts parts verbose).positionals.reverse send := by
      show ArePositionals (parts.filterMap Part.text?).reverse.reverse send
      rw [List.reverse_reverse]
      exact gives.positionals
    exact ⟨rfl, State.polls_eq_ok_iff.2 gives.polls, texts, gives.gas, gives.gasPrice,
      gives.pollInterval, rfl⟩
  · intro ⟨last, adds, between, finished⟩
    obtain ⟨_, polled, texts, gas, gasPrice, pollInterval, loud⟩ :=
      State.finish_eq_ok_iff.1 finished
    have numbers (option : NumberOption) :
        (parts.filterMap (Part.number? option)).length ≤ 1 ∧
          parts.findSome? (Part.number? option) = last.numbers.get option := by
      apply filterMap_eq_toList_iff.1
      rw [← adds.numbers option, State.get_start]
      rfl
    have kept : last.positionals.reverse = parts.filterMap Part.text? := by
      rw [adds.positionals]
      simp
    have counted : parts.countP Part.isVerbose = last.verbose.toNat := by
      rw [← adds.verbose]
      exact (Nat.zero_add _).symm
    rw [kept] at texts
    rw [← loud] at counted
    exact
      { positionals := texts
        once := fun option => (numbers option).1
        verbose := counted
        gas := by
          rw [(numbers .gas).2]
          exact gas
        gasPrice := by
          rw [(numbers .gasPrice).2]
          exact gasPrice
        pollInterval := by
          rw [(numbers .pollInterval).2]
          exact pollInterval
        polls := by
          rw [(numbers .polls).2]
          exact State.polls_eq_ok_iff.1 polled }

/-- A command line comes to a send exactly if its arguments are made of parts that give it. Where
help or the version is asked for, and where letters other than the one of the flag stand behind one
dash, the arguments are made of no parts. -/
theorem read_eq_send_iff (arguments : List String) (environment : Option String) (send : Send)
    (verbose : Bool) :
    read arguments environment = .send send verbose ↔
      ∃ parts, MadeOf arguments parts ∧ Gives parts environment send verbose := by
  have start : State.Between {} := ⟨rfl, rfl⟩
  have sends : read arguments environment = .send send verbose ↔
      ∃ last, arguments.foldlM State.step {} = .ok last ∧
        last.finish environment = .ok (send, verbose) := by
    rw [← bind_eq_ok_iff]
    show read arguments environment = .send send verbose ↔
      ((arguments.foldlM State.step {}).bind fun last => last.finish environment) =
        .ok (send, verbose)
    unfold read
    split
    all_goals
      rename_i whole
      rw [whole]
      simp
  rw [sends]
  constructor
  · intro ⟨last, taken, finished⟩
    have ended := (State.finish_eq_ok_iff.1 finished).1
    obtain ⟨parts, next, made, took, same⟩ := State.madeOf_of_foldlM_step start taken ended
    have adds : Adds parts {} next := Adds.of_foldlM_take (Nat.zero_le _) took
    refine ⟨parts, made, gives_iff.2 ⟨next, adds, ?_, ?_⟩⟩
    · exact State.Between.of_foldlM_take start took
    · rw [same] at finished
      exact finished
  · intro ⟨parts, made, gives⟩
    obtain ⟨next, adds, after, finished⟩ := gives_iff.1 gives
    have took := adds.foldlM_take start after
    obtain ⟨plain, taken⟩ := State.foldlM_step_of_madeOf made start took
    exact ⟨_, taken, finished⟩

example :
    read ["--gas", "+7", "u", "-", "-v", "--poll-interval-ms=0", "t", "--", "-s", ""] (some "2") =
      .send ⟨"u", ⟨"-", "t", "-s", ""⟩, 2, 7, 1000000000, 0⟩ true := by
  cbv

end Courier.CommandLine
