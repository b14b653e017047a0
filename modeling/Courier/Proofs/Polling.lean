import Courier.Proofs.Exchange

/-!
# Waiting for a receipt

What a wait for a receipt shows against any script. On a URL that reaches the node every poll is
one request; a poll that meets a pending or transient answer leaves the wait as it was with one
poll and one answer less (`play_pollFrom_of_passing`), and one that meets a decisive answer ends it
(`play_pollFrom_of_decides`). So a wait ends at the first decisive answer within its budget, or
uses the budget up.
-/
namespace Courier.Submitter

variable {reaches : Endpoint → Bool} {submitter : Submitter}

/-- What the submitter writes to the log of one poll. -/
def pollNotes (poll polls : Nat) : Except Rpc.Error (Option Receipt) → List Event
  | .ok (some _) => [.found poll]
  | .ok none => [.pending poll polls]
  | .error error => if error.isTransient then [.retrying poll polls error] else []

/-- All that it writes of a poll is for those who look closely. -/
theorem submitter_of_mem_pollNotes {poll polls : Nat} {result : Except Rpc.Error (Option Receipt)}
    {event : Event} (listed : event ∈ pollNotes poll polls result) :
    event.origin = .submitter ∧ event.level = .debug := by
  unfold pollNotes at listed
  split at listed
  · obtain rfl := List.mem_singleton.1 listed
    exact ⟨rfl, rfl⟩
  · obtain rfl := List.mem_singleton.1 listed
    exact ⟨rfl, rfl⟩
  · split at listed
    · obtain rfl := List.mem_singleton.1 listed
      exact ⟨rfl, rfl⟩
    · exact absurd listed List.not_mem_nil

/-- The log of one poll: what the client writes of the request, and then the submitter of what came
of it. -/
def pollEvents (hash : String) (poll polls : Nat) (answer : Option Answer) : List Event :=
  clientEvents (.transactionReceipt hash) answer ++ pollNotes poll polls (pollOf answer)

/-- The log of a number of polls. -/
def pollsEvents (hash : String) (polls poll count : Nat) (answers : List Answer) : List Event :=
  (List.range count).flatMap fun place => pollEvents hash (poll + place) polls answers[place]?

/-- What one poll shows that comes to a result. -/
def polled {α : Type} (hash : String) (poll polls : Nat) (result : α) (answers : List Answer) :
    Transcript α where
  result := result
  requests := [(Rpc.Request.transactionReceipt hash).text]
  events := pollEvents hash poll polls answers.head?
  lines := []
  rest := answers.tail

/-- A poll that meets a pending or transient answer counts as one poll and changes nothing else. -/
theorem play_pollFrom_of_passing (hash : String) (reached : Reached reaches submitter.url)
    {answers : List Answer} (passing : Pending answers.head? ∨ Transient answers.head?)
    (polls poll left : Nat) :
    (submitter.pollFrom hash polls poll (left + 1)).play reaches answers =
      (polled hash poll polls () answers).andThen
        ((submitter.pollFrom hash polls (poll + 1) left).play reaches answers.tail) := by
  rw [pollFrom, Conversation.bind_eq, Conversation.play_bind,
    Client.play_transactionReceipt reached]
  rcases passing with pending | transient
  · simp only [exchanged, polled, pollEvents, pollOf_of_pending pending, pollNotes]
    split <;>
      simp [Transcript.andThen, Conversation.bind_eq, Conversation.record, Conversation.wait,
        Conversation.bind, Conversation.play]
  · obtain ⟨error, failed, passes⟩ := pollOf_of_transient transient
    simp only [exchanged, polled, pollEvents, failed, pollNotes, passes, ↓reduceIte]
    split <;>
      simp [Transcript.andThen, Conversation.bind_eq, Conversation.record, Conversation.wait,
        Conversation.bind, Conversation.play]

/-- A poll that meets a decisive answer ends the wait with what is decided. -/
theorem play_pollFrom_of_decides (hash : String) (reached : Reached reaches submitter.url)
    {answers : List Answer} {decision : Except Rpc.Error Receipt}
    (decides : Decides answers.head? decision) (polls poll left : Nat) :
    (submitter.pollFrom hash polls poll (left + 1)).play reaches answers =
      polled hash poll polls (decision.map some) answers := by
  rw [pollFrom, Conversation.bind_eq, Conversation.play_bind,
    Client.play_transactionReceipt reached]
  cases decision with
  | ok receipt =>
    simp only [exchanged, polled, pollEvents, pollOf_of_decides decides, Except.map, pollNotes]
    rfl
  | error error =>
    have lasts := isTransient_of_decides decides
    simp only [exchanged, polled, pollEvents, pollOf_of_decides decides, Except.map, pollNotes,
      lasts, Bool.false_eq_true, ↓reduceIte]
    rfl

/-- What a number of polls show that all come to nothing. -/
def passed (hash : String) (polls poll count : Nat) (answers : List Answer) : Transcript Unit where
  result := ()
  requests := List.replicate count (Rpc.Request.transactionReceipt hash).text
  events := pollsEvents hash polls poll count answers
  lines := []
  rest := answers.drop count

/-- Polls that all meet pending or transient answers are passed over. -/
theorem play_pollFrom_add (hash : String) (reached : Reached reaches submitter.url) (count : Nat)
    {answers : List Answer}
    (passing : ∀ place < count, Pending answers[place]? ∨ Transient answers[place]?)
    (polls poll left : Nat) :
    (submitter.pollFrom hash polls poll (count + left)).play reaches answers =
      (passed hash polls poll count answers).andThen
        ((submitter.pollFrom hash polls (poll + count) left).play reaches
          (answers.drop count)) := by
  induction count generalizing answers poll with
  | zero =>
    rw [Nat.zero_add]
    rfl
  | succ count ih =>
    have first : Pending answers.head? ∨ Transient answers.head? := by
      rw [List.head?_eq_getElem?]
      exact passing 0 (Nat.zero_lt_succ count)
    have others : ∀ place < count,
        Pending answers.tail[place]? ∨ Transient answers.tail[place]? := by
      intro place below
      rw [List.getElem?_tail]
      exact passing (place + 1) (Nat.succ_lt_succ below)
    rw [Nat.add_right_comm, play_pollFrom_of_passing hash reached first, ih others (poll + 1)]
    simp only [Transcript.andThen, polled, passed, pollsEvents, List.range_succ_eq_map,
      List.flatMap_cons, List.flatMap_map, List.replicate_succ, List.getElem?_tail,
      List.head?_eq_getElem?, List.drop_tail, List.cons_append, List.nil_append,
      List.append_assoc, Nat.add_zero, Nat.add_assoc, Nat.add_comm 1]

/-- A wait is its polls after one line in the log. -/
theorem play_awaitReceipt (hash : String) (polls : Nat) (answers : List Answer) :
    (submitter.awaitReceipt hash polls).play reaches answers =
      let shown := (submitter.pollFrom hash polls 1 polls).play reaches answers
      { shown with events := .waiting polls hash :: shown.events } := rfl

/-- A wait goes on to the first decisive answer within its budget and ends there. -/
theorem play_awaitReceipt_of_decides (hash : String) (reached : Reached reaches submitter.url)
    {polls place : Nat} (early : place < polls) {answers : List Answer}
    (passing : ∀ earlier < place, Pending answers[earlier]? ∨ Transient answers[earlier]?)
    {decision : Except Rpc.Error Receipt} (decides : Decides answers[place]? decision) :
    (submitter.awaitReceipt hash polls).play reaches answers =
      { result := decision.map some
        requests := List.replicate (place + 1) (Rpc.Request.transactionReceipt hash).text
        events := .waiting polls hash :: pollsEvents hash polls 1 (place + 1) answers
        lines := []
        rest := answers.drop (place + 1) } := by
  have met : Decides (answers.drop place).head? decision := by
    rwa [List.head?_drop]
  obtain ⟨left, rfl⟩ : ∃ left, polls = place + (left + 1) := ⟨polls - place - 1, by omega⟩
  rw [play_awaitReceipt, play_pollFrom_add hash reached place passing,
    play_pollFrom_of_decides hash reached met]
  simp only [Transcript.andThen, passed, polled, pollsEvents, List.replicate_succ', List.range_succ,
    List.flatMap_append, List.flatMap_singleton, List.head?_drop, List.tail_drop, List.append_nil]

/-- A wait that meets no decisive answer within its budget uses the budget up. -/
theorem play_awaitReceipt_of_passing (hash : String) (reached : Reached reaches submitter.url)
    {polls : Nat} {answers : List Answer}
    (passing : ∀ place < polls, Pending answers[place]? ∨ Transient answers[place]?) :
    (submitter.awaitReceipt hash polls).play reaches answers =
      { result := .ok none
        requests := List.replicate polls (Rpc.Request.transactionReceipt hash).text
        events := .waiting polls hash :: pollsEvents hash polls 1 polls answers
        lines := []
        rest := answers.drop polls } := by
  have used := play_pollFrom_add hash reached polls passing polls 1 0
  rw [Nat.add_zero] at used
  rw [play_awaitReceipt, used]
  simp only [Conversation.play, Conversation.pure_eq, pollFrom, Transcript.andThen, passed,
    List.append_nil]

/-- Within a budget there is a first decisive answer, or none. -/
theorem passing_or_first_decides (answers : List Answer) (polls : Nat) :
    (∀ place < polls, Pending answers[place]? ∨ Transient answers[place]?) ∨
      ∃ place < polls,
        (∀ earlier < place, Pending answers[earlier]? ∨ Transient answers[earlier]?) ∧
          ∃ decision, Decides answers[place]? decision := by
  induction polls with
  | zero => exact .inl fun place below => absurd below (Nat.not_lt_zero place)
  | succ polls ih =>
    rcases ih with passing | ⟨place, below, passing, decides⟩
    · rcases pending_or_transient_or_decides answers[polls]? with last | decides
      · refine .inl fun place below => ?_
        rcases Nat.lt_succ_iff_lt_or_eq.1 below with earlier | rfl
        · exact passing place earlier
        · exact last
      · exact .inr ⟨polls, Nat.lt_succ_self polls, passing, decides⟩
    · exact .inr ⟨place, Nat.lt_succ_of_lt below, passing, decides⟩

/-- Polls never end in a failure that may pass, wherever the URL leads. -/
theorem isTransient_of_play_pollFrom {hash : String} {polls poll left : Nat} {answers : List Answer}
    {error : Rpc.Error}
    (failed : ((submitter.pollFrom hash polls poll left).play reaches answers).result =
      .error error) : error.isTransient = false := by
  induction left generalizing poll answers with
  | zero => exact nomatch failed
  | succ left ih =>
    rw [pollFrom, Conversation.bind_eq, Conversation.play_bind] at failed
    generalize (Client.transactionReceipt submitter.url hash).play reaches answers = shown
      at failed
    obtain ⟨result, _, _, _, rest⟩ := shown
    rcases result with fault | _ | receipt
    · cases passes : fault.isTransient with
      | true =>
        simp only [passes, ↓reduceIte] at failed
        split at failed <;> exact ih failed
      | false =>
        simp only [passes, Bool.false_eq_true, ↓reduceIte] at failed
        obtain rfl : fault = error := Except.error.inj failed
        exact passes
    · dsimp only at failed
      split at failed <;> exact ih failed
    · exact nomatch failed

/-- A wait for a receipt makes one poll after another up to the first decisive answer within its
budget, and comes to what that answer decides: a receipt, or a failure that will not pass. If no
answer within the budget is decisive, the budget is used up and there is no receipt. No failure
that may pass ever comes out, wherever the URL leads. -/
theorem awaitReceipt_first_decisive (reaches : Endpoint → Bool) (submitter : Submitter)
    (hash : String) (polls : Nat) (answers : List Answer) :
    let shown := (submitter.awaitReceipt hash polls).play reaches answers
    let body := (Rpc.Request.transactionReceipt hash).text
    (Reached reaches submitter.url →
      (∀ place < polls, (∀ earlier < place, ∀ other, ¬Decides answers[earlier]? other) →
        ∀ decision, Decides answers[place]? decision →
          shown.requests = List.replicate (place + 1) body ∧
            shown.result = decision.map some) ∧
      ((∀ place < polls, ∀ decision, ¬Decides answers[place]? decision) →
        shown.requests = List.replicate polls body ∧ shown.result = .ok none)) ∧
    ∀ error, shown.result = .error error → error.isTransient = false := by
  intro shown body
  refine ⟨fun reached => ⟨?_, ?_⟩, ?_⟩
  · intro place early undecided decision decides
    have passing : ∀ earlier < place,
        Pending answers[earlier]? ∨ Transient answers[earlier]? := fun earlier below =>
      pending_or_transient_iff.2 (undecided earlier below)
    have ended := play_awaitReceipt_of_decides hash reached early passing decides
    exact ⟨congrArg Transcript.requests ended, congrArg Transcript.result ended⟩
  · intro undecided
    have passing : ∀ place < polls, Pending answers[place]? ∨ Transient answers[place]? :=
      fun place below => pending_or_transient_iff.2 (undecided place below)
    have used := play_awaitReceipt_of_passing hash reached passing
    exact ⟨congrArg Transcript.requests used, congrArg Transcript.result used⟩
  · intro error failed
    exact isTransient_of_play_pollFrom failed

/-- Three nodes that decide. One is busy, then has no receipt yet, and brings it at the third poll.
One does not know the method, which it says after a connection that it dropped. One refuses at once,
and the failure holds the text of the refusal. A node that never answers uses the budget up. -/
theorem awaitReceipt_first_decisive_third :
    let url := "http://127.0.0.1:8547"
    let saying (status : Nat) (body : String) : Answer :=
      .sent status (Text.Utf8.encode body) false
    let carrying (result : Json.Value) := saying 200 (Json.Value.object [("result", result)]).text
    let receipt : Json.Value := .object [("status", .string "0x1")]
    let found := [saying 503 "busy", carrying .null, carrying receipt]
    let unknown := [.dropped,
      saying 200 "\x7b\"error\":\x7b\"code\":-32601,\"message\":\"no such method\"\x7d\x7d"]
    let refusing := [saying 404 "gone"]
    let wait := (awaitReceipt { url } "0xabc" 5).play (fun _ => true)
    let body := (Rpc.Request.transactionReceipt "0xabc").text
    Reached (fun _ => true) url ∧
      ((∀ earlier < 2, ∀ other, ¬Decides found[earlier]? other) ∧
        Decides found[2]? (.ok ⟨receipt⟩) ∧
        (wait found).requests = List.replicate 3 body ∧
        (wait found).result = .ok (some ⟨receipt⟩)) ∧
      ((∀ other, ¬Decides unknown[0]? other) ∧
        (wait unknown).requests = List.replicate 2 body ∧
        (wait unknown).result = .error (.rpc (-32601) "no such method")) ∧
      ((wait refusing).requests = List.replicate 1 body ∧
        (wait refusing).result = .error (.httpStatus 404 "gone")) ∧
      ((wait []).requests = List.replicate 5 body ∧ (wait []).result = .ok none) := by
  intro url saying carrying receipt found unknown refusing wait body
  have refuses {status : Nat} {text : String} (failure : status < 200 ∨ 300 ≤ status)
      (bodied : status ≠ 304) (read : Text.ofBytes (Text.Utf8.encode text) = text) :
      Refuses (some (saying status text)) status text := by
    have shape : Refuses (some (saying status text)) status _ := .intro failure
    simpa only [bodied, Bool.false_eq_true, or_self, ↓reduceIte, read] using shape
  have carries : Carries found[2]? (some receipt) :=
    carries_of_canonical (.single (.string "0x1")) nofun
  let spell := Json.StringLiteral.ofText
  let error : Json.Document := .object
    [(spell "code", .scalar (.number (.ofInt (-32601)))),
     (spell "message", .scalar (.string (spell "no such method")))]
  have reports : Reports unknown[1]? (-32601) "no such method" :=
    reports_of_ofText? (.object [(spell "error", error)]) rfl rfl
  have ends (answers : List Answer) :=
    (awaitReceipt_first_decisive (fun _ => true) { url } "0xabc" 5 answers).1 reached_local
  refine ⟨reached_local, ?_, ?_, ?_, ?_⟩
  · have undecided : ∀ earlier < 2, ∀ other, ¬Decides found[earlier]? other := by
      intro earlier below
      obtain rfl | rfl : earlier = 0 ∨ earlier = 1 := by omega
      · exact not_decides (.inr (.refused (refuses (.inr (by decide)) (by decide) rfl) (by decide)))
      · exact not_decides (.inl (.inl carries_none_of_null))
    have decides : Decides found[2]? (.ok ⟨receipt⟩) := .found carries (by simp [Hollow, receipt])
    exact ⟨undecided, decides, (ends found).1 2 (by decide) undecided _ decides⟩
  · have undecided : ∀ other, ¬Decides unknown[0]? other :=
      not_decides (.inr (.unusable .dropped))
    have first : ∀ earlier < 1, ∀ other, ¬Decides unknown[earlier]? other := by
      intro earlier below
      obtain rfl : earlier = 0 := Nat.lt_one_iff.1 below
      exact undecided
    exact ⟨undecided, (ends unknown).1 1 (by decide) first _ (.reported reports (.inl rfl))⟩
  · have decides : Decides refusing[0]? (.error (.httpStatus 404 "gone")) :=
      .refused (refuses (.inr (by decide)) (by decide) rfl) (by decide)
    exact (ends refusing).1 0 (by decide) (fun _ below => absurd below (Nat.not_lt_zero _)) _
      decides
  · exact (ends []).2 fun place _ => not_decides (.inr (.unusable .missing))

end Courier.Submitter
