import Courier.Proofs.ExitCode

/-!
# Waits with different budgets

A wait is its polls, one after another until one settles it. Without the submitter's lines in the
log and without the pauses a poll is a conversation that may come to nothing (`Client.poll`), a wait
is that many of them in a row (`Submitter.quietPolls`), and `Conversation.orThen` puts two such
conversations in a row, the second being held only if the first comes to nothing. That operation is
associative, so a budget may be spent in two parts (`Submitter.quietPolls_add`): a larger budget
changes nothing once a wait is settled. An answer that settles nothing may be any other such answer
(`Submitter.play_quietPolls_congr`).
-/
namespace Courier

variable {α β ε : Type}

/-- A transcript without its log. -/
def Transcript.unlogged (transcript : Transcript α) : Transcript α :=
  { transcript with events := [] }

/-- Two transcripts in a row are without their logs what each of them is. -/
theorem Transcript.unlogged_andThen (first : Transcript α) (second : Transcript β) :
    (first.andThen second).unlogged = first.unlogged.andThen second.unlogged := rfl

/-- Two transcripts are the same without their logs if they agree on all else. -/
theorem Transcript.unlogged_eq_iff {one other : Transcript α} :
    one.unlogged = other.unlogged ↔
      one.result = other.result ∧ one.requests = other.requests ∧ one.lines = other.lines ∧
        one.rest = other.rest := by
  cases one
  cases other
  simp [unlogged]

namespace Conversation

/-- A conversation, and another that is held only if the first comes to nothing. -/
def orThen (first second : Conversation (Except ε (Option α))) :
    Conversation (Except ε (Option α)) :=
  first.bind fun
    | .ok none => second
    | ended => .done ended

/-- Of three conversations in a row it does not matter which two are taken together. -/
theorem orThen_assoc (first second third : Conversation (Except ε (Option α))) :
    (first.orThen second).orThen third = first.orThen (second.orThen third) := by
  unfold orThen
  rw [bind_assoc]
  congr 1
  funext result
  rcases result with _ | _ | _ <;> rfl

/-- Nothing after a conversation leaves it as it is. -/
theorem orThen_nothing (first : Conversation (Except ε (Option α))) :
    first.orThen (.done (.ok none)) = first := by
  refine Eq.trans ?_ (bind_done first)
  unfold orThen
  congr 1
  funext result
  rcases result with _ | _ | _ <;> rfl

/-- If the first conversation comes to nothing, the second takes up the answers that it left. -/
theorem play_orThen_of_nothing {reaches : Endpoint → Bool}
    {first : Conversation (Except ε (Option α))} {answers : List Answer}
    (nothing : (first.play reaches answers).result = .ok none)
    (second : Conversation (Except ε (Option α))) :
    (first.orThen second).play reaches answers =
      (first.play reaches answers).andThen
        (second.play reaches (first.play reaches answers).rest) := by
  rw [orThen, play_bind]
  simp only [nothing]

/-- If it comes to anything else, the second is not held. -/
theorem play_orThen_of_settled {reaches : Endpoint → Bool}
    {first : Conversation (Except ε (Option α))} {answers : List Answer}
    (settled : (first.play reaches answers).result ≠ .ok none)
    (second : Conversation (Except ε (Option α))) :
    (first.orThen second).play reaches answers = first.play reaches answers := by
  rw [orThen, play_bind]
  generalize first.play reaches answers = shown at settled ⊢
  obtain ⟨result, requests, events, lines, rest⟩ := shown
  rcases result with error | _ | found
  · simp only [Transcript.andThen, play, List.append_nil]
  · exact absurd rfl settled
  · simp only [Transcript.andThen, play, List.append_nil]

end Conversation

namespace Client

/-- What a wait makes of a poll: a failure that may pass counts as no receipt yet. -/
def settled : Except Rpc.Error (Option Receipt) → Except Rpc.Error (Option Receipt)
  | .error error => if error.isTransient then .ok none else .error error
  | .ok found => .ok found

/-- One poll, of which the submitter writes nothing to the log. -/
def poll (url hash : String) : Conversation (Except Rpc.Error (Option Receipt)) :=
  (transactionReceipt url hash).bind fun result => .done (settled result)

end Client

namespace Submitter

variable {reaches : Endpoint → Bool} {submitter : Submitter}

/-- A number of polls, one after another until one settles the wait. There is no pause between them,
and the submitter writes nothing to the log. -/
def quietPolls (submitter : Submitter) (hash : String) :
    Nat → Conversation (Except Rpc.Error (Option Receipt))
  | 0 => .done (.ok none)
  | left + 1 => (Client.poll submitter.url hash).orThen (submitter.quietPolls hash left)

/-- A budget may be spent in two parts. -/
theorem quietPolls_add (hash : String) (first second : Nat) :
    submitter.quietPolls hash (first + second) =
      (submitter.quietPolls hash first).orThen (submitter.quietPolls hash second) := by
  induction first with
  | zero =>
    rw [Nat.zero_add]
    rfl
  | succ first ih =>
    rw [Nat.add_right_comm, quietPolls, ih, quietPolls, Conversation.orThen_assoc]

/-- Polls show what quiet ones do, apart from the log, whatever numbers they go by. -/
theorem unlogged_play_pollFrom (hash : String) (polls poll left : Nat) (answers : List Answer) :
    ((submitter.pollFrom hash polls poll left).play reaches answers).unlogged =
      ((submitter.quietPolls hash left).play reaches answers).unlogged := by
  -- The number of a poll shows in the log alone, so the induction leaves it open.
  induction left generalizing poll answers with
  | zero => rfl
  | succ left ih =>
    -- Both start with the same call; what is left is what each makes of its result.
    rw [pollFrom, quietPolls, Conversation.orThen, Client.poll, Conversation.bind_assoc,
      Conversation.bind_eq, Conversation.play_bind, Conversation.play_bind]
    generalize (Client.transactionReceipt submitter.url hash).play reaches answers = asked
    obtain ⟨result, requests, events, lines, rest⟩ := asked
    simp only [Transcript.unlogged_andThen, Conversation.bind]
    rcases result with error | _ | receipt
    · cases passes : error.isTransient with
      | true =>
        simp only [Client.settled, passes, ↓reduceIte, ← ih (poll + 1) rest]
        split <;> rfl
      | false =>
        simp only [Client.settled, passes, Bool.false_eq_true, ↓reduceIte]
        rfl
    · simp only [Client.settled, ← ih (poll + 1) rest]
      split <;> rfl
    · rfl

/-- A wait shows what quiet polls do, apart from the log. -/
theorem unlogged_play_awaitReceipt (reaches : Endpoint → Bool) (submitter : Submitter)
    (hash : String) (polls : Nat) (answers : List Answer) :
    ((submitter.awaitReceipt hash polls).play reaches answers).unlogged =
      ((submitter.quietPolls hash polls).play reaches answers).unlogged := by
  rw [play_awaitReceipt, ← unlogged_play_pollFrom hash polls 1 polls answers]
  rfl

/-- A wait that comes to nothing with a part of its budget goes on with the rest of it. -/
theorem play_awaitReceipt_add_of_nothing {hash : String} {first : Nat} {answers : List Answer}
    (nothing : ((submitter.awaitReceipt hash first).play reaches answers).result = .ok none)
    (second : Nat) :
    let one := (submitter.awaitReceipt hash first).play reaches answers
    let other := (submitter.awaitReceipt hash second).play reaches one.rest
    ((submitter.awaitReceipt hash (first + second)).play reaches answers).unlogged =
      (one.andThen other).unlogged := by
  intro one other
  have quiet := unlogged_play_awaitReceipt reaches submitter hash
  obtain ⟨came, -, -, left⟩ := Transcript.unlogged_eq_iff.1 (quiet first answers)
  rw [quiet, quietPolls_add, Conversation.play_orThen_of_nothing (came ▸ nothing),
    Transcript.unlogged_andThen, Transcript.unlogged_andThen, quiet first, ← left, quiet second]

/-- A wait that is settled with a part of its budget is the wait with that part. -/
theorem play_awaitReceipt_add_of_settled {hash : String} {first : Nat} {answers : List Answer}
    (settled : ((submitter.awaitReceipt hash first).play reaches answers).result ≠ .ok none)
    (second : Nat) :
    ((submitter.awaitReceipt hash (first + second)).play reaches answers).unlogged =
      ((submitter.awaitReceipt hash first).play reaches answers).unlogged := by
  have quiet := unlogged_play_awaitReceipt reaches submitter hash
  obtain ⟨came, -, -, -⟩ := Transcript.unlogged_eq_iff.1 (quiet first answers)
  have ended : ((submitter.quietPolls hash first).play reaches answers).result ≠ .ok none :=
    fun nothing => settled (came.trans nothing)
  rw [quiet, quietPolls_add, Conversation.play_orThen_of_settled ended, quiet]

/-- A wait of one poll is that poll, of which a failure that may pass counts as no receipt yet. -/
theorem play_awaitReceipt_one (hash : String) (answers : List Answer) :
    let asked := (Client.transactionReceipt submitter.url hash).play reaches answers
    ((submitter.awaitReceipt hash 1).play reaches answers).unlogged =
      { asked.unlogged with result := Client.settled asked.result } := by
  intro asked
  rw [unlogged_play_awaitReceipt, quietPolls, quietPolls, Conversation.orThen_nothing,
    Client.poll, Conversation.play_bind]
  simp only [Conversation.play, Transcript.unlogged, Transcript.andThen, List.append_nil, asked]

end Submitter

/-- Whether two answers count the same in a wait: they are one, or neither settles anything. -/
inductive CountsAs (first second : Option Answer) : Prop where
  /-- They are one answer. -/
  | same (same : first = second)
  /-- Both are pending or transient. -/
  | passing (one : Pending first ∨ Transient first) (other : Pending second ∨ Transient second)

/-- A pending or transient answer settles nothing. -/
theorem settled_of_passing {answer : Option Answer}
    (passing : Pending answer ∨ Transient answer) :
    Client.settled (pollOf answer) = .ok none := by
  rcases passing with pending | transient
  · rw [pollOf_of_pending pending]
    rfl
  · obtain ⟨error, failed, passes⟩ := pollOf_of_transient transient
    rw [failed, Client.settled, if_pos passes]

/-- Answers that count the same settle the same. -/
theorem CountsAs.settled {first second : Option Answer} (counts : CountsAs first second) :
    Client.settled (pollOf first) = Client.settled (pollOf second) := by
  cases counts with
  | same same => rw [same]
  | passing one other => rw [settled_of_passing one, settled_of_passing other]

/-- A poll comes to the same and posts the same against scripts that count the same, and leaves
such scripts. -/
theorem Client.play_poll_congr (reaches : Endpoint → Bool) (url hash : String)
    {first second : List Answer}
    (counts : ∀ place : Nat, CountsAs first[place]? second[place]?) :
    let one := (poll url hash).play reaches first
    let other := (poll url hash).play reaches second
    one.result = other.result ∧ one.requests = other.requests ∧
      ∀ place : Nat, CountsAs one.rest[place]? other.rest[place]? := by
  by_cases reached : Reached reaches url
  · have heads : CountsAs first.head? second.head? := by
      rw [List.head?_eq_getElem?, List.head?_eq_getElem?]
      exact counts 0
    simp only [poll, Conversation.play_bind, play_transactionReceipt reached, exchanged,
      Transcript.andThen, Conversation.play, List.append_nil]
    refine ⟨heads.settled, trivial, fun place => ?_⟩
    rw [List.getElem?_tail, List.getElem?_tail]
    exact counts (place + 1)
  · obtain ⟨fault, asked⟩ := play_transactionReceipt_of_not_reached reached hash
    simp only [poll, Conversation.play_bind, asked, unsent, Transcript.andThen, Conversation.play]
    exact ⟨trivial, trivial, counts⟩

/-- Quiet polls come to the same and post the same against scripts that count the same at every
place. -/
theorem Submitter.play_quietPolls_congr (reaches : Endpoint → Bool) (submitter : Submitter)
    (hash : String) (polls : Nat) {first second : List Answer}
    (counts : ∀ place : Nat, CountsAs first[place]? second[place]?) :
    let one := (submitter.quietPolls hash polls).play reaches first
    let other := (submitter.quietPolls hash polls).play reaches second
    one.result = other.result ∧ one.requests = other.requests := by
  induction polls generalizing first second with
  | zero => exact ⟨rfl, rfl⟩
  | succ polls ih =>
    obtain ⟨result, requests, ahead⟩ := Client.play_poll_congr reaches submitter.url hash counts
    dsimp only [quietPolls]
    by_cases nothing :
        ((Client.poll submitter.url hash).play reaches first).result = .ok none
    · obtain ⟨later, bodies⟩ := ih ahead
      rw [Conversation.play_orThen_of_nothing nothing,
        Conversation.play_orThen_of_nothing (result ▸ nothing)]
      simp only [Transcript.andThen, later, bodies, requests, and_self]
    · rw [Conversation.play_orThen_of_settled nothing,
        Conversation.play_orThen_of_settled (result ▸ nothing)]
      exact ⟨result, requests⟩

namespace Send

variable {reaches : Endpoint → Bool} {send : Send}

/-- A send that did not time out is, apart from the log, the same with more polls. -/
theorem play_execute_of_more {answers : List Answer}
    (settled : ∀ hash, (send.execute.play reaches answers).result ≠ .ok ⟨hash, .timedOut⟩)
    {more : UInt64} (raised : send.polls ≤ more) :
    (({ send with polls := more } : Send).execute.play reaches answers).unlogged =
      (send.execute.play reaches answers).unlogged := by
  cases submitted : ((send.submitter.submit send.call).play reaches answers).result with
  | error error =>
    have again : ((({ send with polls := more } : Send).submitter.submit send.call).play reaches
        answers).result = .error error := submitted
    rw [play_execute_of_failed submitted, play_execute_of_failed again]
    rfl
  | ok hash =>
    obtain ⟨-, -, gives⟩ := Submitter.play_submit_shape reaches send.submitter send.call answers
    obtain ⟨⟨transaction, encoded⟩, reached, taken, -⟩ := gives hash submitted
    rw [play_execute_of_taken reached encoded taken] at settled ⊢
    have reachedAgain : Reached reaches ({ send with polls := more } : Send).url := reached
    rw [play_execute_of_taken reachedAgain encoded taken]
    have ended : ((send.submitter.awaitReceipt hash send.polls.toNat).play reaches
        answers.tail).result ≠ .ok none := by
      intro nothing
      exact settled hash (congrArg (conclusion hash) nothing)
    obtain ⟨extra, sum⟩ := Nat.exists_eq_add_of_le (UInt64.le_iff_toNat_le.1 raised)
    have same := Submitter.play_awaitReceipt_add_of_settled ended extra
    rw [← sum] at same
    obtain ⟨result, requests, lines, rest⟩ := Transcript.unlogged_eq_iff.1 same
    rw [Transcript.unlogged_eq_iff]
    exact ⟨congrArg (conclusion hash) result, congrArg (List.cons _) requests,
      congrArg (List.cons hash) lines, rest⟩

end Send

/-- A verdict of success is one on a report whose receipt reports success. -/
theorem Program.verdictOf_eq_succeeded {result : Except Failure Report}
    (succeeded : verdictOf result = .succeeded) :
    ∃ hash receipt, result = .ok ⟨hash, .confirmed receipt⟩ := by
  rcases result with failure | ⟨hash, receipt | receipt | _⟩
  · exact nomatch succeeded
  · exact ⟨hash, receipt, rfl⟩
  · exact nomatch succeeded
  · exact nomatch succeeded

/-- A send that succeeds also succeeds with more polls. -/
theorem Program.play_sendAndJudge_of_more {reaches : Endpoint → Bool} {send : Send}
    {answers : List Answer}
    (succeeded : ((sendAndJudge send).play reaches answers).result = .succeeded) {more : UInt64}
    (raised : send.polls ≤ more) :
    ((sendAndJudge { send with polls := more }).play reaches answers).result = .succeeded := by
  cases checked : send.validate with
  | error failure =>
    rw [play_sendAndJudge_of_refused checked] at succeeded
    exact nomatch succeeded
  | ok _ =>
    obtain ⟨named, web, sender, target, params, polls, gas⟩ := Send.validate_eq_ok_iff.1 checked
    have some : more ≠ 0 := by
      rintro rfl
      exact polls (UInt64.le_zero_iff.1 raised)
    have accepted : ({ send with polls := more } : Send).validate = .ok () :=
      Send.validate_eq_ok_iff.2 ⟨named, web, sender, target, params, some, gas⟩
    rw [play_sendAndJudge checked] at succeeded
    obtain ⟨hash, receipt, confirmed⟩ := verdictOf_eq_succeeded succeeded
    have settled (other : String) :
        (send.execute.play reaches answers).result ≠ .ok ⟨other, .timedOut⟩ := by
      intro lost
      exact nomatch confirmed.symm.trans lost
    obtain ⟨same, -, -, -⟩ :=
      Transcript.unlogged_eq_iff.1 (Send.play_execute_of_more settled raised)
    rw [play_sendAndJudge accepted]
    dsimp only
    rw [same]
    exact succeeded

/-- A wait with the sum of two budgets comes to the same, posts the same and leaves the same answers
as a wait with the first and then, only if that came to nothing, one with the second on the answers
that are left; so a wait that is settled is the same with any larger budget. A wait of one poll is
that poll, of which a failure that may pass counts as no receipt yet. Answers that settle nothing
may be replaced by any others that settle nothing. And more polls change nothing about a send that
did not time out, so one that succeeds never fails with more of them. -/
theorem awaitReceipt_budget (reaches : Endpoint → Bool) (submitter : Submitter) (hash : String) :
    (∀ (first second : Nat) (answers : List Answer),
      let one := (submitter.awaitReceipt hash first).play reaches answers
      let other := (submitter.awaitReceipt hash second).play reaches one.rest
      let whole := (submitter.awaitReceipt hash (first + second)).play reaches answers
      (one.result = .ok none → whole.unlogged = (one.andThen other).unlogged) ∧
      (one.result ≠ .ok none → whole.unlogged = one.unlogged)) ∧
    (∀ answers : List Answer,
      let asked := (Client.transactionReceipt submitter.url hash).play reaches answers
      ((submitter.awaitReceipt hash 1).play reaches answers).unlogged =
        { asked.unlogged with result := Client.settled asked.result }) ∧
    (∀ (polls : Nat) (first second : List Answer),
      (∀ place : Nat, CountsAs first[place]? second[place]?) →
      let one := (submitter.awaitReceipt hash polls).play reaches first
      let other := (submitter.awaitReceipt hash polls).play reaches second
      one.result = other.result ∧ one.requests = other.requests) ∧
    (∀ (send : Send) (more : UInt64) (answers : List Answer), send.polls ≤ more →
      let raised : Send := { send with polls := more }
      let one := send.execute.play reaches answers
      ((∀ hash, one.result ≠ .ok ⟨hash, .timedOut⟩) →
        (raised.execute.play reaches answers).unlogged = one.unlogged) ∧
      (((Program.sendAndJudge send).play reaches answers).result = .succeeded →
        ((Program.sendAndJudge raised).play reaches answers).result = .succeeded)) := by
  refine ⟨fun first second answers => ⟨?_, ?_⟩, fun answers => ?_, ?_, ?_⟩
  · intro nothing
    exact Submitter.play_awaitReceipt_add_of_nothing nothing second
  · intro settled
    exact Submitter.play_awaitReceipt_add_of_settled settled second
  · exact Submitter.play_awaitReceipt_one hash answers
  · intro polls first second counts
    have quiet := Submitter.unlogged_play_awaitReceipt reaches submitter hash polls
    obtain ⟨came, asked, -, -⟩ := Transcript.unlogged_eq_iff.1 (quiet first)
    obtain ⟨otherCame, otherAsked, -, -⟩ := Transcript.unlogged_eq_iff.1 (quiet second)
    obtain ⟨result, requests⟩ := submitter.play_quietPolls_congr reaches hash polls counts
    exact ⟨came.trans (result.trans otherCame.symm), asked.trans (requests.trans otherAsked.symm)⟩
  · intro send more answers raised
    exact ⟨fun settled => Send.play_execute_of_more settled raised,
      fun succeeded => Program.play_sendAndJudge_of_more succeeded raised⟩

/-- A node that is in trouble, drops a connection, and then does not know the path: two polls come
to nothing, the third to a failure, and two answers that are missing or say nothing do as well as
the first two. A send that one poll confirms is confirmed with all the polls there can be. -/
theorem awaitReceipt_budget_third_poll :
    let url := "http://127.0.0.1:8547"
    let submitter : Submitter := { url }
    let wait (polls : Nat) (answers : List Answer) :=
      (submitter.awaitReceipt "0xabc" polls).play (fun _ => true) answers
    let answers : List Answer := [.sent 503 [] false, .dropped, .sent 404 [] false]
    let others : List Answer := [.sent 200 [] true, .sent 429 [] true, .sent 404 [] false]
    let address := "00000000000000000000000000000000000000fF"
    let send : Send := { url, call := ⟨address, address, "ping()", ""⟩, polls := 1 }
    let carrying (result : Json.Value) : Answer :=
      .sent 200 (Text.Utf8.encode (Json.Value.object [("result", result)]).text) false
    let taken := [carrying (.string "0xabc"), carrying (.object [("status", .string "0x1")])]
    let judge (polls : UInt64) :=
      (Program.sendAndJudge { send with polls }).play (fun _ => true) taken
    ((wait 2 answers).result = .ok none ∧
      (wait 5 answers).unlogged =
        ((wait 2 answers).andThen (wait 3 (wait 2 answers).rest)).unlogged) ∧
    ((wait 3 answers).result ≠ .ok none ∧
      (wait 9 answers).unlogged = (wait 3 answers).unlogged) ∧
    ((∀ place : Nat, CountsAs answers[place]? others[place]?) ∧
      (wait 4 answers).result = (wait 4 others).result) ∧
    ((judge 1).result = .succeeded ∧ (judge 18446744073709551615).result = .succeeded) := by
  intro url submitter wait answers others address send carrying taken judge
  obtain ⟨split, -, replace, raise⟩ := awaitReceipt_budget (fun _ => true) submitter "0xabc"
  have reached : Reached (fun _ => true) submitter.url := reached_local
  have passing : ∀ place < 2, Pending answers[place]? ∨ Transient answers[place]? := by
    intro place below
    obtain rfl | rfl : place = 0 ∨ place = 1 := by omega
    · exact .inr (.refused (.intro (by decide)) (by decide))
    · exact .inr (.unusable .dropped)
  have decides : Decides answers[2]? (.error (.httpStatus 404 "")) :=
    .refused (.intro (by decide)) (by decide)
  have nothing : (wait 2 answers).result = .ok none :=
    congrArg Transcript.result (Submitter.play_awaitReceipt_of_passing "0xabc" reached passing)
  have failed : (wait 3 answers).result ≠ .ok none := by
    have ended : (wait 3 answers).result = .error (.httpStatus 404 "") :=
      congrArg Transcript.result
        (Submitter.play_awaitReceipt_of_decides "0xabc" reached (by decide) passing decides)
    rw [ended]
    intro impossible
    cases impossible
  have counts : ∀ place : Nat, CountsAs answers[place]? others[place]? := by
    intro place
    rcases place with _ | _ | place
    · exact .passing (passing 0 (by decide)) (.inr (.unusable (.truncated (by decide) (by decide))))
    · exact .passing (passing 1 (by decide))
        (.inr (.refused (.intro (by decide)) (by decide)))
    · exact .same rfl
  have succeeded : (judge 1).result = .succeeded := by
    have accepted : send.validate = .ok () := by
      simp only [send, address, url]
      rfl
    obtain ⟨transaction, encoded⟩ := Send.exists_transaction_of_validate accepted
    have confirmed : Confirms taken.tail[0]? :=
      ⟨_, carries_of_canonical (.single (.string "0x1")) nofun, rfl⟩
    have shown : judge 1 = _ := Program.play_sendAndJudge accepted taken
    rw [shown]
    exact (Program.verdictOf_execute_iff encoded taken).2
      ⟨reached, ⟨"0xabc", carries_of_canonical (.string "0xabc") nofun⟩, 0, by decide, confirmed,
        fun earlier below => absurd below (Nat.not_lt_zero earlier)⟩
  exact ⟨⟨nothing, (split 2 3 answers).1 nothing⟩, ⟨failed, (split 3 6 answers).2 failed⟩,
    ⟨counts, (replace 4 answers others counts).1⟩,
    succeeded, (raise send 18446744073709551615 taken (by decide)).2 succeeded⟩

end Courier
