import Courier.Proofs.Refusals
import Courier.Proofs.Replies
import Courier.Proofs.Requests
import Courier.Session
import Mathlib.Algebra.GroupWithZero.Nat

/-!
# The course of a session

Each step of a session stands to those before it in the same way (`Session.Follows`): it goes on
with the answer behind those that they have met, with the hash that the last of them brought, and
does what it would do alone. From one step this carries over to the whole of a session by induction
on its steps (`Session.playFrom_getElem?`).
-/
namespace Courier

/-- Whether the addresses and the parameters of a call are spelled right. -/
structure Call.Sound (call : Call) : Prop where
  /-- The sender is an address. -/
  sender : ∃ sender, Address.parse call.sender = .ok sender
  /-- The target is an address. -/
  target : ∃ target, Address.parse call.target = .ok target
  /-- The parameters are whole bytes. -/
  params : ∃ params, Params.normalize call.params = .ok params

/-- A call comes to a transaction exactly if it is spelled right. -/
theorem Call.sound_iff {call : Call} :
    call.Sound ↔ ∃ transaction, Transaction.ofCall call = .ok transaction := by
  constructor
  · intro sound
    obtain ⟨sender, first⟩ := sound.sender
    obtain ⟨target, second⟩ := sound.target
    obtain ⟨params, third⟩ := sound.params
    unfold Transaction.ofCall
    rw [first, second, Calldata.encode, third]
    exact ⟨_, rfl⟩
  · intro built
    obtain ⟨transaction, encoded⟩ := built
    obtain ⟨first, second, third, _⟩ := Transaction.ofCall_eq_ok_iff.1 encoded
    refine ⟨⟨_, first⟩, ⟨_, second⟩, ?_⟩
    cases normal : Params.normalize call.params with
    | ok params => exact ⟨params, rfl⟩
    | error error =>
      have unencoded : Calldata.encode call.signature call.params = .error error :=
        Calldata.encode_eq_error_iff.2 normal
      have clash := third.symm.trans unencoded
      cases clash

/-- The transaction of a call has the gas limit and the price that are asked for, or the usual
ones. -/
theorem Transaction.ofCallWith_eq (call : Call) (gas : Option (UInt64 × UInt64)) :
    ofCallWith call gas = (ofCall call).map fun transaction =>
      let (limit, price) := gas.getD (defaultGas, defaultGasPrice)
      transaction.withGas limit price := by
  unfold ofCallWith
  cases encoded : ofCall call with
  | error error => rfl
  | ok transaction =>
    cases gas with
    | some gas => rfl
    | none =>
      obtain ⟨_, _, _, limit, price⟩ := ofCall_eq_ok_iff.1 encoded
      have usual : transaction.withGas defaultGas defaultGasPrice = transaction := by
        unfold withGas
        rw [← limit, ← price]
      exact congrArg Except.ok usual.symm

/-- The bodies that a call comes to with a gas limit and a price: one if it comes to a transaction,
and none if it does not. -/
def Call.bodies (call : Call) (gas : UInt64 × UInt64) : List String :=
  match Transaction.ofCall call with
  | .ok transaction => [(Rpc.Request.sendTransaction (transaction.withGas gas.1 gas.2)).text]
  | .error _ => []

/-- A call that is spelled right comes to one body, which asks for its transaction to be sent. -/
theorem Call.bodies_of_sound {call : Call} (sound : call.Sound) (gas : UInt64 × UInt64) :
    ∃ body, call.bodies gas = [body] ∧ Asks body "eth_sendTransaction" := by
  obtain ⟨transaction, encoded⟩ := Call.sound_iff.1 sound
  have read := Rpc.Request.ofText?_sendTransaction (transaction.withGas gas.1 gas.2)
  refine ⟨_, ?_, ⟨_, read⟩⟩
  unfold bodies
  rw [encoded]

/-- A call that is spelled wrong comes to no body. -/
theorem Call.bodies_of_not_sound {call : Call} (unsound : ¬call.Sound) (gas : UInt64 × UInt64) :
    call.bodies gas = [] := by
  unfold bodies
  cases encoded : Transaction.ofCall call with
  | ok transaction => exact absurd (Call.sound_iff.2 ⟨transaction, encoded⟩) unsound
  | error error => rfl

namespace Session

/-- The hash that came of a step, if it sent a transaction and the node took it. -/
def StepResult.sent? : StepResult → Option String
  | .hash (.ok sent) => some sent
  | _ => none

/-- The hash that a transcript brings, if it brings one. -/
def brought? (transcript : Transcript StepResult) : Option String := transcript.result.sent?

/-- How many requests transcripts show. -/
def asked (shown : List (Transcript StepResult)) : Nat :=
  (shown.map (·.requests.length)).sum

/-- The hash that the last of transcripts brought that brought one, or one from before them. -/
def lastFrom (before : String) (shown : List (Transcript StepResult)) : String :=
  (shown.filterMap brought?).getLast?.getD before

/-- The hash that the last of transcripts brought that brought one, or the empty one. -/
def lastSent (shown : List (Transcript StepResult)) : String := lastFrom "" shown

namespace Step

/-- The step with a hash in the place of one that it leaves open. -/
def naming (last : String) : Step → Step
  | .await hash polls => .await (some (hash.getD last)) polls
  | .receipt hash => .receipt (some (hash.getD last))
  | step => step

/-- Whether a step sends a transaction. -/
def Sends : Step → Prop
  | .submit _ | .send _ _ => True
  | .await _ _ | .receipt _ => False

end Step

/-- Whether bodies ask for the receipt of a hash and nothing else. -/
def OnlyReceipts (hash : String) (bodies : List String) : Prop :=
  ∀ body ∈ bodies, ¬Asks body "eth_sendTransaction" ∧
    Json.Value.ofText? body =
      some (Rpc.Request.decoded "eth_getTransactionReceipt" (.array [.string hash]))

/-- Whether bodies are what a step may post after a last hash. -/
def Step.MayPost (last : String) : Step → List String → Prop
  | .submit call, bodies | .send call _, bodies =>
    (call.Sound → ∃ body, bodies = [body] ∧ Asks body "eth_sendTransaction") ∧
      (¬call.Sound → bodies = [])
  | .await hash polls, bodies => bodies.length ≤ polls ∧ OnlyReceipts (hash.getD last) bodies
  | .receipt hash, bodies => bodies.length = 1 ∧ OnlyReceipts (hash.getD last) bodies

/-- How a step of a session stands to the transcripts of the steps before it. -/
structure Follows (reaches : Endpoint → Bool) (submitter : Submitter) (answers : List Answer)
    (before : List (Transcript StepResult)) (step : Step) (transcript : Transcript StepResult) :
    Prop where
  /-- With its hash named, it shows all that it would show in a session of its own, on the answers
  that those before it have not met. -/
  alone : play reaches submitter [step.naming (lastSent before)] (answers.drop (asked before)) =
    [transcript]
  /-- The reply to each of its bodies is the answer with the number that the body has in the whole
  session. -/
  answered : (step.run submitter (lastSent before)).Held reaches
    (numbered answers (asked before) transcript.requests) transcript.result
  /-- It posts what it may. -/
  posts : step.MayPost (lastSent before) transcript.requests
  /-- It brings a hash only if it sends. -/
  sends : ∀ hash, brought? transcript = some hash → step.Sends
  /-- The hash that it brings is the last one then, and else the last one stays as it is. -/
  last : lastSent (before ++ [transcript]) = (brought? transcript).getD (lastSent before)

variable {reaches : Endpoint → Bool} {submitter : Submitter}

/-- A step with its hash named does not look at the last one. -/
theorem Step.run_naming (submitter : Submitter) (step : Step) (last other : String) :
    (step.naming last).run submitter other = step.run submitter last := by
  cases step <;> rfl

/-- The last hash after a step is the one that came of it, if one did. -/
theorem StepResult.lastHash_eq (result : StepResult) (last : String) :
    result.lastHash last = result.sent?.getD last := by
  cases result with
  | hash result => cases result <;> rfl
  | receipt result => rfl

/-- The last hash of transcripts and one more. -/
theorem lastSent_append (before : List (Transcript StepResult))
    (transcript : Transcript StepResult) :
    lastSent (before ++ [transcript]) = (brought? transcript).getD (lastSent before) := by
  unfold lastSent lastFrom
  rw [List.filterMap_append]
  cases sent : brought? transcript with
  | none => simp [sent]
  | some hash => simp [sent]

/-- Only steps that send bring a hash. -/
theorem Step.sends_of_sent? (step : Step) (last : String) (answers : List Answer) (hash : String)
    (sent : brought? ((step.run submitter last).play reaches answers) = some hash) :
    step.Sends := by
  cases step with
  | submit call => trivial
  | send call gas => trivial
  | await named polls =>
    rw [brought?, run, Conversation.play_wrap] at sent
    exact nomatch sent
  | receipt named =>
    rw [brought?, run, Conversation.play_wrap] at sent
    exact nomatch sent

/-- A submission posts the bodies of its call. -/
theorem requests_submit (reached : Reached reaches submitter.url) (call : Call) (last : String)
    (answers : List Answer) :
    (((Step.submit call).run submitter last).play reaches answers).requests =
      call.bodies (submitter.gas, submitter.gasPrice) := by
  rw [Step.run, Conversation.play_wrap]
  unfold Call.bodies
  cases encoded : Transaction.ofCall call with
  | ok transaction =>
    rw [Submitter.play_submit reached encoded]
    rfl
  | error error =>
    rw [Submitter.play_submit_of_error encoded]
    rfl

/-- A call that is sent with a gas limit and a price of its own, or the usual ones, posts the bodies
of the call with these. -/
theorem requests_send (reached : Reached reaches submitter.url) (call : Call)
    (gas : Option (UInt64 × UInt64)) (last : String) (answers : List Answer) :
    (((Step.send call gas).run submitter last).play reaches answers).requests =
      call.bodies (gas.getD (defaultGas, defaultGasPrice)) := by
  rw [Step.run, Conversation.play_wrap]
  unfold sendQuietly Call.bodies
  rw [Transaction.ofCallWith_eq]
  cases Transaction.ofCall call with
  | error error => rfl
  | ok transaction =>
    dsimp only [Except.map]
    rw [Conversation.play_wrap, Client.play_sendTransaction reached]
    rfl

/-- A text that asks for a receipt asks for nothing else. -/
theorem onlyReceipts_replicate (hash : String) (count : Nat) :
    OnlyReceipts hash (List.replicate count (Rpc.Request.transactionReceipt hash).text) := by
  intro body listed
  have same := List.eq_of_mem_replicate listed
  have read := Rpc.Request.ofText?_transactionReceipt hash
  rw [← same] at read
  refine ⟨fun sends => ?_, read⟩
  have clash := asks_unique sends ⟨_, read⟩
  exact absurd clash (by decide)

/-- A step posts what it may. -/
theorem Step.mayPost (reached : Reached reaches submitter.url) (step : Step) (last : String)
    (answers : List Answer) :
    step.MayPost last ((step.run submitter last).play reaches answers).requests := by
  cases step with
  | submit call =>
    rw [requests_submit reached]
    exact ⟨fun sound => Call.bodies_of_sound sound _, fun other => Call.bodies_of_not_sound other _⟩
  | send call gas =>
    rw [requests_send reached]
    exact ⟨fun sound => Call.bodies_of_sound sound _, fun other => Call.bodies_of_not_sound other _⟩
  | await hash polls =>
    obtain ⟨_, count, within, _, requests⟩ :=
      Submitter.requests_awaitReceipt reached (hash.getD last) polls answers
    rw [run, Conversation.play_wrap]
    dsimp only
    rw [requests]
    refine ⟨?_, onlyReceipts_replicate _ count⟩
    rw [List.length_replicate]
    exact within
  | receipt hash =>
    have posted : (((Step.receipt hash).run submitter last).play reaches answers).requests =
        [(Rpc.Request.transactionReceipt (hash.getD last)).text] := by
      rw [run, Conversation.play_wrap, Client.play_transactionReceipt reached]
      rfl
    rw [posted]
    exact ⟨List.length_singleton, onlyReceipts_replicate _ 1⟩

/-- What came of the first transcript is the last hash before the others. -/
theorem lastFrom_cons (last : String) (transcript : Transcript StepResult)
    (shown : List (Transcript StepResult)) :
    lastFrom last (transcript :: shown) =
      lastFrom (transcript.result.lastHash last) shown := by
  rw [StepResult.lastHash_eq]
  unfold lastFrom
  cases sent : transcript.result.sent? with
  | none =>
    rw [List.filterMap_cons_none (f := brought?) sent, Option.getD_none]
  | some hash =>
    rw [List.filterMap_cons_some (f := brought?) sent, List.getLast?_cons, Option.getD_some,
      Option.getD_some]

/-- The transcript of a step is that of the step after the last hash of those before it, on the
answers that those have not met. -/
theorem playFrom_getElem? (reaches : Endpoint → Bool) (submitter : Submitter) (last : String)
    (steps : List Step) (answers : List Answer) (place : Nat) :
    let shown := playFrom reaches submitter last steps answers
    let before := shown.take place
    shown[place]? = steps[place]?.map fun step =>
      (step.run submitter (lastFrom last before)).play reaches (answers.drop (asked before)) := by
  induction steps generalizing last answers place with
  | nil => rfl
  | cons step steps ih =>
    cases place with
    | zero => rfl
    | succ place =>
      let transcript := (step.run submitter last).play reaches answers
      let later :=
        playFrom reaches submitter (transcript.result.lastHash last) steps transcript.rest
      have left : transcript.rest = answers.drop transcript.requests.length :=
        Conversation.rest_play reaches (step.run submitter last) answers
      have counted : asked (transcript :: later.take place) =
          transcript.requests.length + asked (later.take place) := rfl
      show later[place]? = steps[place]?.map fun step =>
        (step.run submitter (lastFrom last (transcript :: later.take place))).play reaches
          (answers.drop (asked (transcript :: later.take place)))
      rw [lastFrom_cons, counted, ← List.drop_drop, ← left]
      exact ih (transcript.result.lastHash last) transcript.rest place

/-- There is one transcript for each step. -/
theorem length_playFrom (last : String) (steps : List Step) (answers : List Answer) :
    (playFrom reaches submitter last steps answers).length = steps.length := by
  induction steps generalizing last answers with
  | nil => rfl
  | cons step steps ih => exact congrArg (· + 1) (ih _ _)

/-- On a URL that reaches the node, each step of a session stands to those before it as it should. A
step that submits a call and one that sends the same call with the gas limit and the price of the
session post the same, wherever they stand. -/
theorem play_follows (reached : Reached reaches submitter.url) (steps : List Step)
    (answers : List Answer) :
    let shown := play reaches submitter steps answers
    shown.length = steps.length ∧
    (∀ (place : Nat) (step : Step) (transcript : Transcript StepResult),
      steps[place]? = some step → shown[place]? = some transcript →
        Follows reaches submitter answers (shown.take place) step transcript) ∧
    ∀ (place other : Nat) (call : Call) (gas : Option (UInt64 × UInt64))
      (one another : Transcript StepResult),
      steps[place]? = some (.submit call) → shown[place]? = some one →
      steps[other]? = some (.send call gas) → shown[other]? = some another →
      gas.getD (defaultGas, defaultGasPrice) = (submitter.gas, submitter.gasPrice) →
        one.requests = another.requests := by
  intro shown
  have each (place : Nat) (step : Step) (transcript : Transcript StepResult)
      (taken : steps[place]? = some step) (showed : shown[place]? = some transcript) :
      transcript = (step.run submitter (lastSent (shown.take place))).play reaches
        (answers.drop (asked (shown.take place))) := by
    have found : shown[place]? = steps[place]?.map _ :=
      playFrom_getElem? reaches submitter "" steps answers place
    rw [showed, taken] at found
    exact Option.some.inj found
  refine ⟨length_playFrom "" steps answers, ?_, ?_⟩
  · intro place step transcript taken showed
    have played := each place step transcript taken showed
    have wound := Conversation.held_play reaches
      (step.run submitter (lastSent (shown.take place))) answers (asked (shown.take place))
    rw [← played] at wound
    refine ⟨?_, wound, ?_, ?_, lastSent_append _ _⟩
    · show [((step.naming _).run submitter "").play reaches _] = [transcript]
      rw [Step.run_naming, ← played]
    · rw [played]
      exact step.mayPost reached _ _
    · rw [played]
      exact step.sends_of_sent? _ _
  · intro place other call gas one another submits first sends second usual
    rw [each place _ one submits first, each other _ another sends second,
      requests_submit reached, requests_send reached, usual]

/-- The node takes a transaction under a hash, and drops the connection when it is asked for the
receipt. That takes up an answer and leaves the hash as it is, so a wait that names none goes on
with the next answer and with that hash. The same call sent once more is the same body. -/
theorem play_follows_wait_after_receipt :
    let reaches : Endpoint → Bool := fun _ => true
    let submitter : Submitter := { url := "http://127.0.0.1:8547", gas := 7, gasPrice := 9 }
    let address := "00000000000000000000000000000000000000fF"
    let call : Call := ⟨address, address, "ping()", ""⟩
    let steps : List Step := [.submit call, .receipt none, .await none 3, .send call (some (7, 9))]
    let taken : Answer := .sent 200 (Text.Utf8.encode "\x7b\"result\":\"0xab\"\x7d") false
    let answers : List Answer := [taken, .dropped, .sent 500 [] false, .dropped]
    let shown := play reaches submitter steps answers
    Reached reaches submitter.url ∧
      ∃ submission receipt wait resent, shown = [submission, receipt, wait, resent] ∧
        brought? submission = some "0xab" ∧ brought? receipt = none ∧
        play reaches submitter [.await (some "0xab") 3] [.sent 500 [] false, .dropped] = [wait] ∧
        submission.requests = resent.requests := by
  intro reaches submitter address call steps taken answers shown
  have reached : Reached reaches submitter.url := reached_local
  have parses : ∃ parsed, Address.parse address = .ok parsed := by
    simp only [address]
    exact ⟨_, rfl⟩
  have sound : call.Sound := ⟨parses, parses, "", rfl⟩
  obtain ⟨transaction, encoded⟩ := Call.sound_iff.1 sound
  have carries : Carries answers.head? (some (.string "0xab")) :=
    carries_of_ofText? (.object [(.ofText "result", .scalar (.string (.ofText "0xab")))]) rfl rfl
  obtain ⟨-, follows, alike⟩ := play_follows reached steps answers
  obtain ⟨submission, receipt, wait, resent, all⟩ :
      ∃ submission receipt wait resent, shown = [submission, receipt, wait, resent] :=
    ⟨_, _, _, _, rfl⟩
  have first := follows 0 _ submission rfl (congrArg (·[0]?) all)
  have second := follows 1 _ receipt rfl (congrArg (·[1]?) all)
  have third := follows 2 _ wait rfl (congrArg (·[2]?) all)
  have one : shown.take 1 = [submission] := congrArg (·.take 1) all
  have two : shown.take 2 = [submission, receipt] := congrArg (·.take 2) all
  rw [show (play _ _ _ _).take 1 = [submission] from one] at second
  rw [show (play _ _ _ _).take 2 = [submission, receipt] from two] at third
  have sent : brought? submission = some "0xab" := by
    have alone : submission = ((Step.submit call).run submitter "").play reaches answers :=
      (List.singleton_inj.1 first.alone).symm
    rw [alone, brought?, Step.run, Conversation.play_wrap, Submitter.play_submit reached encoded,
      submissionOf_eq_ok_iff.2 carries]
    rfl
  have unsent : brought? receipt = none := by
    cases brought : brought? receipt with
    | none => rfl
    | some hash => exact absurd (second.sends hash brought) id
  have last : lastSent [submission, receipt] = "0xab" := by
    have before := first.last
    have after := second.last
    rw [sent] at before
    rw [unsent] at after
    exact after.trans before
  have asked : asked [submission, receipt] = 2 := by
    obtain ⟨body, posted, -⟩ := first.posts.1 sound
    simp [asked, posted, second.posts.1]
  have alone := third.alone
  rw [asked, last] at alone
  exact ⟨reached, submission, receipt, wait, resent, all, sent, unsent, alone,
    alike 0 3 call _ _ _ rfl (congrArg (·[0]?) all) rfl (congrArg (·[3]?) all) rfl⟩

end Session

end Courier
