import Courier.Proofs.Answers
import Courier.Proofs.Results
import Courier.Send

/-!
# What of an answer matters

Two answers are alike (`Alike`) if both are of no use, or report the same error, or carry the same
result, or refuse with the same status and text. That is as much as a client heeds: alike answers
are those of one outcome, but for the fault that makes an answer useless (`alike_iff`).

Two conversations that go on side by side after replies of one outcome (`Conversation.Agree`) show
the same against scripts that are alike at every place (`Conversation.Agree.play`), but for what is
cut: the faults, and the results that the client shows to those who look closely. A send agrees with
itself, so what else an answer holds, and how its body is spelled, has no influence on a run.
-/
namespace Courier

variable {α β γ δ ε ε' : Type}

/-! ### What is cut -/

/-- An error without the fault that it names, if that is one of an answer. -/
def Rpc.Error.cut : Rpc.Error → Rpc.Error
  | .requestFailed .unsendable => .requestFailed .unsendable
  | .requestFailed _ => .requestFailed .lost
  | error => error

/-- What is wrong with a submission, without a fault. -/
def SubmitError.cut : SubmitError → SubmitError
  | .rpc error => .rpc error.cut
  | error => error

/-- A failure without a fault. -/
def Failure.cut : Failure → Failure
  | .notSubmitted error => .notSubmitted error.cut
  | .notFetched hash error => .notFetched hash error.cut
  | failure => failure

/-- An event without a fault, and without the result of an envelope that the client shows. -/
def Event.cut : Event → Event
  | .retrying poll polls error => .retrying poll polls error.cut
  | .response method _ => .response method none
  | event => event

/-- Whether an error may pass does not depend on what is cut from it. -/
theorem Rpc.Error.isTransient_cut (error : Rpc.Error) :
    error.cut.isTransient = error.isTransient := by
  cases error with
  | requestFailed fault => cases fault <;> rfl
  | httpStatus status text => rfl
  | rpc code message => rfl
  | invalidResponse detail => rfl

/-- Which part of the program has written an event does not depend on what is cut from it. -/
theorem Event.origin_cut (event : Event) : event.cut.origin = event.origin := by
  cases event <;> rfl

/-- The wording of an error does not depend on what is cut from it if all faults are called the
same. -/
theorem Rpc.Error.message_cut {wording : Rpc.Wording}
    (unnamed : ∀ fault, wording.fault fault = wording.fault .lost) (error : Rpc.Error) :
    error.cut.message wording = error.message wording := by
  cases error with
  | requestFailed fault =>
    have lost : (Rpc.Error.requestFailed .lost).message wording =
        (Rpc.Error.requestFailed fault).message wording :=
      congrArg ("HTTP request failed: " ++ ·) (unnamed fault).symm
    cases fault with
    | unsendable => rfl
    | _ => exact lost
  | _ => rfl

/-- The line of an event does not depend on what is cut from it if all faults are called the same
and the event is none of the client's. -/
theorem Event.line_cut {wording : Rpc.Wording}
    (unnamed : ∀ fault, wording.fault fault = wording.fault .lost) {event : Event}
    (own : event.origin ≠ .client) : event.cut.line wording = event.line wording := by
  cases event with
  | retrying poll polls error =>
    have same := Rpc.Error.message_cut unnamed error
    exact congrArg (fun text => Level.debug.name ++ " " ++
      ("Poll " ++ toString poll ++ "/" ++ toString polls ++ " failed, retrying: " ++ text)) same
  | response method result => exact absurd rfl own
  | _ => rfl

/-- Two results are the same under a change of errors if both are one value, or both are errors that
the change makes one. -/
theorem cases_of_mapError_eq {change : ε → ε'} {one other : Except ε α}
    (same : one.mapError change = other.mapError change) :
    (∃ value, one = .ok value ∧ other = .ok value) ∨
      ∃ error another, one = .error error ∧ other = .error another ∧
        change error = change another := by
  cases one with
  | ok value =>
    cases other with
    | ok another =>
      obtain rfl : value = another := Except.ok.inj same
      exact .inl ⟨value, rfl, rfl⟩
    | error error => exact nomatch same
  | error error =>
    cases other with
    | ok value => exact nomatch same
    | error another => exact .inr ⟨error, another, rfl, rfl, Except.error.inj same⟩

/-! ### Alike answers -/

/-- Whether two answers mean the same, where a missing answer counts as one. -/
inductive Alike (first second : Option Answer) : Prop where
  /-- Both are of no use. -/
  | unusable {fault another : Rpc.TransportFault} (one : Unusable first fault)
    (other : Unusable second another)
  /-- Both report an error of one code and one message. -/
  | reports {code : Int} {message : String} (one : Reports first code message)
    (other : Reports second code message)
  /-- Both carry one result; a result of `null` is none. -/
  | carries {result : Option Json.Value} (one : Carries first result)
    (other : Carries second result)
  /-- Both refuse with one status and one text. -/
  | refuses {status : Nat} {text : String} (one : Refuses first status text)
    (other : Refuses second status text)

/-- Whether two replies come to one outcome, but for a fault. -/
def Reply.Like (one other : Reply) : Prop :=
  one.outcome.mapError Rpc.Error.cut = other.outcome.mapError Rpc.Error.cut

/-- Whether an answer comes to an outcome from which the fault is cut, by its class. No answer by
itself is an invalid one: that depends on what was asked. -/
def ComesTo (answer : Option Answer) : Except Rpc.Error (Option Json.Value) → Prop
  | .ok result => Carries answer result
  | .error (.rpc code message) => Reports answer code message
  | .error (.httpStatus status text) => Refuses answer status text
  | .error (.requestFailed _) => ∃ fault, Unusable answer fault
  | .error (.invalidResponse _) => False

/-- An answer that is of no use comes to a fault that is cut. -/
theorem mapError_cut_of_unusable {answer : Option Answer} {fault : Rpc.TransportFault}
    (unusable : Unusable answer fault) :
    (replyTo answer).outcome.mapError Rpc.Error.cut = .error (.requestFailed .lost) := by
  rw [outcome_of_unusable unusable]
  cases unusable <;> rfl

/-- An answer comes to its outcome. -/
theorem comesTo_outcome (answer : Option Answer) :
    ComesTo answer ((replyTo answer).outcome.mapError Rpc.Error.cut) := by
  rcases delivers_or_refuses_or_unusable answer with
    ⟨envelope, delivers⟩ | ⟨status, text, refuses⟩ | ⟨fault, unusable⟩
  · cases failed : envelope.error with
    | some error =>
      have reports : Reports answer error.code error.message :=
        ⟨envelope, error, delivers, failed, rfl, rfl⟩
      rw [outcome_of_reports reports]
      exact reports
    | none =>
      have carries : Carries answer envelope.result := ⟨envelope, delivers, failed, rfl⟩
      rw [outcome_of_carries carries]
      exact carries
  · rw [outcome_of_refuses refuses]
    exact refuses
  · rw [mapError_cut_of_unusable unusable]
    exact ⟨fault, unusable⟩

/-- Answers that come to one outcome are alike. -/
theorem alike_of_comesTo {first second : Option Answer}
    {outcome : Except Rpc.Error (Option Json.Value)} (one : ComesTo first outcome)
    (other : ComesTo second outcome) : Alike first second := by
  cases outcome with
  | ok result => exact .carries one other
  | error error =>
    cases error with
    | requestFailed _ =>
      obtain ⟨_, one⟩ := one
      obtain ⟨_, other⟩ := other
      exact .unusable one other
    | httpStatus status text => exact .refuses one other
    | rpc code message => exact .reports one other
    | invalidResponse detail => exact one.elim

/-- Alike answers are the answers of one outcome, but for a fault. -/
theorem alike_iff {first second : Option Answer} :
    Alike first second ↔ (replyTo first).Like (replyTo second) := by
  constructor
  · intro alike
    unfold Reply.Like
    cases alike with
    | unusable one other =>
      rw [mapError_cut_of_unusable one, mapError_cut_of_unusable other]
    | reports one other => rw [outcome_of_reports one, outcome_of_reports other]
    | carries one other => rw [outcome_of_carries one, outcome_of_carries other]
    | refuses one other => rw [outcome_of_refuses one, outcome_of_refuses other]
  · intro like
    have one := comesTo_outcome first
    rw [like] at one
    exact alike_of_comesTo one (comesTo_outcome second)

/-! ### Conversations side by side -/

/-- Two transcripts that show the same but for what is cut, with scripts left that are alike at
every place. -/
structure Transcript.Matches (hide : α → β) (one other : Transcript α) : Prop where
  /-- The results are the same but for what is cut. -/
  result : hide one.result = hide other.result
  /-- The node receives the same. -/
  requests : one.requests = other.requests
  /-- The log is the same. -/
  events : one.events.map Event.cut = other.events.map Event.cut
  /-- The output is the same. -/
  lines : one.lines = other.lines
  /-- Place by place the answers left are alike. -/
  rest : ∀ place : Nat, Alike one.rest[place]? other.rest[place]?

namespace Conversation

/-- Whether two conversations do the same step by step, but for what is cut, and go on so after any
two replies that are like. What they come to is the same but for what `hide` leaves out. -/
inductive Agree (hide : α → β) : Conversation α → Conversation α → Prop where
  /-- Both are over. -/
  | done {one other : α} (same : hide one = hide other) : Agree hide (.done one) (.done other)
  /-- Both post one body to one endpoint. -/
  | post {endpoint : Endpoint} {body : String} {one other : Reply → Conversation α}
    (later : ∀ reply another : Reply, reply.Like another → Agree hide (one reply) (other another)) :
    Agree hide (.post endpoint body one) (.post endpoint body other)
  /-- Both write an event to the log. -/
  | log {event another : Event} {one other : Conversation α} (same : event.cut = another.cut)
    (later : Agree hide one other) : Agree hide (.log event one) (.log another other)
  /-- Both print one line. -/
  | print {line : String} {one other : Conversation α} (later : Agree hide one other) :
    Agree hide (.print line one) (.print line other)
  /-- Both wait for one time. -/
  | pause {milliseconds : Nat} {one other : Conversation α} (later : Agree hide one other) :
    Agree hide (.pause milliseconds one) (.pause milliseconds other)

/-- Two conversations in a row agree with two others if the first ones do, and the second ones do on
results that are the same but for what is hidden. -/
theorem Agree.bind {hide : α → γ} {conceal : β → δ} {one other : Conversation α}
    {next another : α → Conversation β} (agree : one.Agree hide other)
    (after : ∀ result same, hide result = hide same →
      (next result).Agree conceal (another same)) :
    (one >>= next).Agree conceal (other >>= another) := by
  rw [bind_eq, bind_eq]
  induction agree with
  | done same => exact after _ _ same
  | post _ ih => exact .post ih
  | log same _ ih => exact .log same ih
  | print _ ih => exact .print ih
  | pause _ ih => exact .pause ih

/-- Conversations that agree go on to agree behind steps that agree. -/
theorem Agree.after {conceal : β → δ} {step other : Conversation Unit}
    {next another : Conversation β} (agree : step.Agree id other)
    (later : next.Agree conceal another) :
    (step >>= fun _ => next).Agree conceal (other >>= fun _ => another) :=
  agree.bind fun _ _ _ => later

/-- An event is recorded in the same way but for what is cut. -/
theorem agree_record {event another : Event} (same : event.cut = another.cut) :
    (record event).Agree id (record another) := .log same (.done rfl)

/-- Conversations that agree show the same against scripts that are alike at every place. -/
theorem Agree.play {hide : α → β} {one other : Conversation α} (agree : one.Agree hide other)
    (reaches : Endpoint → Bool) {first second : List Answer}
    (alike : ∀ place : Nat, Alike first[place]? second[place]?) :
    (one.play reaches first).Matches hide (other.play reaches second) := by
  induction agree generalizing first second with
  | done same => exact ⟨same, rfl, rfl, rfl, alike⟩
  | @post endpoint body one other later ih =>
    simp only [Conversation.play]
    split
    · -- The first answers are alike, so the replies are like, and the scripts left are alike.
      have like : (nextReply first).Like (nextReply second) := by
        rw [nextReply_eq, nextReply_eq, List.head?_eq_getElem?, List.head?_eq_getElem?]
        exact alike_iff.1 (alike 0)
      have ahead : ∀ place : Nat, Alike first.tail[place]? second.tail[place]? := by
        intro place
        rw [List.getElem?_tail, List.getElem?_tail]
        exact alike (place + 1)
      obtain ⟨result, requests, events, lines, rest⟩ := ih _ _ like ahead
      exact ⟨result, congrArg (body :: ·) requests, events, lines, rest⟩
    · exact ih .lost .lost rfl alike
  | @log event another one other same later ih =>
    obtain ⟨result, requests, events, lines, rest⟩ := ih alike
    refine ⟨result, requests, ?_, lines, rest⟩
    show event.cut :: _ = another.cut :: _
    rw [same]
    exact congrArg (another.cut :: ·) events
  | @print line one other later ih =>
    obtain ⟨result, requests, events, lines, rest⟩ := ih alike
    exact ⟨result, requests, events, congrArg (line :: ·) lines, rest⟩
  | pause later ih => exact ih alike

end Conversation

open Conversation (Agree agree_record)

/-! ### A send agrees with itself -/

/-- Whether an outcome comes from an envelope. -/
def isFromEnvelope : Except Rpc.Error (Option Json.Value) → Bool
  | .ok _ | .error (.rpc ..) => true
  | .error _ => false

/-- A reply without an envelope never counts as an error that the node reports. -/
theorem Reply.envelope_ne_rpc (reply : Reply) (code : Int) (message : String) :
    reply.envelope ≠ .error (.rpc code message) := by
  intro failed
  cases reply with
  | lost => cases failed
  | received status body =>
    by_cases success : isSuccessStatus status = true
    · unfold envelope at failed
      dsimp only at failed
      rw [if_pos success] at failed
      cases body with
      | none => cases failed
      | some bytes =>
        dsimp only at failed
        cases read : Rpc.Envelope.ofBytes? bytes with
        | none =>
          rw [read] at failed
          cases failed
        | some envelope =>
          rw [read] at failed
          cases failed
    · unfold envelope at failed
      dsimp only at failed
      rw [if_neg success] at failed
      cases failed

/-- Whether a reply brings an envelope shows in its outcome, even if a fault is cut from it. -/
theorem Reply.isOk_envelope (reply : Reply) :
    reply.envelope.isOk = isFromEnvelope (reply.outcome.mapError Rpc.Error.cut) := by
  unfold outcome
  cases brought : reply.envelope with
  | ok envelope =>
    have read : (Except.ok envelope).bind Rpc.Envelope.outcome = envelope.outcome := rfl
    rw [read, Rpc.Envelope.outcome]
    cases envelope.error <;> rfl
  | error error =>
    cases error with
    | requestFailed fault => cases fault <;> rfl
    | rpc code message => exact absurd brought (envelope_ne_rpc reply code message)
    | _ => rfl

namespace Client

/-- Replies that are like are taken in the same way, and either both bring an envelope or neither
does. -/
theorem agree_take (request : Rpc.Request) {one other : Reply} (like : one.Like other) :
    (take request one).Agree (Except.mapError Rpc.Error.cut) (take request other) := by
  have both : one.envelope.isOk = other.envelope.isOk := by
    rw [one.isOk_envelope, other.isOk_envelope, like]
  unfold Reply.Like Reply.outcome at like
  unfold take
  cases first : one.envelope with
  | ok envelope =>
    cases second : other.envelope with
    | ok another =>
      rw [first, second] at like
      exact .log rfl (.done like)
    | error error =>
      rw [first, second] at both
      exact nomatch both
  | error error =>
    cases second : other.envelope with
    | ok another =>
      rw [first, second] at both
      exact nomatch both
    | error another =>
      rw [first, second] at like
      exact .done like

/-- A call agrees with itself. -/
theorem agree_call (url : String) (request : Rpc.Request) :
    (call url request).Agree (Except.mapError Rpc.Error.cut) (call url request) := by
  apply (agree_record rfl).after
  cases Endpoint.parse? url with
  | none => exact .done rfl
  | some endpoint => exact .post fun _ _ like => agree_take request like

/-- A transaction sent agrees with itself. -/
theorem agree_sendTransaction (url : String) (transaction : Transaction) :
    (sendTransaction url transaction).Agree (Except.mapError Rpc.Error.cut)
      (sendTransaction url transaction) := by
  apply (agree_call url _).bind
  intro outcome another same
  rcases cases_of_mapError_eq same with ⟨result, rfl, rfl⟩ | ⟨error, other, rfl, rfl, cuts⟩
  · exact .done rfl
  · exact .done (congrArg Except.error cuts)

/-- A receipt asked for agrees with itself. -/
theorem agree_transactionReceipt (url hash : String) :
    (transactionReceipt url hash).Agree (Except.mapError Rpc.Error.cut)
      (transactionReceipt url hash) := by
  apply (agree_call url _).bind
  intro outcome another same
  rcases cases_of_mapError_eq same with ⟨result, rfl, rfl⟩ | ⟨error, other, rfl, rfl, cuts⟩
  · exact .done rfl
  · exact .done (congrArg Except.error cuts)

end Client

namespace Submitter

/-- A submission agrees with itself. -/
theorem agree_submit (submitter : Submitter) (call : Call) :
    (submitter.submit call).Agree (Except.mapError SubmitError.cut) (submitter.submit call) := by
  unfold submit
  cases Transaction.ofCall call with
  | error error => exact .done rfl
  | ok transaction =>
    apply (agree_record rfl).after
    apply (Client.agree_sendTransaction submitter.url _).bind
    intro result another same
    rcases cases_of_mapError_eq same with ⟨hash, rfl, rfl⟩ | ⟨error, other, rfl, rfl, cuts⟩
    · exact (agree_record rfl).after (.done rfl)
    · exact .done (congrArg (Except.error <| SubmitError.rpc ·) cuts)

/-- Polls agree with themselves, however many are left. -/
theorem agree_pollFrom (submitter : Submitter) (hash : String) (polls poll left : Nat) :
    (submitter.pollFrom hash polls poll left).Agree (Except.mapError Rpc.Error.cut)
      (submitter.pollFrom hash polls poll left) := by
  induction left generalizing poll with
  | zero => exact .done rfl
  | succ left ih =>
    let again : Conversation (Except Rpc.Error (Option Receipt)) :=
      if poll < polls then do
        Conversation.wait submitter.pollInterval.toNat
        submitter.pollFrom hash polls (poll + 1) left
      else submitter.pollFrom hash polls (poll + 1) left
    have goes : again.Agree (Except.mapError Rpc.Error.cut) again := by
      unfold again
      split
      · exact Agree.after (.pause (.done rfl)) (ih (poll + 1))
      · exact ih (poll + 1)
    apply (Client.agree_transactionReceipt submitter.url hash).bind
    intro result another same
    rcases cases_of_mapError_eq same with
      ⟨found, rfl, rfl⟩ | ⟨error, other, rfl, rfl, cuts⟩
    · cases found with
      | none => exact (agree_record rfl).after goes
      | some receipt => exact (agree_record rfl).after (.done rfl)
    · -- What is cut does not tell whether the failure may pass, so both go on or both end.
      have passes : error.isTransient = other.isTransient := by
        rw [← error.isTransient_cut, ← other.isTransient_cut, cuts]
      dsimp only
      rw [passes]
      split
      · have same : (Event.retrying poll polls error).cut = (Event.retrying poll polls other).cut :=
          congrArg (Event.retrying poll polls) cuts
        exact (agree_record same).after goes
      · exact .done (congrArg Except.error cuts)

/-- A wait for a receipt agrees with itself. -/
theorem agree_awaitReceipt (submitter : Submitter) (hash : String) (polls : Nat) :
    (submitter.awaitReceipt hash polls).Agree (Except.mapError Rpc.Error.cut)
      (submitter.awaitReceipt hash polls) :=
  (agree_record rfl).after (submitter.agree_pollFrom hash polls 1 polls)

end Submitter

/-- A send agrees with itself. -/
theorem Send.agree_execute (send : Send) :
    send.execute.Agree (Except.mapError Failure.cut) send.execute := by
  apply (agree_record rfl).after
  apply (send.submitter.agree_submit send.call).bind
  intro submitted another same
  rcases cases_of_mapError_eq same with ⟨hash, rfl, rfl⟩ | ⟨error, other, rfl, rfl, cuts⟩
  · apply Agree.after (.print (.done rfl))
    apply (send.submitter.agree_awaitReceipt hash send.polls.toNat).bind
    intro waited another same
    rcases cases_of_mapError_eq same with ⟨receipt, rfl, rfl⟩ | ⟨error, other, rfl, rfl, cuts⟩
    · exact (agree_record rfl).after (.done rfl)
    · exact .done (congrArg (Except.error <| Failure.notFetched hash ·) cuts)
  · exact .done (congrArg (Except.error <| Failure.notSubmitted ·) cuts)

/-- What the send and the submitter have written of a log, without the faults. -/
def ownEvents (events : List Event) : List Event :=
  (events.filter (·.origin ≠ .client)).map Event.cut

/-- What the send and the submitter have written can be told from the log as it is cut. -/
theorem ownEvents_eq (events : List Event) :
    ownEvents events = (events.map Event.cut).filter (·.origin ≠ .client) := by
  rw [ownEvents, List.filter_map]
  congr 2
  funext event
  rw [Function.comp_apply, Event.origin_cut]

/-- The lines of the send and the submitter can be told from the log as it is cut, if all faults are
called the same. -/
theorem map_line_ownEvents {wording : Rpc.Wording}
    (unnamed : ∀ fault, wording.fault fault = wording.fault .lost) (events : List Event) :
    (ownEvents events).map (Event.line wording) =
      (events.filter (·.origin ≠ .client)).map (Event.line wording) := by
  rw [ownEvents, List.map_map, List.map_inj_left]
  intro event listed
  exact event.line_cut unnamed (of_decide_eq_true (List.mem_filter.1 listed).2)

end Courier
