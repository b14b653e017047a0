import Courier.Proofs.Calldata
import Courier.Proofs.Sending

/-!
# Refused inputs

The checks before a send and the construction of its transaction look at the same three inputs in
the same order: the sender, the target, the parameters. What either says of them is told by the
first input that is spelled wrong (`Refused`), so the two refuse the same calls for the same reason
(`Send.validate_eq_error_iff`, `Transaction.ofCall_eq_error_iff`).
-/
namespace Courier

/-- The refusal of an input that lies behind a failure, if one does. -/
def Failure.encoding? : Failure → Option EncodingError
  | .invalidSender error | .invalidTarget error | .invalidParams error => some error
  | .notSubmitted (.encoding error) => some error
  | _ => none

/-- The first input of a call that is spelled wrong, as the failure that the checks make of it, and
the refusal of that input. -/
inductive Refused (call : Call) : Failure → EncodingError → Prop where
  /-- The sender is spelled wrong. -/
  | sender {error : EncodingError} (wrong : Address.parse call.sender = .error error) :
    Refused call (.invalidSender error) error
  /-- The target is spelled wrong, and the sender right. -/
  | target {sender : Address} {error : EncodingError}
    (sound : Address.parse call.sender = .ok sender)
    (wrong : Address.parse call.target = .error error) :
    Refused call (.invalidTarget error) error
  /-- Only the parameters are spelled wrong. -/
  | params {sender target : Address} {error : EncodingError}
    (sound : Address.parse call.sender = .ok sender)
    (also : Address.parse call.target = .ok target)
    (wrong : Params.normalize call.params = .error error) :
    Refused call (.invalidParams error) error

namespace Refused

variable {call : Call} {failure : Failure} {error : EncodingError}

/-- The refusal lies behind the failure. -/
theorem encoding? (refused : Refused call failure error) : failure.encoding? = some error := by
  cases refused <;> rfl

/-- A call has one first input that is spelled wrong. -/
theorem unique {other : Failure} {otherError : EncodingError} (one : Refused call failure error)
    (another : Refused call other otherError) : failure = other ∧ error = otherError := by
  cases one <;> cases another <;> simp_all

end Refused

/-- A call comes to no transaction exactly if an input is spelled wrong, and the refusal is that of
the first one. -/
theorem Transaction.ofCall_eq_error_iff {call : Call} {error : EncodingError} :
    ofCall call = .error error ↔ ∃ failure, Refused call failure error := by
  unfold ofCall
  simp only [bind_eq_error_iff, Calldata.encode_eq_error_iff]
  constructor
  · rintro (sender | ⟨sender, sound, target | ⟨target, also, params | ⟨data, _, never⟩⟩⟩)
    · exact ⟨_, .sender sender⟩
    · exact ⟨_, .target sound target⟩
    · exact ⟨_, .params sound also params⟩
    · exact nomatch never
  · rintro ⟨failure, refused⟩
    cases refused with
    | sender wrong => exact .inl wrong
    | target sound wrong => exact .inr ⟨_, sound, .inl wrong⟩
    | params sound also wrong => exact .inr ⟨_, sound, .inr ⟨_, also, .inl wrong⟩⟩

namespace Send

variable {send : Send}

/-- The URLs of the web by their first letters. -/
theorem hasWebScheme_iff {url : String} :
    hasWebScheme url = true ↔
      "http://".toList <+: url.toList ∨ "https://".toList <+: url.toList := by
  simp only [hasWebScheme, Bool.or_eq_true, List.isPrefixOf_iff_prefix]

/-- A URL of the web is not empty. -/
theorem ne_empty_of_hasWebScheme {url : String} (web : hasWebScheme url = true) : url ≠ "" := by
  rintro rfl
  exact absurd web (by decide)

/-- The checks of a send with a URL of the web, a poll and gas are those of its inputs. -/
theorem validate_eq_of_usable (web : hasWebScheme send.url = true) (polls : send.polls ≠ 0)
    (gas : send.gas ≠ 0) :
    send.validate = do
      let _ ← (Address.parse send.call.sender).mapError Failure.invalidSender
      let _ ← (Address.parse send.call.target).mapError Failure.invalidTarget
      let _ ← (Params.normalize send.call.params).mapError Failure.invalidParams
      return () := by
  have named : send.url.isEmpty = false := by
    simpa [Bool.eq_false_iff] using ne_empty_of_hasWebScheme web
  unfold validate
  simp only [named, web, polls, gas, Bool.false_eq_true, Bool.not_true, ↓reduceIte]

/-- The checks refuse such a send exactly if an input is spelled wrong, and the failure names the
first one. -/
theorem validate_eq_error_iff (web : hasWebScheme send.url = true) (polls : send.polls ≠ 0)
    (gas : send.gas ≠ 0) {failure : Failure} :
    send.validate = .error failure ↔ ∃ error, Refused send.call failure error := by
  rw [validate_eq_of_usable web polls gas]
  simp only [bind_eq_error_iff, mapError_eq_error_iff, mapError_eq_ok_iff]
  constructor
  · rintro (⟨error, wrong, rfl⟩ | ⟨sender, sound, ⟨error, wrong, rfl⟩ |
      ⟨target, also, ⟨error, wrong, rfl⟩ | ⟨params, _, never⟩⟩⟩)
    · exact ⟨error, .sender wrong⟩
    · exact ⟨error, .target sound wrong⟩
    · exact ⟨error, .params sound also wrong⟩
    · exact nomatch never
  · rintro ⟨error, refused⟩
    cases refused with
    | sender wrong => exact .inl ⟨error, wrong, rfl⟩
    | target sound wrong => exact .inr ⟨_, sound, .inl ⟨error, wrong, rfl⟩⟩
    | params sound also wrong => exact .inr ⟨_, sound, .inr ⟨_, also, .inl ⟨error, wrong, rfl⟩⟩⟩

/-- A send that comes to a transaction fails, if it does, for another reason than its inputs. -/
theorem encoding?_of_play_execute {reaches : Endpoint → Bool} {transaction : Transaction}
    (encoded : Transaction.ofCall send.call = .ok transaction) {answers : List Answer}
    {failure : Failure} (failed : (send.execute.play reaches answers).result = .error failure) :
    failure.encoding? = none := by
  by_cases reached : Reached reaches send.url
  · cases submitted : submissionOf answers.head? with
    | error error =>
      rw [play_execute_of_not_taken reached encoded submitted] at failed
      obtain rfl := Except.error.inj failed
      rfl
    | ok hash =>
      rw [play_execute_of_taken reached encoded submitted] at failed
      dsimp only at failed
      generalize ((send.submitter.awaitReceipt hash send.polls.toNat).play reaches
        answers.tail).result = waited at failed
      cases waited with
      | error error =>
        obtain rfl := Except.error.inj failed
        rfl
      | ok receipt => exact nomatch failed
  · obtain ⟨fault, shown⟩ := play_execute_of_not_reached reached encoded answers
    rw [shown] at failed
    obtain rfl := Except.error.inj failed
    rfl

/-- The checks of a send with a URL of the web, a poll and gas agree with the construction of its
transaction: the one fails exactly if the other does, and both for the refusal of the same input,
however many are spelled wrong. Such a send, carried out all the same, fails for that refusal too,
and before that it says in the log where it was to go and does nothing else: it posts nothing, uses
up no answer and prints nothing. A send that the checks accept never fails for the refusal of an
input, whatever the node answers. -/
theorem validate_agrees_with_construction (send : Send)
    (web : "http://".toList <+: send.url.toList ∨ "https://".toList <+: send.url.toList)
    (polls : 1 ≤ send.polls) (gas : 1 ≤ send.gas) :
    ((∃ failure, send.validate = .error failure) ↔
      ∃ error, Transaction.ofCall send.call = .error error) ∧
    (∀ failure error, send.validate = .error failure →
      Transaction.ofCall send.call = .error error →
        failure.encoding? = some error ∧
        ∀ (wording : Rpc.Wording) (reaches : Endpoint → Bool) (answers : List Answer),
          let shown := send.execute.play reaches answers
          shown.requests = [] ∧ shown.rest = answers ∧ shown.output = "" ∧
          shown.events.map (Event.line wording) = ["INFO RPC endpoint: " ++ send.url] ∧
          ∃ late, shown.result = .error late ∧ late.encoding? = some error) ∧
    (send.validate = .ok () →
      ∀ (reaches : Endpoint → Bool) (answers : List Answer) failure,
        (send.execute.play reaches answers).result = .error failure →
          failure.encoding? = none) := by
  have scheme : hasWebScheme send.url = true := hasWebScheme_iff.2 web
  have somePolls : send.polls ≠ 0 := by
    intro none
    rw [none] at polls
    exact absurd polls (by decide)
  have someGas : send.gas ≠ 0 := by
    intro none
    rw [none] at gas
    exact absurd gas (by decide)
  have checks {failure : Failure} :
      send.validate = .error failure ↔ ∃ error, Refused send.call failure error :=
    validate_eq_error_iff scheme somePolls someGas
  refine ⟨?_, ?_, ?_⟩
  · simp only [checks, Transaction.ofCall_eq_error_iff]
    exact exists_comm
  · -- Both refusals are told by the first input that is spelled wrong, and there is one such.
    intro failure error refused unbuilt
    obtain ⟨checked, first⟩ := checks.1 refused
    obtain ⟨built, second⟩ := Transaction.ofCall_eq_error_iff.1 unbuilt
    obtain ⟨-, rfl⟩ := first.unique second
    refine ⟨first.encoding?, fun wording reaches answers => ?_⟩
    rw [play_execute_of_refused unbuilt]
    exact ⟨rfl, rfl, rfl, rfl, _, rfl, rfl⟩
  · intro accepted reaches answers failure failed
    obtain ⟨transaction, encoded⟩ := exists_transaction_of_validate accepted
    exact encoding?_of_play_execute encoded failed

/-- Of a target and parameters that are both spelled wrong, the target is named. -/
theorem validate_agrees_with_construction_two_wrong :
    let sender := "0x00000000000000000000000000000000000000fF"
    let send : Send :=
      { url := "http://127.0.0.1:8547", call := ⟨sender, "0xnope", "ping()", "abc"⟩ }
    let refusal := EncodingError.invalidAddress "0xnope"
    ("http://".toList <+: send.url.toList ∨ "https://".toList <+: send.url.toList) ∧
    1 ≤ send.polls ∧ 1 ≤ send.gas ∧
    send.validate = .error (.invalidTarget refusal) ∧
    Transaction.ofCall send.call = .error refusal ∧
    ∀ (wording : Rpc.Wording) (answers : List Answer),
      let shown := send.execute.play (fun _ => true) answers
      shown.requests = [] ∧ shown.rest = answers ∧ shown.output = "" ∧
      shown.events.map (Event.line wording) = ["INFO RPC endpoint: http://127.0.0.1:8547"] ∧
      ∃ late, shown.result = .error late ∧ late.encoding? = some refusal := by
  intro sender send refusal
  have web : "http://".toList <+: send.url.toList ∨ "https://".toList <+: send.url.toList :=
    .inl (by decide)
  have polls : 1 ≤ send.polls := by decide
  have gas : 1 ≤ send.gas := by decide
  have parsed : (Address.parse? send.call.sender).isSome = true := by decide
  obtain ⟨address, parsed⟩ := Option.isSome_iff_exists.1 parsed
  have sound : Address.parse send.call.sender = .ok address := by
    rw [Address.parse, parsed]
  have unread : Address.parse? send.call.target = none := Option.isNone_iff_eq_none.1 (by decide)
  have wrong : Address.parse send.call.target = .error refusal := by
    rw [Address.parse, unread]
  have refused : Refused send.call (.invalidTarget refusal) refusal := .target sound wrong
  have checked : send.validate = .error (.invalidTarget refusal) :=
    (validate_eq_error_iff (hasWebScheme_iff.2 web) (by decide) (by decide)).2 ⟨_, refused⟩
  have built : Transaction.ofCall send.call = .error refusal :=
    Transaction.ofCall_eq_error_iff.2 ⟨_, refused⟩
  obtain ⟨-, agrees, -⟩ := validate_agrees_with_construction send web polls gas
  exact ⟨web, polls, gas, checked, built, fun wording =>
    (agrees _ _ checked built).2 wording (fun _ => true)⟩

end Send

end Courier
