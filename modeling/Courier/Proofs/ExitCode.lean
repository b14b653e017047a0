import Courier.Proofs.HelpFlags
import Courier.Proofs.Sending

/-!
# The exit code

Which runs of the program exit with zero, in terms of the arguments and the answers of the node
alone: those that ask for help or the version, and those whose transaction is taken and then
confirmed by the first answer to a poll that is neither pending nor transient.
-/
namespace Courier

/-- Whether an answer carries the receipt of a transaction that succeeded. -/
def Confirms (answer : Option Answer) : Prop :=
  ∃ members, Carries answer (some (.object members)) ∧
    Json.Members.find? "status" members = some (.string "0x1")

/-- Whether answers, the first of which is that to the transaction, make a send a success. -/
structure Succeeds (reaches : Endpoint → Bool) (send : Send) (answers : List Answer) : Prop where
  /-- The checks accept the send. -/
  accepted : send.validate = .ok ()
  /-- The URL reaches the node. -/
  reached : Reached reaches send.url
  /-- The node takes the transaction. -/
  taken : ∃ hash, Carries answers.head? (some (.string hash))
  /-- Within the polls an answer confirms it, and each before that is pending or transient. -/
  confirmed : ∃ place < send.polls.toNat, Confirms answers.tail[place]? ∧
    ∀ earlier < place, Pending answers.tail[earlier]? ∨ Transient answers.tail[earlier]?

/-- A receipt is one of success if it is an object with that status. -/
theorem Receipt.isSuccess_iff {receipt : Receipt} :
    receipt.isSuccess = true ↔ ∃ members, receipt.value = .object members ∧
      Json.Members.find? "status" members = some (.string "0x1") := by
  obtain ⟨value⟩ := receipt
  rw [isSuccess, decide_eq_true_iff]
  simp only [status?, field?, successStatus]
  cases value with
  | object members =>
    simp only [Json.Value.member?, Json.Value.object.injEq, exists_eq_left']
    cases Json.Members.find? "status" members with
    | none => simp
    | some status => cases status <;> simp [Json.Value.text?]
  | null => simp [Json.Value.member?]
  | bool _ => simp [Json.Value.member?]
  | integer _ => simp [Json.Value.member?]
  | real _ => simp [Json.Value.member?]
  | string _ => simp [Json.Value.member?]
  | array _ => simp [Json.Value.member?]

/-- The answers that confirm are those that decide for a receipt of success. -/
theorem confirms_iff {answer : Option Answer} :
    Confirms answer ↔ ∃ receipt, Decides answer (.ok receipt) ∧ receipt.isSuccess = true := by
  simp only [Receipt.isSuccess_iff]
  constructor
  · rintro ⟨members, carries, status⟩
    have solid : ¬Hollow (.object members) := by
      rintro (null | false | text | items | none)
      · exact nomatch null
      · exact nomatch false
      · exact nomatch text
      · exact nomatch items
      · obtain rfl := Json.Value.object.inj none
        exact nomatch status
    exact ⟨⟨.object members⟩, .found carries solid, members, rfl, status⟩
  · rintro ⟨receipt, decides, members, object, status⟩
    cases decides with
    | found carries solid =>
      obtain rfl := object
      exact ⟨members, carries, status⟩

/-- A wait comes to a receipt of success exactly if an answer within its budget confirms and those
before that are pending or transient. -/
theorem Submitter.awaitReceipt_confirmed_iff {reaches : Endpoint → Bool} {submitter : Submitter}
    (reached : Reached reaches submitter.url) (hash : String) (polls : Nat)
    (answers : List Answer) :
    (∃ receipt, ((submitter.awaitReceipt hash polls).play reaches answers).result =
        .ok (some receipt) ∧ receipt.isSuccess = true) ↔
      ∃ place < polls, Confirms answers[place]? ∧
        ∀ earlier < place, Pending answers[earlier]? ∨ Transient answers[earlier]? := by
  constructor
  · rintro ⟨receipt, came, success⟩
    rcases passing_or_first_decides answers polls with
      passing | ⟨place, early, passing, decision, decides⟩
    · rw [play_awaitReceipt_of_passing hash reached passing] at came
      exact nomatch came
    · rw [play_awaitReceipt_of_decides hash reached early passing decides] at came
      cases decision with
      | error error => exact nomatch came
      | ok decided =>
        obtain rfl : decided = receipt := Option.some.inj (Except.ok.inj came)
        exact ⟨place, early, confirms_iff.2 ⟨decided, decides, success⟩, passing⟩
  · rintro ⟨place, early, confirms, passing⟩
    obtain ⟨receipt, decides, success⟩ := confirms_iff.1 confirms
    refine ⟨receipt, ?_, success⟩
    rw [play_awaitReceipt_of_decides hash reached early passing decides]
    rfl

/-- A send that was carried out is a success exactly if the wait came to a receipt of success. -/
theorem Program.verdictOf_conclusion_iff {hash : String}
    {waited : Except Rpc.Error (Option Receipt)} :
    verdictOf (Send.conclusion hash waited) = .succeeded ↔
      ∃ receipt, waited = .ok (some receipt) ∧ receipt.isSuccess = true := by
  rcases waited with error | _ | receipt
  · simp [verdictOf, Send.conclusion, Except.bind]
  · simp [verdictOf, Send.conclusion, Except.bind, Report.ensureSuccess, Send.outcomeOf]
  · cases success : receipt.isSuccess <;>
      simp [verdictOf, Send.conclusion, Except.bind, Report.ensureSuccess, Send.outcomeOf, success]

/-- A send that comes to a transaction is a success exactly if the URL reaches the node and the
answers make it one. -/
theorem Program.verdictOf_execute_iff {reaches : Endpoint → Bool} {send : Send}
    {transaction : Transaction} (encoded : Transaction.ofCall send.call = .ok transaction)
    (answers : List Answer) :
    verdictOf (send.execute.play reaches answers).result = .succeeded ↔
      Reached reaches send.url ∧ (∃ hash, Carries answers.head? (some (.string hash))) ∧
      ∃ place < send.polls.toNat, Confirms answers.tail[place]? ∧
        ∀ earlier < place, Pending answers.tail[earlier]? ∨ Transient answers.tail[earlier]? := by
  by_cases reached : Reached reaches send.url
  · have there : Reached reaches send.submitter.url := reached
    cases submitted : submissionOf answers.head? with
    | error error =>
      have untaken : ¬∃ hash, Carries answers.head? (some (.string hash)) := by
        rintro ⟨hash, carries⟩
        rw [submissionOf_eq_ok_iff.2 carries] at submitted
        exact nomatch submitted
      rw [Send.play_execute_of_not_taken reached encoded submitted]
      simp [untaken, verdictOf, Except.bind]
    | ok hash =>
      have taken : ∃ hash, Carries answers.head? (some (.string hash)) :=
        ⟨hash, submissionOf_eq_ok_iff.1 submitted⟩
      rw [Send.play_execute_of_taken reached encoded submitted]
      dsimp only
      rw [verdictOf_conclusion_iff, Submitter.awaitReceipt_confirmed_iff there]
      simp only [reached, taken, true_and]
  · obtain ⟨fault, shown⟩ := Send.play_execute_of_not_reached reached encoded answers
    rw [shown]
    simp [reached, verdictOf, Except.bind, unsent]

/-- A send that was carried out exits with zero exactly if it succeeded. -/
theorem Program.exitCode_verdictOf_iff {result : Except Failure Report} :
    (verdictOf result).exitCode = 0 ↔ verdictOf result = .succeeded := by
  unfold verdictOf
  split <;> simp [Verdict.exitCode]

/-- A run exits with one unless it exits with zero. -/
theorem Program.Verdict.exitCode_eq_zero_or_one (verdict : Verdict) :
    verdict.exitCode = 0 ∨ verdict.exitCode = 1 := by
  cases verdict <;> simp [exitCode]

/-- A run whose command line asks for a send exits with zero exactly if the send succeeds. -/
theorem Program.exitCode_run_of_send {reaches : Endpoint → Bool} {arguments : List String}
    {environment : Option String} {send : Send} {verbose : Bool}
    (asked : CommandLine.read arguments environment = .send send verbose)
    (answers : List Answer) :
    ((run arguments environment).play reaches answers).result.exitCode = 0 ↔
      Succeeds reaches send answers := by
  rw [play_run_of_send asked]
  dsimp only
  cases checked : send.validate with
  | error failure =>
    rw [play_sendAndJudge_of_refused checked]
    constructor
    · intro zero
      exact nomatch zero
    · intro succeeds
      exact nomatch checked.symm.trans succeeds.accepted
  | ok _ =>
    obtain ⟨transaction, encoded⟩ := Send.exists_transaction_of_validate checked
    rw [play_sendAndJudge checked]
    dsimp only
    rw [exitCode_verdictOf_iff, verdictOf_execute_iff encoded]
    constructor
    · rintro ⟨reached, taken, confirmed⟩
      exact ⟨checked, reached, taken, confirmed⟩
    · rintro ⟨-, reached, taken, confirmed⟩
      exact ⟨reached, taken, confirmed⟩

/-- A run whose command line asks for no send exits with zero exactly if it asks for the help or
the version. -/
theorem Program.exitCode_run_of_no_send {reaches : Endpoint → Bool} {arguments : List String}
    {environment : Option String}
    (other : ∀ send verbose, CommandLine.read arguments environment ≠ .send send verbose)
    (answers : List Answer) :
    ((run arguments environment).play reaches answers).result.exitCode = 0 ↔
      CommandLine.read arguments environment = .help ∨
        CommandLine.read arguments environment = .version := by
  rw [run]
  cases asked : CommandLine.read arguments environment with
  | help => exact ⟨fun _ => .inl rfl, fun _ => rfl⟩
  | version => exact ⟨fun _ => .inr rfl, fun _ => rfl⟩
  | usage error =>
    constructor
    · intro zero
      have one : (1 : UInt8) = 0 := zero
      exact absurd one (by decide)
    · rintro (help | version)
      · cases help
      · cases version
  | send send verbose => exact absurd asked (other send verbose)

/-- A run of the program exits with zero exactly if its arguments ask for help or the version
before anything is wrong, or ask for a send that succeeds: the checks accept it, the URL reaches the
node, the node takes the transaction, and within the polls an answer confirms it, each one before
that being pending or transient. Every other run exits with one. -/
theorem run_exits_zero_iff (reaches : Endpoint → Bool) (arguments : List String)
    (environment : Option String) (answers : List Answer) :
    let code := ((Program.run arguments environment).play reaches answers).result.exitCode
    (code = 0 ↔
      CommandLine.AsksForHelp arguments ∨
        ∃ send verbose, CommandLine.read arguments environment = .send send verbose ∧
          Succeeds reaches send answers) ∧
    (code ≠ 0 → code = 1) := by
  intro code
  refine ⟨?_, fun failed => (Program.Verdict.exitCode_eq_zero_or_one _).resolve_left failed⟩
  rw [← CommandLine.read_help_or_version_iff arguments environment]
  by_cases sends : ∃ send verbose, CommandLine.read arguments environment = .send send verbose
  · obtain ⟨send, verbose, asked⟩ := sends
    refine (Program.exitCode_run_of_send asked answers).trans ?_
    simp [asked]
  · have other : ∀ send verbose, CommandLine.read arguments environment ≠ .send send verbose :=
      fun send verbose asked => sends ⟨send, verbose, asked⟩
    refine (Program.exitCode_run_of_no_send other answers).trans ?_
    constructor
    · exact .inl
    · rintro (query | ⟨send, verbose, asked, -⟩)
      · exact query
      · exact absurd asked (other send verbose)

/-- With two polls, as the environment asks, a receipt that the second poll brings is in time. -/
theorem run_exits_zero_iff_second_poll :
    let address := "00000000000000000000000000000000000000fF"
    let carrying (result : Json.Value) : Answer :=
      .sent 200 (Text.Utf8.encode (Json.Value.object [("result", result)]).text) false
    let answers :=
      [carrying (.string "0xabc"), carrying .null, carrying (.object [("status", .string "0x1")])]
    let arguments := ["http://127.0.0.1:8547", address, address, "ping()"]
    ((Program.run arguments (some "2")).play (fun _ => true) answers).result.exitCode = 0 := by
  intro address carrying answers arguments
  let send : Send :=
    { url := "http://127.0.0.1:8547", call := ⟨address, address, "ping()", ""⟩, polls := 2 }
  have asked : CommandLine.read arguments (some "2") = .send send false := by decide
  have accepted : send.validate = .ok () := by
    simp only [send, address]
    rfl
  have taken : Carries answers.head? (some (.string "0xabc")) :=
    carries_of_canonical (.string "0xabc") nofun
  have confirms : Confirms answers.tail[1]? :=
    ⟨_, carries_of_canonical (.single (.string "0x1")) nofun, rfl⟩
  have passing : ∀ earlier < 1,
      Pending answers.tail[earlier]? ∨ Transient answers.tail[earlier]? := by
    intro earlier below
    obtain rfl : earlier = 0 := Nat.lt_one_iff.1 below
    exact .inl (.inl carries_none_of_null)
  have succeeds : Succeeds (fun _ => true) send answers :=
    ⟨accepted, reached_local, ⟨"0xabc", taken⟩, 1, by decide, confirms, passing⟩
  exact (run_exits_zero_iff (fun _ => true) arguments (some "2") answers).1.2
    (.inr ⟨send, false, asked, succeeds⟩)

end Courier
