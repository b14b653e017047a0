import Courier.Proofs.ExitCode
import Courier.Proofs.Fields

/-!
# Diagnostics

A status is displayed as it is if it is a string, and as JSON otherwise. The text of a value other
than a string never begins like a hexadecimal number (`Json.Value.text_ne_marked`): only numbers
begin with a zero, and no number is written with an `x`. So the display of a status is the mark of
success only for that status, and what a send says of a receipt, in its log and in its failure,
never contradicts the verdict on it (`statusDisplay_agrees`).
-/
namespace Courier

namespace Decimal

/-- No decimal digit is an `x`. -/
theorem x_notMem_toDigits (number : Nat) : 'x' ∉ Nat.toDigits 10 number := fun listed =>
  absurd (Nat.isDigit_of_mem_toDigits (by decide) (by decide) listed) (by decide)

/-- No zero is an `x`. -/
theorem x_notMem_zeros (count : Int) : 'x' ∉ zeros count := fun listed =>
  absurd (List.eq_of_mem_replicate listed) (by decide)

/-- No decimal is written with an `x`. -/
theorem Scaled.x_notMem_chars (s : Scaled) : 'x' ∉ s.chars := by
  have digits := x_notMem_toDigits s.digits
  have first (count : Nat) : 'x' ∉ (Nat.toDigits 10 s.digits).take count := fun listed =>
    digits (List.mem_of_mem_take listed)
  have others (count : Nat) : 'x' ∉ (Nat.toDigits 10 s.digits).drop count := fun listed =>
    digits (List.mem_of_mem_drop listed)
  have fraction : 'x' ∉ if (Nat.toDigits 10 s.digits).length = 1 then []
      else '.' :: (Nat.toDigits 10 s.digits).drop 1 := by
    split
    · exact List.not_mem_nil
    · exact List.not_mem_cons_of_ne_of_not_mem (by decide) (others 1)
  unfold chars
  dsimp only
  split
  · split
    · simp [x_notMem_zeros, digits]
    · split
      · simp [x_notMem_zeros, digits]
      · simp [first, others]
  · simp only [List.mem_append, List.mem_cons, first, fraction, x_notMem_toDigits, or_false,
      false_or]
    split <;> decide

/-- No floating point value is written with an `x`. -/
theorem Binary64.x_notMem_chars (x : Binary64) : 'x' ∉ x.chars := by
  unfold chars
  dsimp only
  split
  · exact List.not_mem_cons_of_ne_of_not_mem (by decide) (Scaled.x_notMem_chars _)
  · exact Scaled.x_notMem_chars _

end Decimal

namespace Json

/-- No whole number is written with an `x`. -/
theorem x_notMem_integerChars (n : Int) : 'x' ∉ integerChars n := by
  unfold integerChars
  split
  · exact List.not_mem_cons_of_ne_of_not_mem (by decide) (Decimal.x_notMem_toDigits _)
  · exact Decimal.x_notMem_toDigits _

/-- The text of a value that is no string does not begin like a hexadecimal number. -/
theorem Value.text_ne_marked {value : Value} (other : ∀ s, value ≠ .string s) (rest : String) :
    value.text ≠ "0x" ++ rest := by
  intro same
  have spelled : value.chars = '0' :: 'x' :: rest.toList := by
    have characters := congrArg String.toList same
    rw [text, String.toList_ofList, String.toList_append] at characters
    exact characters
  have second : 'x' ∈ value.chars := by
    rw [spelled]
    exact List.mem_cons_of_mem _ List.mem_cons_self
  have first : value.chars.head? = some '0' := congrArg List.head? spelled
  cases value with
  | null => exact absurd first (by decide)
  | bool b => cases b <;> exact absurd first (by decide)
  | integer n => exact x_notMem_integerChars n second
  | real x => exact x.x_notMem_chars second
  | string s => exact other s rfl
  | array items => exact absurd (Option.some.inj first) (by decide)
  | object members => exact absurd (Option.some.inj first) (by decide)

end Json

/-- A display that begins like a hexadecimal number is that of a string. -/
theorem display_eq_marked_iff {found : Option Json.Value} {rest : String} :
    display found = "0x" ++ rest ↔ found = some (.string ("0x" ++ rest)) := by
  constructor
  · intro shown
    cases found with
    | none =>
      have first := congrArg (fun text : String => text.toList.head?) shown
      rw [String.toList_append] at first
      exact nomatch first
    | some value =>
      by_cases string : ∃ s, value = .string s
      · obtain ⟨s, rfl⟩ := string
        exact congrArg (some <| Json.Value.string ·) shown
      · have other : ∀ s, value ≠ .string s := fun s same => string ⟨s, same⟩
        have printed : display (some value) = value.text := by
          unfold display
          split
          · rename_i s same
            exact absurd (Option.some.inj same) (other s)
          · rename_i same
            rw [Option.some.inj same]
          · contradiction
        exact absurd (printed.symm.trans shown) (Json.Value.text_ne_marked other rest)
  · rintro rfl
    rfl

/-- The status is displayed as that of success exactly if the receipt is one of success. -/
theorem Receipt.statusDisplay_eq_iff {receipt : Receipt} :
    receipt.statusDisplay = "0x1" ↔ receipt.isSuccess = true := by
  rw [isSuccess_iff_field?]
  exact @display_eq_marked_iff _ "1"

variable {reaches : Endpoint → Bool}

namespace Submitter

/-- All that is written about a poll is for those who look closely. -/
theorem level_of_mem_pollEvents {hash : String} {poll polls : Nat} {answer : Option Answer}
    {event : Event} (listed : event ∈ pollEvents hash poll polls answer) :
    event.level = .debug := by
  rcases List.mem_append.1 listed with exchange | notes
  · exact (client_of_mem_clientEvents exchange).2
  · exact (submitter_of_mem_pollNotes notes).2

/-- A wait on a URL that reaches the node gives no warning. -/
theorem level_ne_warn_of_awaitReceipt {submitter : Submitter}
    (reached : Reached reaches submitter.url) (hash : String) (polls : Nat)
    (answers : List Answer) :
    ∀ event ∈ ((submitter.awaitReceipt hash polls).play reaches answers).events,
      event.level ≠ .warn := by
  have quiet (count : Nat) : ∀ event ∈ Event.waiting polls hash ::
      pollsEvents hash polls 1 count answers, event.level ≠ .warn := by
    rw [List.forall_mem_cons]
    refine ⟨nofun, fun event listed => ?_⟩
    obtain ⟨index, -, listed⟩ := List.mem_flatMap.1 listed
    rw [level_of_mem_pollEvents listed]
    decide
  rcases passing_or_first_decides answers polls with
    passing | ⟨place, early, passing, decision, decides⟩
  · rw [play_awaitReceipt_of_passing hash reached passing]
    exact quiet polls
  · rw [play_awaitReceipt_of_decides hash reached early passing decides]
    exact quiet (place + 1)

end Submitter

namespace Send

variable {send : Send}

/-- An outcome says of a receipt that it failed only if it is none of success. -/
theorem isSuccess_of_outcomeOf_eq_reverted {held : Option Receipt} {receipt : Receipt}
    (ended : outcomeOf held = .reverted receipt) : receipt.isSuccess = false := by
  unfold outcomeOf at ended
  split at ended
  · split at ended
    · exact nomatch ended
    · rename_i failed
      obtain rfl := Outcome.reverted.inj ended
      exact eq_false_of_ne_true failed
  · exact nomatch ended

/-- A send that reports a receipt as one of a failed transaction has found no success in it, and
gives one warning, which tells of the receipt. -/
theorem warnings_of_reverted {answers : List Answer} {hash : String} {receipt : Receipt}
    (reported : (send.execute.play reaches answers).result = .ok ⟨hash, .reverted receipt⟩) :
    receipt.isSuccess = false ∧
      (send.execute.play reaches answers).events.filter (·.level = .warn) =
        [.reverted receipt.summary] := by
  cases submitted : ((send.submitter.submit send.call).play reaches answers).result with
  | error error =>
    rw [play_execute_of_failed submitted] at reported
    exact nomatch reported
  | ok taken =>
    obtain ⟨-, -, gives⟩ := Submitter.play_submit_shape reaches send.submitter send.call answers
    obtain ⟨⟨transaction, built⟩, reached, first, -⟩ := gives taken submitted
    have shown := play_execute_of_taken reached built first
    have quiet :=
      Submitter.level_ne_warn_of_awaitReceipt reached taken send.polls.toNat answers.tail
    generalize (send.submitter.awaitReceipt taken send.polls.toNat).play reaches answers.tail =
      waited at shown quiet
    rw [shown] at reported ⊢
    dsimp only at reported ⊢
    cases came : waited.result with
    | error error =>
      rw [came] at reported
      exact nomatch reported
    | ok held =>
      rw [came] at reported
      obtain ⟨-, ended⟩ := Report.mk.inj (Except.ok.inj reported)
      have failed : receipt.isSuccess = false := isSuccess_of_outcomeOf_eq_reverted ended
      have posted : ∀ event ∈ clientEvents
          (.sendTransaction (send.submitter.outgoing transaction)) answers.head?,
          event.level ≠ .warn := by
        intro event listed
        rw [(client_of_mem_clientEvents listed).2]
        decide
      have early : ∀ event ∈ .endpoint send.url ::
          (Submitter.submissionEvents (send.submitter.outgoing transaction)
              (clientEvents (.sendTransaction (send.submitter.outgoing transaction))
                answers.head?) (.ok taken) ++
            waited.events), event.level ≠ .warn := by
        simp only [Submitter.submissionEvents, List.cons_append, List.forall_mem_cons,
          List.forall_mem_append]
        exact ⟨nofun, nofun, ⟨posted, nofun, nofun⟩, quiet⟩
      have silent := List.filter_eq_nil_iff.2 fun event listed warns =>
        early event listed (of_decide_eq_true warns)
      rw [conclusionEvents, ended, ← List.cons_append, List.filter_append, silent]
      exact ⟨failed, rfl⟩

end Send

/-- The display of a status is the mark of success exactly if the receipt is one of success,
whatever the node sent for a record. So where a send reports a transaction as a failed one, the
status that its failure and the one warning in its log both show is never that mark. -/
theorem statusDisplay_agrees :
    (∀ receipt : Receipt, receipt.statusDisplay = "0x1" ↔ receipt.isSuccess = true) ∧
      ∀ (wording : Rpc.Wording) (reaches : Endpoint → Bool) (send : Send) (answers : List Answer)
        (hash : String) (receipt : Receipt),
        let shown := send.execute.play reaches answers
        let report : Report := ⟨hash, .reverted receipt⟩
        shown.result = .ok report →
          receipt.statusDisplay ≠ "0x1" ∧
          (∃ failure, report.ensureSuccess = .error failure ∧ failure.message wording =
            "Transaction " ++ hash ++ " reverted (status: " ++ receipt.statusDisplay ++ ")") ∧
          (shown.events.filter (·.level = .warn)).map (Event.line wording) =
            ["WARN Transaction reverted: status=" ++ receipt.statusDisplay ++
              " block=" ++ display (receipt.field? "blockNumber") ++
              " gas_used=" ++ display (receipt.field? "gasUsed")] := by
  refine ⟨fun _ => Receipt.statusDisplay_eq_iff, ?_⟩
  intro wording reaches send answers hash receipt shown report reported
  obtain ⟨failed, warnings⟩ := Send.warnings_of_reverted reported
  refine ⟨?_, ⟨_, rfl, rfl⟩, ?_⟩
  · intro mark
    rw [Receipt.statusDisplay_eq_iff.1 mark] at failed
    exact nomatch failed
  · rw [warnings, List.map_singleton, List.singleton_inj]
    unfold Event.line Event.level Event.message Receipt.summary Receipt.statusDisplay Level.name
    dsimp only
    rw [← String.append_assoc, ← String.append_assoc, ← String.append_assoc,
      ← String.append_assoc, ← String.append_assoc]
    rfl

/-- A status that is the number one fails the transaction, and is shown as that number. -/
theorem statusDisplay_agrees_number :
    let wording : Rpc.Wording := ⟨fun _ => "no answer", fun _ => [], (·.text), display⟩
    let url := "http://127.0.0.1:8547"
    let address := "00000000000000000000000000000000000000fF"
    let send : Send := { url, call := ⟨address, address, "ping()", ""⟩, polls := 1 }
    let carrying (result : Json.Value) : Answer :=
      .sent 200 (Text.Utf8.encode (Json.Value.object [("result", result)]).text) false
    let receipt : Receipt := ⟨.object [("status", .integer 1)]⟩
    let answers := [carrying (.string "0xabc"), carrying receipt.value]
    let shown := send.execute.play (fun _ => true) answers
    let report : Report := ⟨"0xabc", .reverted receipt⟩
    shown.result = .ok report ∧
      (∃ failure, report.ensureSuccess = .error failure ∧
        failure.message wording = "Transaction 0xabc reverted (status: 1)") ∧
      (shown.events.filter (·.level = .warn)).map (Event.line wording) =
        ["WARN Transaction reverted: status=1 block=? gas_used=?"] := by
  intro wording url address send carrying receipt answers shown report
  have accepted : send.validate = .ok () := by
    simp only [send, address, url]
    rfl
  obtain ⟨transaction, encoded⟩ := Send.exists_transaction_of_validate accepted
  have reached : Reached (fun _ => true) send.url := reached_local
  have solid : ¬Hollow receipt.value := by
    rw [hollow_iff]
    decide
  have taken : submissionOf answers.head? = .ok "0xabc" :=
    submissionOf_eq_ok_iff.2 (carries_of_canonical (.string "0xabc") nofun)
  have decides : Decides answers.tail[0]? (.ok receipt) :=
    .found (carries_of_canonical (.single (.integer (by decide) (by decide))) nofun) solid
  have there : Reached (fun _ => true) send.submitter.url := reached
  have waited := Submitter.play_awaitReceipt_of_decides "0xabc" there
    (show 0 < send.polls.toNat by decide)
    (fun earlier below => absurd below (Nat.not_lt_zero earlier)) decides
  have failed : receipt.isSuccess = false := rfl
  have reported : shown.result = .ok report := by
    have whole : shown = _ := Send.play_execute_of_taken reached encoded taken
    rw [whole]
    dsimp only
    rw [waited]
    simp only [Except.map, Send.conclusion, Send.outcomeOf, failed, Bool.false_eq_true,
      ↓reduceIte]
    rfl
  have agrees :=
    (statusDisplay_agrees.2 wording (fun _ => true) send answers "0xabc" receipt reported).2
  have status : receipt.statusDisplay = "1" := rfl
  have block : display (receipt.field? "blockNumber") = "?" := rfl
  have gas : display (receipt.field? "gasUsed") = "?" := rfl
  rw [status, block, gas] at agrees
  exact ⟨reported, agrees⟩

end Courier
