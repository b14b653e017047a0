import Mathlib.Data.List.Basic
import Courier.Proofs.Polling

/-!
# The log of a wait

A wait for a receipt writes one line before its polls, and then one for each poll but the one that
fails for good; the client below writes its own lines between them. The line of a poll tells the
class of the answer that the poll met (`Submitter.tells_noteOf`), so what became of every poll can
be read off the log, failures that were passed over included
(`Submitter.awaitReceipt_logs_every_poll`).
-/
namespace Courier

/-- Whether an answer fails a poll with an error. -/
inductive Fails (answer : Option Answer) : Rpc.Error → Prop where
  /-- Nobody can use it. -/
  | unusable {fault : Rpc.TransportFault} (unusable : Unusable answer fault) :
    Fails answer (.requestFailed fault)
  /-- The node refuses with a status. -/
  | refused {status : Nat} {text : String} (refuses : Refuses answer status text) :
    Fails answer (.httpStatus status text)
  /-- The node reports an error. -/
  | reported {code : Int} {message : String} (reports : Reports answer code message) :
    Fails answer (.rpc code message)

variable {answer : Option Answer}

/-- A poll comes to the error that the answer fails it with. -/
theorem pollOf_of_fails {error : Rpc.Error} (fails : Fails answer error) :
    pollOf answer = .error error := by
  cases fails with
  | unusable unusable => rw [pollOf, outcome_of_unusable unusable]; rfl
  | refused refuses => rw [pollOf, outcome_of_refuses refuses]; rfl
  | reported reports => rw [pollOf, outcome_of_reports reports]; rfl

/-- An answer fails a poll with one error. -/
theorem fails_unique {one other : Rpc.Error} (fails : Fails answer one)
    (also : Fails answer other) : one = other :=
  Except.error.inj ((pollOf_of_fails fails).symm.trans (pollOf_of_fails also))

/-- A transient answer fails a poll. -/
theorem fails_of_transient (transient : Transient answer) : ∃ error, Fails answer error := by
  cases transient with
  | unusable unusable => exact ⟨_, .unusable unusable⟩
  | refused refuses _ => exact ⟨_, .refused refuses⟩
  | reported reports _ => exact ⟨_, .reported reports⟩

/-- A pending answer is not transient. -/
theorem not_transient_of_pending (pending : Pending answer) : ¬Transient answer := by
  intro transient
  obtain ⟨error, failed, -⟩ := pollOf_of_transient transient
  rw [pollOf_of_pending pending] at failed
  exact nomatch failed

namespace Submitter

variable {wording : Rpc.Wording}

/-! ### Lines of the log -/

/-- The line before the polls. -/
def waitingLine (polls : Nat) (hash : String) : String :=
  "INFO Waiting up to " ++ toString polls ++ " polls for receipt of " ++ hash

/-- What the line of a poll that met no receipt begins with. -/
def pollMark (poll polls : Nat) : String :=
  "DEBUG Poll " ++ toString poll ++ "/" ++ toString polls

/-- The line of a poll that met no receipt yet. -/
def pendingLine (poll polls : Nat) : String :=
  pollMark poll polls ++ ": receipt not available yet"

/-- The line of a poll that failed in a way that may pass, with the text of the error. -/
def retryingLine (poll polls : Nat) (text : String) : String :=
  pollMark poll polls ++ (" failed, retrying: " ++ text)

/-- The line of a poll that met a receipt. -/
def foundLine (poll : Nat) : String := "DEBUG Receipt found on poll " ++ toString poll

/-- The event before the polls has its line. -/
theorem line_waiting (polls : Nat) (hash : String) :
    (Event.waiting polls hash).line wording = waitingLine polls hash := by
  unfold Event.line Event.level Event.message Level.name waitingLine
  dsimp only
  -- The event puts its text together from the right. As they stand the two sides would be evaluated
  -- to the bytes of their literals, so the parts are brought into one order first.
  rw [← String.append_assoc, ← String.append_assoc, ← String.append_assoc]
  rfl

/-- The event of a poll that met no receipt yet has its line. -/
theorem line_pending (poll polls : Nat) :
    (Event.pending poll polls).line wording = pendingLine poll polls := by
  unfold Event.line Event.level Event.message Level.name pendingLine pollMark
  dsimp only
  rw [← String.append_assoc, ← String.append_assoc, ← String.append_assoc, ← String.append_assoc]
  rfl

/-- The event of a failed poll has its line, with the text of the error. -/
theorem line_retrying (poll polls : Nat) (error : Rpc.Error) :
    (Event.retrying poll polls error).line wording =
      retryingLine poll polls (error.message wording) := by
  unfold Event.line Event.level Event.message Level.name retryingLine pollMark
  dsimp only
  rw [← String.append_assoc, ← String.append_assoc, ← String.append_assoc, ← String.append_assoc,
    ← String.append_assoc, ← String.append_assoc]
  rfl

/-- The event of a receipt has its line. -/
theorem line_found (poll : Nat) : (Event.found poll).line wording = foundLine poll := by
  unfold Event.line Event.level Event.message Level.name foundLine
  dsimp only
  rw [← String.append_assoc]
  rfl

/-- The line of a failed poll tells the text of the error. -/
theorem retryingLine_inj {poll polls : Nat} {one other : String} :
    retryingLine poll polls one = retryingLine poll polls other ↔ one = other := by
  rw [retryingLine, retryingLine, String.append_right_inj, String.append_right_inj]

/-- A poll that met no receipt yet does not read like one that failed. -/
theorem pendingLine_ne_retryingLine (poll polls : Nat) (text : String) :
    pendingLine poll polls ≠ retryingLine poll polls text := by
  intro same
  rw [pendingLine, retryingLine, String.append_right_inj] at same
  have first := congrArg (fun line => line.toList.head?) same
  rw [String.toList_append] at first
  exact absurd first (by simp)

/-- A poll that met a receipt reads like no other from its seventh character on. -/
theorem pollMark_append_ne_foundLine (poll polls other : Nat) (rest : String) :
    pollMark poll polls ++ rest ≠ foundLine other := by
  intro same
  have seventh := congrArg (fun line => line.toList[6]?) same
  unfold pollMark foundLine at seventh
  rw [String.toList_append, String.toList_append, String.toList_append, String.toList_append,
    String.toList_append, List.append_assoc, List.append_assoc, List.append_assoc,
    List.getElem?_append_left (by decide), List.getElem?_append_left (by decide)] at seventh
  exact absurd seventh (by decide)

/-! ### What the lines tell -/

/-- Whether the line of a poll, if it has one, tells the class of the answer that the poll met. -/
structure Tells (wording : Rpc.Wording) (poll polls : Nat) (answer : Option Answer)
    (line : Option String) : Prop where
  /-- It says that there is no receipt yet exactly if the answer does. -/
  pending : line = some (pendingLine poll polls) ↔ Pending answer
  /-- It says that the poll failed exactly if the answer is a failure that may pass, and then it
  holds the text of that failure. -/
  retrying : ∀ text, line = some (retryingLine poll polls text) ↔
    Transient answer ∧ ∃ error, Fails answer error ∧ text = error.message wording
  /-- It says that there is a receipt exactly if the answer decides so. -/
  found : line = some (foundLine poll) ↔ ∃ receipt, Decides answer (.ok receipt)
  /-- There is none exactly if the answer is a failure that will not pass. -/
  silent : line = none ↔ ∃ error, Decides answer (.error error)

variable {poll polls : Nat}

/-- The line that there is no receipt yet tells of a pending answer. -/
theorem tells_of_pending (pending : Pending answer) :
    Tells wording poll polls answer (some (pendingLine poll polls)) where
  pending := iff_of_true rfl pending
  retrying text := iff_of_false
    (fun same => pendingLine_ne_retryingLine poll polls text (Option.some.inj same))
    fun both => not_transient_of_pending pending both.1
  found := iff_of_false
    (fun same => pollMark_append_ne_foundLine poll polls poll _ (Option.some.inj same))
    fun ⟨_, decides⟩ => not_decides (.inl pending) _ decides
  silent := iff_of_false nofun fun ⟨_, decides⟩ => not_decides (.inl pending) _ decides

/-- The line with the text of a failure tells of a transient answer that fails a poll with it. -/
theorem tells_of_transient (transient : Transient answer) {error : Rpc.Error}
    (fails : Fails answer error) :
    Tells wording poll polls answer (some (retryingLine poll polls (error.message wording))) where
  pending := iff_of_false
    (fun same => pendingLine_ne_retryingLine poll polls _ (Option.some.inj same).symm)
    fun pending => not_transient_of_pending pending transient
  retrying text := by
    rw [Option.some_inj, retryingLine_inj]
    constructor
    · exact fun same => ⟨transient, error, fails, same.symm⟩
    · rintro ⟨-, other, also, rfl⟩
      rw [fails_unique fails also]
  found := iff_of_false
    (fun same => pollMark_append_ne_foundLine poll polls poll _ (Option.some.inj same))
    fun ⟨_, decides⟩ => not_decides (.inr transient) _ decides
  silent := iff_of_false nofun fun ⟨_, decides⟩ => not_decides (.inr transient) _ decides

/-- The line that there is a receipt tells of an answer that decides so. -/
theorem tells_of_found {receipt : Receipt} (decides : Decides answer (.ok receipt)) :
    Tells wording poll polls answer (some (foundLine poll)) where
  pending := iff_of_false
    (fun same => pollMark_append_ne_foundLine poll polls poll _ (Option.some.inj same).symm)
    fun pending => not_decides (.inl pending) _ decides
  retrying _ := iff_of_false
    (fun same => pollMark_append_ne_foundLine poll polls poll _ (Option.some.inj same).symm)
    fun both => not_decides (.inr both.1) _ decides
  found := iff_of_true rfl ⟨receipt, decides⟩
  silent := iff_of_false nofun fun ⟨_, failed⟩ => nomatch decides_unique decides failed

/-- A poll that fails for good has no line, and that tells its class. -/
theorem tells_of_failed {error : Rpc.Error} (decides : Decides answer (.error error)) :
    Tells wording poll polls answer none where
  pending := iff_of_false nofun fun pending => not_decides (.inl pending) _ decides
  retrying _ := iff_of_false nofun fun both => not_decides (.inr both.1) _ decides
  found := iff_of_false nofun fun ⟨_, found⟩ => nomatch decides_unique decides found
  silent := iff_of_true rfl ⟨error, decides⟩

/-- The line of a poll, if it has one. -/
def noteOf (wording : Rpc.Wording) (poll polls : Nat) (answer : Option Answer) : Option String :=
  (pollNotes poll polls (pollOf answer)).head?.map (Event.line wording)

/-- What the submitter writes of a poll is its line. -/
theorem map_line_pollNotes (poll polls : Nat) (answer : Option Answer) :
    (pollNotes poll polls (pollOf answer)).map (Event.line wording) =
      (noteOf wording poll polls answer).toList := by
  unfold noteOf
  rcases pollOf answer with error | _ | receipt
  · unfold pollNotes
    dsimp only
    split <;> rfl
  · rfl
  · rfl

/-- The line of a poll tells the class of its answer. -/
theorem tells_noteOf (wording : Rpc.Wording) (poll polls : Nat) (answer : Option Answer) :
    Tells wording poll polls answer (noteOf wording poll polls answer) := by
  unfold noteOf
  rcases pending_or_transient_or_decides answer with
    (pending | transient) | ⟨error | receipt, decides⟩
  · rw [pollOf_of_pending pending, pollNotes, List.head?_cons, Option.map_some, line_pending]
    exact tells_of_pending pending
  · obtain ⟨error, fails⟩ := fails_of_transient transient
    obtain ⟨_, failed, passes⟩ := pollOf_of_transient transient
    obtain rfl := Except.error.inj (failed.symm.trans (pollOf_of_fails fails))
    rw [failed, pollNotes, if_pos passes, List.head?_cons, Option.map_some, line_retrying]
    exact tells_of_transient transient fails
  · have lasts := isTransient_of_decides decides
    rw [pollOf_of_decides decides, Except.map, pollNotes, if_neg (by rw [lasts]; decide)]
    exact tells_of_failed decides
  · rw [pollOf_of_decides decides, Except.map, pollNotes, List.head?_cons, Option.map_some,
      line_found]
    exact tells_of_found decides

/-- A poll that does not end the wait has a line. -/
theorem isSome_noteOf (passing : Pending answer ∨ Transient answer) :
    (noteOf wording poll polls answer).isSome = true := by
  rw [Option.isSome_iff_ne_none]
  intro none
  obtain ⟨error, decides⟩ := (tells_noteOf wording poll polls answer).silent.1 none
  exact not_decides passing _ decides

/-! ### The lines of a wait -/

/-- The lines of the first polls of a wait. -/
def notes (wording : Rpc.Wording) (polls : Nat) (answers : List Answer) (count : Nat) :
    List String :=
  (List.range count).filterMap fun place => noteOf wording (place + 1) polls answers[place]?

variable {hash : String} {answers : List Answer} {count : Nat}

/-- Of the log of a poll the client has written what it writes of the request, and the submitter its
note. -/
theorem filter_pollEvents (keep : Origin → Bool) (hash : String) (poll polls : Nat)
    (answer : Option Answer) :
    (pollEvents hash poll polls answer).filter (keep ·.origin) =
      (if keep .client then clientEvents (.transactionReceipt hash) answer else []) ++
        if keep .submitter then pollNotes poll polls (pollOf answer) else [] := by
  rw [pollEvents, List.filter_append,
    filter_origin (fun _ listed => (client_of_mem_clientEvents listed).1),
    filter_origin (fun _ listed => (submitter_of_mem_pollNotes listed).1)]

/-- What the submitter writes of the first polls is their lines. -/
theorem map_line_pollsEvents (hash : String) (polls : Nat) (answers : List Answer) (count : Nat) :
    ((pollsEvents hash polls 1 count answers).filter (·.origin = .submitter)).map
        (Event.line wording) = notes wording polls answers count := by
  rw [pollsEvents, List.filter_flatMap, List.map_flatMap, notes, List.filterMap_eq_flatMap_toList]
  congr 1
  funext place
  rw [filter_pollEvents (· = .submitter)]
  exact (map_line_pollNotes (1 + place) polls answers[place]?).trans (by rw [Nat.add_comm])

/-- All that others write of them is what the client writes of the requests. -/
theorem filter_pollsEvents_client (hash : String) (polls : Nat) (answers : List Answer)
    (count : Nat) :
    (pollsEvents hash polls 1 count answers).filter (·.origin ≠ .submitter) =
      (List.range count).flatMap fun place =>
        clientEvents (.transactionReceipt hash) answers[place]? := by
  rw [pollsEvents, List.filter_flatMap]
  congr 1
  funext place
  rw [filter_pollEvents (· ≠ .submitter)]
  exact List.append_nil _

/-- One poll more adds its line behind the others. -/
theorem notes_succ (wording : Rpc.Wording) (polls : Nat) (answers : List Answer) (count : Nat) :
    notes wording polls answers (count + 1) =
      notes wording polls answers count ++
        (noteOf wording (count + 1) polls answers[count]?).toList := by
  rw [notes, List.range_succ, List.filterMap_append]
  congr 1

/-- Polls that do not end the wait have one line each. -/
theorem length_notes
    (passing : ∀ place < count, Pending answers[place]? ∨ Transient answers[place]?) :
    (notes wording polls answers count).length = count := by
  have each : (notes wording polls answers count).length = (List.range count).length :=
    List.filterMap_length_eq_length.2 fun place listed =>
      isSome_noteOf (passing place (List.mem_range.1 listed))
  rw [each, List.length_range]

/-- The line of each poll has the number of the poll, if only the last one can end the wait. -/
theorem getElem?_notes
    (passing : ∀ place, place + 1 < count → Pending answers[place]? ∨ Transient answers[place]?) :
    ∀ place < count,
      (notes wording polls answers count)[place]? =
        noteOf wording (place + 1) polls answers[place]? := by
  induction count with
  | zero => exact fun place below => absurd below (Nat.not_lt_zero place)
  | succ count ih =>
    intro place below
    have full : (notes wording polls answers count).length = count :=
      length_notes fun earlier before => passing earlier (Nat.succ_lt_succ before)
    rw [notes_succ]
    rcases Nat.lt_succ_iff_lt_or_eq.1 below with earlier | rfl
    · rw [List.getElem?_append_left (by rwa [full])]
      exact ih (fun other before => passing other (Nat.lt_succ_of_lt before)) place earlier
    · rw [List.getElem?_append_right (Nat.le_of_eq full), full, Nat.sub_self]
      cases noteOf wording (place + 1) polls answers[place]? <;> rfl

/-- Whether a number of polls with their lines end a wait as they should. -/
inductive Ends (polls : Nat) (answers : List Answer) (count : Nat) (lines : List String) :
    Except Rpc.Error (Option Receipt) → Prop where
  /-- There is a receipt: every poll has its line, and the last one says so. -/
  | found {receipt : Receipt} (counted : lines.length = count) (last : Nat)
    (final : count = last + 1) (decides : Decides answers[last]? (.ok receipt))
    (told : lines.getLast? = some (foundLine count)) :
    Ends polls answers count lines (.ok (some receipt))
  /-- There is none: every poll of the budget was made and has its line. -/
  | exhausted (counted : lines.length = count) (spent : count = polls)
    (undecided : ∀ place < polls, ∀ decision, ¬Decides answers[place]? decision) :
    Ends polls answers count lines (.ok none)
  /-- The last poll failed in a way that will not pass: every other has its line. -/
  | failed {error : Rpc.Error} (counted : lines.length + 1 = count)
    (decides : Decides answers[lines.length]? (.error error)) :
    Ends polls answers count lines (.error error)

variable {reaches : Endpoint → Bool} {submitter : Submitter}

/-- Of the log of a wait on a URL that reaches the node the submitter has written one line before
the polls and then one line for each poll, in order and with its number, that tells the class of the
answer it met: there is no receipt yet, or the poll failed in a way that may pass, with the text of
the failure, or there is a receipt. Only the last poll can end the wait; if it fails for good it has
no line, so there are as many lines as polls, or one less. All the rest of the log is what the
client has written of the requests, one after another. -/
theorem awaitReceipt_logs_every_poll (wording : Rpc.Wording)
    (reached : Reached reaches submitter.url) (hash : String) (polls : Nat)
    (answers : List Answer) :
    let shown := (submitter.awaitReceipt hash polls).play reaches answers
    let count := shown.requests.length
    let own := shown.events.filter (·.origin = .submitter)
    (∃ lines, own.map (Event.line wording) = waitingLine polls hash :: lines ∧
      (∀ place < count, Tells wording (place + 1) polls answers[place]? lines[place]?) ∧
      (∀ place, place + 1 < count → Pending answers[place]? ∨ Transient answers[place]?) ∧
      Ends polls answers count lines shown.result) ∧
    shown.events.filter (·.origin ≠ .submitter) = (List.range count).flatMap fun place =>
      clientEvents (.transactionReceipt hash) answers[place]? := by
  dsimp only
  rcases passing_or_first_decides answers polls with
    passing | ⟨place, early, passing, decision, decides⟩
  · rw [play_awaitReceipt_of_passing hash reached passing]
    dsimp only
    rw [List.length_replicate]
    have before : ∀ place, place + 1 < polls → _ := fun place below =>
      passing place (Nat.lt_of_succ_lt below)
    refine ⟨⟨notes wording polls answers polls, ?_, fun place below => ?_, before, ?_⟩, ?_⟩
    · rw [List.filter_cons_of_pos (by rfl), List.map_cons, line_waiting, map_line_pollsEvents]
    · rw [getElem?_notes before place below]
      exact tells_noteOf wording (place + 1) polls _
    · exact .exhausted (length_notes passing) rfl fun place below =>
        not_decides (passing place below)
    · rw [List.filter_cons_of_neg (by simp [Event.origin]), filter_pollsEvents_client]
  · rw [play_awaitReceipt_of_decides hash reached early passing decides]
    dsimp only
    rw [List.length_replicate]
    have before : ∀ earlier, earlier + 1 < place + 1 → _ := fun earlier below =>
      passing earlier (Nat.lt_of_succ_lt_succ below)
    have tells := tells_noteOf wording (place + 1) polls answers[place]?
    refine ⟨⟨notes wording polls answers (place + 1), ?_, fun other below => ?_, before, ?_⟩, ?_⟩
    · rw [List.filter_cons_of_pos (by rfl), List.map_cons, line_waiting, map_line_pollsEvents]
    · rw [getElem?_notes before other below]
      exact tells_noteOf wording (other + 1) polls _
    · have full : (notes wording polls answers place).length = place := length_notes passing
      rw [notes_succ]
      cases decision with
      | ok receipt =>
        rw [tells.found.2 ⟨receipt, decides⟩, Option.toList_some]
        refine .found ?_ place rfl decides (List.getLast?_concat ..)
        rw [List.length_append, full, List.length_singleton]
      | error error =>
        rw [tells.silent.2 ⟨error, decides⟩, Option.toList_none, List.append_nil]
        exact .failed (congrArg (· + 1) full) (by rwa [full])
    · rw [List.filter_cons_of_neg (by simp [Event.origin]), filter_pollsEvents_client]

/-- A node that is busy, drops a connection, then has no receipt yet, and then does not know the
path: three polls have their lines, and the fourth has none. -/
theorem awaitReceipt_logs_every_poll_unknown_path :
    let url := "http://127.0.0.1:8547"
    let reaches : Endpoint → Bool := fun _ => true
    let wording : Rpc.Wording :=
      { fault := fun _ => "error sending request", causes := fun _ => ["connection closed"],
        request := Rpc.Request.text, result := fun _ => "" }
    let pending : Answer :=
      .sent 200 (Text.Utf8.encode (Json.Value.object [("result", .null)]).text) false
    let answers := [.sent 503 [] false, .dropped, pending, .sent 404 [] false]
    let shown := (awaitReceipt { url } "0xabc" 5).play reaches answers
    let own := shown.events.filter (·.origin = .submitter)
    Reached reaches url ∧ shown.requests.length = 4 ∧
      ∃ lines, own.map (Event.line wording) =
          "INFO Waiting up to 5 polls for receipt of 0xabc" :: lines ∧
        lines[0]? = some "DEBUG Poll 1/5 failed, retrying: HTTP 503: " ∧
        lines[1]? = some
          "DEBUG Poll 2/5 failed, retrying: HTTP request failed: error sending request" ∧
        lines[2]? = some "DEBUG Poll 3/5: receipt not available yet" ∧ lines[3]? = none := by
  intro url reaches wording pending answers shown own
  have reached : Reached reaches ({ url } : Submitter).url := reached_local
  have busy : Transient answers[0]? := .refused (.intro (by decide)) (by decide)
  have dropped : Transient answers[1]? := .unusable .dropped
  have none_yet : Pending answers[2]? := .inl carries_none_of_null
  have lasts : Decides answers[3]? (.error (.httpStatus 404 "")) :=
    .refused (.intro (by decide)) (by decide)
  have passing : ∀ place < 3, Pending answers[place]? ∨ Transient answers[place]? := by
    intro place below
    obtain rfl | rfl | rfl : place = 0 ∨ place = 1 ∨ place = 2 := by omega
    · exact .inr busy
    · exact .inr dropped
    · exact .inl none_yet
  have count : shown.requests.length = 4 :=
    congrArg (·.requests.length)
      (play_awaitReceipt_of_decides "0xabc" reached (by decide) passing lasts)
  obtain ⟨⟨lines, logged, tells, -⟩, -⟩ :=
    awaitReceipt_logs_every_poll wording reached "0xabc" 5 answers
  refine ⟨reached, count, lines, logged, ?_, ?_, ?_, ?_⟩
  · exact ((tells 0 (count ▸ by decide)).retrying _).2
      ⟨busy, _, .refused (.intro (by decide)), rfl⟩
  · exact ((tells 1 (count ▸ by decide)).retrying _).2 ⟨dropped, _, .unusable .dropped, rfl⟩
  · exact (tells 2 (count ▸ by decide)).pending.2 none_yet
  · exact (tells 3 (count ▸ by decide)).silent.2 ⟨_, lasts⟩

end Submitter

end Courier
