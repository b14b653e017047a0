import Courier.Conversation

/-!
# Playing a conversation

A script lists the answers of a node in order. `Conversation.play` holds a conversation against
a script and writes down all that can be seen of it: the result, the bodies posted, the log, the
output and the answers left. A post takes the first answer left, and a script that has run out
answers nothing; a post to an endpoint that nobody listens at takes none and is not seen.
-/
namespace Courier

/-- One answer of a node. Answers that merely announce the final one are none; they are passed over
on the way (`Http.isInterim`). -/
inductive Answer where
  /-- The connection is closed without an answer. -/
  | dropped
  /-- A status and a body, of which the end may be missing. -/
  | sent (status : Nat) (body : List UInt8) (truncated : Bool)
  deriving DecidableEq, Repr

/-- Whether answers of a status have no body, whatever was to be sent. -/
def isBodiless (status : Nat) : Bool := status = 204 || status = 304

/-- What an answer comes to on the other side. -/
def Answer.reply : Answer → Reply
  | .dropped => .lost
  | .sent status body truncated =>
    if isBodiless status then .received status (some [])
    else .received status (if truncated then none else some body)

/-- All that can be seen of a conversation. -/
structure Transcript (α : Type) where
  /-- How it ended. -/
  result : α
  /-- The bodies that the node received, in order. -/
  requests : List String
  /-- The log, in order. -/
  events : List Event
  /-- The lines of the output, in order. -/
  lines : List String
  /-- The answers that the node has left. -/
  rest : List Answer

/-- The output as one text, each line with its end. -/
def Transcript.output {α : Type} (transcript : Transcript α) : String :=
  String.join (transcript.lines.map fun line => line ++ "\n")

/-- What one transcript shows, and then another that takes up where it ended. -/
def Transcript.andThen {α β : Type} (first : Transcript α) (second : Transcript β) :
    Transcript β where
  result := second.result
  requests := first.requests ++ second.requests
  events := first.events ++ second.events
  lines := first.lines ++ second.lines
  rest := second.rest

/-- What the next post brings back. -/
def nextReply : List Answer → Reply
  | [] => .lost
  | answer :: _ => answer.reply

namespace Conversation

variable {α β : Type}

/-- The transcript of a conversation with a node that listens at the endpoints that `reaches`
tells and answers with a script. -/
def play (reaches : Endpoint → Bool) : Conversation α → List Answer → Transcript α
  | .done result, answers => ⟨result, [], [], [], answers⟩
  | .post endpoint body next, answers =>
    if reaches endpoint then
      let later := (next (nextReply answers)).play reaches answers.tail
      { later with requests := body :: later.requests }
    else (next .lost).play reaches answers
  | .log event next, answers =>
    let later := next.play reaches answers
    { later with events := event :: later.events }
  | .print line next, answers =>
    let later := next.play reaches answers
    { later with lines := line :: later.lines }
  | .pause _ next, answers => next.play reaches answers

/-- Two conversations in a row show what the first shows, and then what the second shows on the
answers that the first has left. -/
theorem play_bind (reaches : Endpoint → Bool) (first : Conversation α)
    (second : α → Conversation β) (answers : List Answer) :
    (first.bind second).play reaches answers =
      let shown := first.play reaches answers
      shown.andThen ((second shown.result).play reaches shown.rest) := by
  induction first generalizing answers with
  | done => rfl
  | post endpoint body next ih =>
    simp only [bind, play]
    split
    · rw [ih]
      rfl
    · exact ih _ answers
  | log event next ih =>
    simp only [bind, play, ih]
    rfl
  | print line next ih =>
    simp only [bind, play, ih]
    rfl
  | pause milliseconds next ih => exact ih answers

/-- Leaving events out of the log changes nothing but the log, which keeps the others in their
order. -/
theorem play_keepEvents (reaches : Endpoint → Bool) (keep : Event → Bool)
    (conversation : Conversation α) (answers : List Answer) :
    (conversation.keepEvents keep).play reaches answers =
      let shown := conversation.play reaches answers
      { shown with events := shown.events.filter keep } := by
  induction conversation generalizing answers with
  | done => rfl
  | post endpoint body next ih =>
    simp only [keepEvents, play]
    split
    · rw [ih]
    · exact ih _ answers
  | log event next ih =>
    by_cases kept : keep event = true
    · simp only [keepEvents, kept, ↓reduceIte, play, ih, List.filter_cons_of_pos]
    · simp only [keepEvents, kept, Bool.false_eq_true, ↓reduceIte, play, ih,
        not_false_eq_true, List.filter_cons_of_neg]
  | print line next ih => simp only [keepEvents, play, ih]
  | pause milliseconds next ih => exact ih answers

end Conversation

end Courier
