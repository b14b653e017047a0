import Courier.Proofs.Answers

/-!
# Which answer meets which request

A conversation asks and goes on with what comes back. `Conversation.Held` is that alone, without a
script: the bodies posted, each with its reply, and the result. A conversation that is played takes
up the answers in their order, one for each body (`Conversation.rest_play`), so the reply to a body
is the answer with its number (`Conversation.held_play`).
-/
namespace Courier

/-- Bodies and the replies to them, if the first of them has the number `first` among all that meet
the answers. -/
def numbered (answers : List Answer) (first : Nat) (bodies : List String) :
    List (String × Reply) :=
  (bodies.zipIdx first).map fun (body, place) => (body, replyTo answers[place]?)

/-- The first body meets the answer with the number given, and the others those that follow. -/
theorem numbered_cons (answers : List Answer) (first : Nat) (body : String)
    (bodies : List String) :
    numbered answers first (body :: bodies) =
      (body, replyTo answers[first]?) :: numbered answers (first + 1) bodies := rfl

namespace Conversation

variable {α β : Type}

/-- A conversation that does nothing more than to wrap up the result of another shows what that
shows. -/
theorem play_wrap (reaches : Endpoint → Bool) (conversation : Conversation α) (wrap : α → β)
    (answers : List Answer) :
    (conversation >>= fun result => pure (wrap result)).play reaches answers =
      let shown := conversation.play reaches answers
      { shown with result := wrap shown.result } := by
  rw [bind_eq, play_bind]
  simp only [pure_eq, play, Transcript.andThen, List.append_nil]

/-- Whether a conversation comes to a result through exchanges: the bodies that it posts to a node
that listens, each with its reply. -/
inductive Held (reaches : Endpoint → Bool) :
    Conversation α → List (String × Reply) → α → Prop where
  /-- It is over. -/
  | done (result : α) : Held reaches (.done result) [] result
  /-- A body goes out. -/
  | post {endpoint : Endpoint} {body : String} {next : Reply → Conversation α} {reply : Reply}
    {later : List (String × Reply)} {result : α} (listens : reaches endpoint = true)
    (held : Held reaches (next reply) later result) :
    Held reaches (.post endpoint body next) ((body, reply) :: later) result
  /-- A body does not go out, since nobody listens. -/
  | lose {endpoint : Endpoint} {body : String} {next : Reply → Conversation α}
    {later : List (String × Reply)} {result : α} (silent : reaches endpoint = false)
    (held : Held reaches (next .lost) later result) :
    Held reaches (.post endpoint body next) later result
  /-- An event goes to the log. -/
  | log {event : Event} {next : Conversation α} {later : List (String × Reply)} {result : α}
    (held : Held reaches next later result) : Held reaches (.log event next) later result
  /-- A line is printed. -/
  | print {line : String} {next : Conversation α} {later : List (String × Reply)} {result : α}
    (held : Held reaches next later result) : Held reaches (.print line next) later result
  /-- Time passes. -/
  | pause {milliseconds : Nat} {next : Conversation α} {later : List (String × Reply)} {result : α}
    (held : Held reaches next later result) : Held reaches (.pause milliseconds next) later result

/-- The answers left are those behind as many as bodies have been posted. -/
theorem rest_play (reaches : Endpoint → Bool) (conversation : Conversation α)
    (answers : List Answer) :
    let shown := conversation.play reaches answers
    shown.rest = answers.drop shown.requests.length := by
  induction conversation generalizing answers with
  | done => rfl
  | post endpoint body next ih =>
    cases listens : reaches endpoint with
    | false =>
      simp only [play, listens, Bool.false_eq_true, ↓reduceIte]
      exact ih .lost answers
    | true =>
      simp only [play, listens, ↓reduceIte, List.length_cons]
      rw [ih (nextReply answers) answers.tail, List.drop_tail]
  | log event next ih => exact ih answers
  | print line next ih => exact ih answers
  | pause milliseconds next ih => exact ih answers

/-- A conversation played from some answer on meets that one first, and then the others in their
order. -/
theorem held_play (reaches : Endpoint → Bool) (conversation : Conversation α)
    (answers : List Answer) (first : Nat) :
    let shown := conversation.play reaches (answers.drop first)
    Held reaches conversation (numbered answers first shown.requests) shown.result := by
  induction conversation generalizing first with
  | done result => exact .done result
  | post endpoint body next ih =>
    cases listens : reaches endpoint with
    | false =>
      simp only [play, listens, Bool.false_eq_true, ↓reduceIte]
      exact .lose listens (ih .lost first)
    | true =>
      have met : nextReply (answers.drop first) = replyTo answers[first]? := by
        rw [nextReply_eq, List.head?_drop]
      simp only [play, listens, ↓reduceIte, numbered_cons, met, List.tail_drop]
      exact .post listens (ih (replyTo answers[first]?) (first + 1))
  | log event next ih => exact .log (ih first)
  | print line next ih => exact .print (ih first)
  | pause milliseconds next ih => exact .pause (ih first)

end Conversation

end Courier
