import Courier.Endpoint
import Courier.Event

/-!
# Conversations with a node

What a program does, step by step, with the outside left open: it posts a body and goes on with
the reply, writes an event to the log, prints a line, pauses, or is done. The same conversation
can be held over a real connection or played against written answers (`Courier.Script`).
-/
namespace Courier

/-- What came back for a posted body. -/
inductive Reply where
  /-- Nothing, or not even a whole head. -/
  | lost
  /-- A status, and the body unless it broke off before its end. -/
  | received (status : Nat) (body : Option (List UInt8))
  deriving DecidableEq, Repr

/-- A course of action that ends in a result. -/
inductive Conversation (α : Type) : Type where
  /-- The end. -/
  | done (result : α)
  /-- A body is posted and the reply decides what follows. -/
  | post (endpoint : Endpoint) (body : String) (next : Reply → Conversation α)
  /-- An event goes to the log. -/
  | log (event : Event) (next : Conversation α)
  /-- A line goes to the output. -/
  | print (line : String) (next : Conversation α)
  /-- Time passes. -/
  | pause (milliseconds : Nat) (next : Conversation α)

namespace Conversation

variable {α β γ : Type}

/-- One conversation after another, which may use the result of the first. -/
def bind (first : Conversation α) (second : α → Conversation β) : Conversation β :=
  match first with
  | .done result => second result
  | .post endpoint body next => .post endpoint body fun reply => (next reply).bind second
  | .log event next => .log event (next.bind second)
  | .print line next => .print line (next.bind second)
  | .pause milliseconds next => .pause milliseconds (next.bind second)

instance : Monad Conversation where
  pure := .done
  bind := bind

/-- What `do` writes as a step after another is `bind`. -/
theorem bind_eq (first : Conversation α) (second : α → Conversation β) :
    (first >>= second) = first.bind second := rfl

/-- What `do` returns is an end. -/
theorem pure_eq (result : α) : (pure result : Conversation α) = .done result := rfl

/-- A conversation followed by nothing is itself. -/
theorem bind_done (first : Conversation α) : first.bind .done = first := by
  induction first with
  | done => rfl
  | post _ _ _ ih => simp only [bind, ih]
  | log _ _ ih => simp only [bind, ih]
  | print _ _ ih => simp only [bind, ih]
  | pause _ _ ih => simp only [bind, ih]

/-- Of three conversations in a row it does not matter which two are taken together. -/
theorem bind_assoc (first : Conversation α) (second : α → Conversation β)
    (third : β → Conversation γ) :
    (first.bind second).bind third = first.bind fun result => (second result).bind third := by
  induction first with
  | done => rfl
  | post _ _ _ ih => simp only [bind, ih]
  | log _ _ ih => simp only [bind, ih]
  | print _ _ ih => simp only [bind, ih]
  | pause _ _ ih => simp only [bind, ih]

instance : LawfulMonad Conversation :=
  LawfulMonad.mk' Conversation bind_done (fun _ _ => rfl) bind_assoc

/-- An event for the log. -/
def record (event : Event) : Conversation Unit := .log event (.done ())

/-- A line for the output. -/
def printLine (line : String) : Conversation Unit := .print line (.done ())

/-- Some time without anything. -/
def wait (milliseconds : Nat) : Conversation Unit := .pause milliseconds (.done ())

/-- The conversation with only those events in the log that a test keeps. -/
def keepEvents (keep : Event → Bool) : Conversation α → Conversation α
  | .done result => .done result
  | .post endpoint body next => .post endpoint body fun reply => (next reply).keepEvents keep
  | .log event next =>
    if keep event then .log event (next.keepEvents keep) else next.keepEvents keep
  | .print line next => .print line (next.keepEvents keep)
  | .pause milliseconds next => .pause milliseconds (next.keepEvents keep)

end Conversation

end Courier
