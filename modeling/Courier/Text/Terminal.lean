/-!
# Text without terminal control

A terminal obeys some characters of a text and shows the others. `visible` is the text that it
shows: control characters are left out, and so are the sequences and strings that an escape
character opens. Tabs, line feeds, form feeds and carriage returns lay out the text, and stay.

A control sequence does not hold back such a layout character. The text that follows one is
shown, and the sequence is taken up again at the next character that is not.

What is visible holds only characters that plain text shows (`isShown_of_mem_visible`), a text
of such characters is visible as it is (`visible_of_forall_isShown`), and so nothing is left to
take out of what is visible (`visible_visible`).
-/
namespace Courier.Text.Terminal

/-- Where a terminal stands between two characters. -/
inductive State where
  /-- In plain text. -/
  | ground
  /-- After an escape character. -/
  | escape
  /-- In an escape sequence, after an intermediate character. -/
  | intermediate
  /-- In a control sequence. -/
  | control
  /-- At the opening of a device control string. -/
  | device
  /-- Among the parameters of a device control string. -/
  | deviceParameter
  /-- After an intermediate character of a device control string. -/
  | deviceIntermediate
  /-- In the body of a device control string, a privacy message or the like. -/
  | body
  /-- In an operating system command, which a bell ends. -/
  | command
  deriving DecidableEq, Repr

/-- Whether a character is a control character: below the space, or the delete character. -/
def isControl (c : Char) : Bool := c.toNat < 0x20 || c.toNat = 0x7F

/-- Whether a control character lays out the text around it. -/
def isLayout (c : Char) : Bool := c = '\t' || c = '\n' || c = '\x0c' || c = '\r'

/-- Whether a character is shown where it stands in plain text. -/
def isShown (c : Char) : Bool := isLayout c || !isControl c

/-- The byte that ends the body of a control string, also where it is part of a character. -/
def stringTerminator : UInt8 := 0x9C

namespace State

/-- Where a character after the escape character leads. -/
def ofOpener (c : Char) : State :=
  if c.toNat < 0x30 then .intermediate
  else if c = '[' then .control
  else if c = ']' then .command
  else if c = 'P' then .device
  else if c = 'X' || c = '^' || c = '_' then .body
  else .ground

/-- Where a character of the basic range, from the space to the tilde, leads. -/
def afterBasic (state : State) (c : Char) : State :=
  match state with
  | .ground => .ground
  | .escape => ofOpener c
  | .intermediate => if c.toNat < 0x30 then .intermediate else .ground
  | .control => if c.toNat < 0x40 then .control else .ground
  | .device =>
    if c.toNat < 0x30 then .deviceIntermediate
    else if c.toNat < 0x40 then .deviceParameter
    else .body
  | .deviceParameter =>
    if c.toNat < 0x30 then .deviceIntermediate
    else if c.toNat < 0x3C then .deviceParameter
    else .body
  | .deviceIntermediate => if c.toNat < 0x30 then .deviceIntermediate else .body
  | .body => .body
  | .command => .command

/-- Where a character leads. Everywhere an escape character opens anew, and a cancel or a
substitute character ends what was open. -/
def next (state : State) (c : Char) : State :=
  if c = '\x1b' then .escape
  else if c = '\x18' || c = '\x1a' then .ground
  else if isControl c then
    if state = .command && c = '\x07' then .ground else state
  else if c.toNat < 0x80 then state.afterBasic c
  else if state = .body && (String.utf8EncodeChar c).contains stringTerminator then .ground
  else state

/-- Whether a state lets layout characters through: all do but those of a string. -/
def letsLayout : State → Bool
  | .ground | .escape | .intermediate | .control => true
  | .device | .deviceParameter | .deviceIntermediate | .body | .command => false

/-- Whether a character is shown in a state. -/
def shows (state : State) (c : Char) : Bool :=
  if state = .ground then isShown c else state.letsLayout && isLayout c

/-- Only what plain text shows is shown in any state. -/
theorem isShown_of_shows {state : State} {c : Char} (shown : state.shows c = true) :
    isShown c = true := by
  unfold shows at shown
  split at shown
  · exact shown
  · rw [Bool.and_eq_true] at shown
    simp [isShown, shown.2]

end State

/-- What decides about the next character: the state, and whether the last one was shown. -/
structure View where
  /-- Where the terminal stands. -/
  state : State
  /-- Whether the last character was shown. -/
  showing : Bool
  deriving DecidableEq, Repr

namespace View

/-- At the start of a text. -/
def start : View := ⟨.ground, false⟩

/-- Whether a character is shown. After one that was, the text runs on as plain text. -/
def shows (view : View) (c : Char) : Bool :=
  if view.showing then isShown c else view.state.shows c

/-- The view after a character that is shown: a sequence that it interrupts stays open, unless
the character is outside the basic range. -/
def afterShown (view : View) (c : Char) : View :=
  ⟨if c.toNat < 0x80 then view.state else .ground, true⟩

/-- The view after a character that is not shown. -/
def afterHidden (view : View) (c : Char) : View := ⟨view.state.next c, false⟩

/-- Only what plain text shows is shown in any view. -/
theorem isShown_of_shows {view : View} {c : Char} (shown : view.shows c = true) :
    isShown c = true := by
  unfold shows at shown
  split at shown
  · exact shown
  · exact State.isShown_of_shows shown

/-- The characters that are shown, from a view on. -/
def visible (view : View) : List Char → List Char
  | [] => []
  | c :: rest =>
    if view.shows c then c :: (view.afterShown c).visible rest
    else (view.afterHidden c).visible rest

/-- Every character that is visible is one that plain text shows. -/
theorem isShown_of_mem_visible {view : View} {text : List Char} {c : Char}
    (member : c ∈ view.visible text) : isShown c = true := by
  induction text generalizing view with
  | nil => simp [visible] at member
  | cons first rest ih =>
    unfold visible at member
    split at member
    · rename_i shown
      rcases List.mem_cons.mp member with rfl | later
      · exact isShown_of_shows shown
      · exact ih later
    · exact ih member

/-- In plain text, characters that are shown there are visible as they are. -/
theorem visible_of_forall_isShown {text : List Char} (shown : ∀ c ∈ text, isShown c = true)
    (showing : Bool) : (View.mk .ground showing).visible text = text := by
  induction text generalizing showing with
  | nil => rfl
  | cons first rest ih =>
    have head : isShown first = true := shown first List.mem_cons_self
    have tail := ih (fun c member => shown c (List.mem_cons_of_mem _ member)) true
    simp [visible, shows, State.shows, afterShown, head, tail]

end View

/-- The text that a terminal shows. -/
def visible (text : String) : String := String.ofList (View.start.visible text.toList)

/-- Every character that is visible is one that plain text shows. -/
theorem isShown_of_mem_visible {text : String} {c : Char} (member : c ∈ (visible text).toList) :
    isShown c = true := by
  rw [visible, String.toList_ofList] at member
  exact View.isShown_of_mem_visible member

/-- A text of characters that plain text shows is visible as it is. -/
theorem visible_of_forall_isShown {text : String} (shown : ∀ c ∈ text.toList, isShown c = true) :
    visible text = text := by
  rw [visible, View.start, View.visible_of_forall_isShown shown, String.ofList_toList]

/-- What is visible is visible as it is. -/
theorem visible_visible (text : String) : visible (visible text) = visible text :=
  visible_of_forall_isShown fun _ member => isShown_of_mem_visible member

end Courier.Text.Terminal
