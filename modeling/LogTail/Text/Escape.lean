/-!
# Escape sequences

A control sequence runs from `ESC [` to the first character between `@` and `~`; any other
escape is `ESC` and one character more. A sequence may be cut short by the end of the text.
`strip` keeps what stands outside all of them.
-/

namespace LogTail.Text.Escape

/-- The character that opens every sequence. -/
def esc : Char := '\x1b'

/-- Whether the character ends a control sequence. -/
def isFinal (c : Char) : Bool := 0x40 ≤ c.toNat && c.toNat ≤ 0x7E

/-- Where a reader stands: in plain text, after an `ESC`, or inside a control sequence. -/
inductive State where
  | plain
  | escape
  | control
  deriving DecidableEq, Repr

def State.next : State → Char → State
  | .plain, c => if c = esc then .escape else .plain
  | .escape, c => if c = '[' then .control else .plain
  | .control, c => if isFinal c then .plain else .control

/-- The characters outside all sequences, read from the state on. -/
def stripFrom : State → List Char → List Char
  | _, [] => []
  | .plain, c :: cs => if c = esc then stripFrom .escape cs else c :: stripFrom .plain cs
  | state, c :: cs => stripFrom (state.next c) cs

def strip (text : String) : String := String.ofList (stripFrom .plain text.toList)

/-- Whether the text holds an `ESC`. -/
def present (text : String) : Bool := text.toList.contains esc

/-! ## Small laws -/

/-- The second part of a text is read from the state that the first part leads to. -/
theorem stripFrom_append (state : State) (cs ds : List Char) :
    stripFrom state (cs ++ ds) =
      stripFrom state cs ++ stripFrom (cs.foldl State.next state) ds := by
  induction cs generalizing state with
  | nil => simp [stripFrom]
  | cons c cs ih =>
    cases state with
    | plain => by_cases h : c = esc <;> simp [stripFrom, State.next, h, ih]
    | escape => simp [stripFrom, ih]
    | control => simp [stripFrom, ih]

end LogTail.Text.Escape
