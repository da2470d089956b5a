import LogTail.Screen.Canvas

/-!
# Keys, and the input that they are typed into

The query is typed into an input, which is a widget of another library: it has lines of text, it
answers to keys, and it can be drawn. All that the application does with it goes through `Input`,
and whatever holds of the application holds with any input.

Of a key that is pressed the input says whether it changed the text, and the application believes
it. `Honest` says that it may.
-/

namespace LogTail

inductive KeyCode where
  | char (c : Char)
  | enter
  | escape
  | tab
  | up
  | down
  | left
  | right
  | home
  | end_
  | pageUp
  | pageDown
  | backspace
  | delete
  | function (n : Nat)
  /-- A key that means nothing, here or to the input. -/
  | other
  deriving DecidableEq, Repr

/-- A key, and the keys held down with it. -/
structure Key where
  code : KeyCode
  ctrl : Bool := false
  alt : Bool := false
  shift : Bool := false
  deriving DecidableEq, Repr

namespace Query

open Screen (Canvas Rect)

class Input (ε : Type) where
  /-- The input with nothing typed. -/
  empty : ε
  lines : ε → List String
  /-- Press a key; tells whether the text was changed. -/
  press : ε → Key → Bool × ε
  /-- Draw the input, which may note what part of it is shown. -/
  draw : ε → Canvas → Rect → Canvas × ε
  lines_empty : lines empty = [""]
  lines_draw (input : ε) (c : Canvas) (area : Rect) : lines (draw input c area).2 = lines input

namespace Input

variable {ε : Type} [Input ε]

/-- The text without the ends of lines. -/
def text (input : ε) : String := String.join (lines input)

@[simp] theorem text_empty : text (empty : ε) = "" := by
  rw [text, lines_empty]
  rfl

@[simp] theorem text_draw (input : ε) (c : Canvas) (area : Rect) :
    text (draw input c area).2 = text input := by
  rw [text, text, lines_draw]

variable (ε) in
/-- Where the text was changed, the input says so. -/
structure Honest : Prop where
  tells (input : ε) (key : Key) :
    text (press input key).2 ≠ text input → (press input key).1 = true

theorem Honest.text_press (h : Honest ε) {input : ε} {key : Key}
    (hsame : (press input key).1 = false) : text (press input key).2 = text input :=
  Decidable.of_not_not fun hchanged =>
    absurd ((h.tells input key hchanged).symm.trans hsame) (by simp)

end Input

end Query

end LogTail
