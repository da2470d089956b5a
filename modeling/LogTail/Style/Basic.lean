import LogTail.Style.Color

/-!
# Styles and styled text

A style is a change to how text is shown: colors to set, and modifiers to add and to take away.
Modifiers are bits of a number.
-/

namespace LogTail

/-- Ways to show text, besides colors, as bits. -/
abbrev Modifiers := Nat

namespace Modifiers

def bold : Modifiers := 1

def dim : Modifiers := 2

def italic : Modifiers := 4

def underlined : Modifiers := 8

def slowBlink : Modifiers := 16

def rapidBlink : Modifiers := 32

def reversed : Modifiers := 64

def hidden : Modifiers := 128

def crossedOut : Modifiers := 256

/-- Every one of them. -/
def all : Modifiers := 511

/-- Those of `a` that are not in `b`. -/
def minus (a b : Modifiers) : Modifiers := a &&& (all ^^^ b)

end Modifiers

/-- A change to how text is shown. -/
structure Style where
  fg : Option Color := none
  bg : Option Color := none
  add : Modifiers := 0
  sub : Modifiers := 0
  deriving DecidableEq, Repr, Inhabited

namespace Style

def withFg (s : Style) (color : Color) : Style := { s with fg := some color }

def withBg (s : Style) (color : Color) : Style := { s with bg := some color }

def adding (s : Style) (m : Modifiers) : Style :=
  { s with add := s.add ||| m, sub := Modifiers.minus s.sub m }

def removing (s : Style) (m : Modifiers) : Style :=
  { s with add := Modifiers.minus s.add m, sub := s.sub ||| m }

/-- One change after another. -/
def patch (s t : Style) : Style where
  fg := t.fg.orElse fun _ => s.fg
  bg := t.bg.orElse fun _ => s.bg
  add := Modifiers.minus s.add t.sub ||| t.add
  sub := Modifiers.minus s.sub t.add ||| t.sub

/-- Back to what the terminal shows by itself. -/
def reset : Style := ⟨some .reset, some .reset, 0, Modifiers.all⟩

end Style

structure StyledSpan where
  text : String
  style : Style := {}
  deriving DecidableEq, Repr, Inhabited

/-- A line of spans, with a style below theirs. -/
structure StyledLine where
  spans : List StyledSpan
  style : Style := {}
  deriving DecidableEq, Repr, Inhabited

end LogTail
