/-!
# Colors
-/

namespace LogTail

inductive Color where
  /-- Whatever the terminal shows by itself. -/
  | reset
  | black
  | red
  | green
  | yellow
  | blue
  | magenta
  | cyan
  | gray
  | darkGray
  | lightRed
  | lightGreen
  | lightYellow
  | lightBlue
  | lightMagenta
  | lightCyan
  | white
  | rgb (red green blue : Nat)
  /-- One of the terminal's 256 colors. -/
  | indexed (index : Nat)
  deriving DecidableEq, Repr, Inhabited

namespace Color

/-- Two hexadecimal digits. -/
def hexByte (n : Nat) : String :=
  String.ofList ([n / 16 % 16, n % 16].map fun d => (Nat.digitChar d).toUpper)

def text : Color → String
  | reset => "Reset"
  | black => "Black"
  | red => "Red"
  | green => "Green"
  | yellow => "Yellow"
  | blue => "Blue"
  | magenta => "Magenta"
  | cyan => "Cyan"
  | gray => "Gray"
  | darkGray => "DarkGray"
  | lightRed => "LightRed"
  | lightGreen => "LightGreen"
  | lightYellow => "LightYellow"
  | lightBlue => "LightBlue"
  | lightMagenta => "LightMagenta"
  | lightCyan => "LightCyan"
  | white => "White"
  | rgb r g b => "#" ++ hexByte r ++ hexByte g ++ hexByte b
  | indexed i => toString i

end Color

end LogTail
