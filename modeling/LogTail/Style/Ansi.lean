import LogTail.Style.Basic
import LogTail.Text.Escape

/-!
# Text with its own styles

A styled log line sets its styles by sequences `ESC [ codes m`; a style holds until it is changed,
also over ends of lines. Every other sequence is passed over: after `ESC [` up to a letter, after
`ESC ]` up to a bell, otherwise the `ESC` alone. Lines end at line feeds; a carriage return is kept.
-/

namespace LogTail.Style.Ansi

open Text.Escape (esc)

def number? (cs : List Char) : Option (Nat × List Char) :=
  let ds := cs.takeWhile Char.isDigit
  if ds.isEmpty then none
  else some (ds.foldl (fun n d => n * 10 + (d.toNat - '0'.toNat)) 0, cs.drop ds.length)

/-- A number below 256 in front, and the rest. -/
def byte? (cs : List Char) : Option (Nat × List Char) :=
  (number? cs).filter fun (n, _) => n < 256

def skipSemicolon : List Char → List Char
  | ';' :: cs => cs
  | cs => cs

/-- The rest after a semicolon that must be there. -/
def semicolon? : List Char → Option (List Char)
  | ';' :: cs => some cs
  | _ => none

/-- The number in front with a sign or without, and the rest. -/
def signed? : List Char → Option (Int × List Char)
  | '+' :: cs => (number? cs).map fun (n, rest) => ((n : Int), rest)
  | '-' :: cs => (number? cs).map fun (n, rest) => (-(n : Int), rest)
  | cs => (number? cs).map fun (n, rest) => ((n : Int), rest)

/-- A color in numbers: `5;INDEX` or `2;RED;GREEN;BLUE`. -/
def color? (cs : List Char) : Option (Color × List Char) := do
  let (kind, cs) ← signed? cs
  let cs ← semicolon? cs
  let cs := skipSemicolon cs
  if kind = 5 then
    let (index, cs) ← byte? cs
    return (.indexed index, cs)
  else if kind = 2 then
    let (red, cs) ← byte? cs
    let (green, cs) ← byte? (← semicolon? cs)
    let (blue, cs) ← byte? (← semicolon? cs)
    return (.rgb red green blue, cs)
  else none

/-- The eight colors of the terminal, in the order of their codes. -/
def darkColors : List Color := [.black, .red, .green, .yellow, .blue, .magenta, .cyan, .gray]

def brightColors : List Color :=
  [.darkGray, .lightRed, .lightGreen, .lightYellow, .lightBlue, .lightMagenta, .lightCyan, .white]

/-- The modifiers of the codes 1 to 9. -/
def modifierCodes : List Modifiers := [
  Modifiers.bold, Modifiers.dim, Modifiers.italic, Modifiers.underlined, Modifiers.slowBlink,
  Modifiers.rapidBlink, Modifiers.reversed, Modifiers.hidden, Modifiers.crossedOut]

/-- The style after a code without a color in numbers. Code 107 sets the text white. -/
def applyCode (style : Style) (code : Nat) : Style :=
  if code = 0 then Style.reset
  else if code < 10 then style.adding (modifierCodes.getD (code - 1) 0)
  else if code = 22 then style.removing (Modifiers.bold ||| Modifiers.dim)
  else if 30 ≤ code ∧ code < 38 then style.withFg (darkColors.getD (code - 30) .reset)
  else if code = 39 then style.withFg .reset
  else if 40 ≤ code ∧ code < 48 then style.withBg (darkColors.getD (code - 40) .reset)
  else if code = 49 then style.withBg .reset
  else if 90 ≤ code ∧ code < 98 then style.withFg (brightColors.getD (code - 90) .reset)
  else if 100 ≤ code ∧ code < 107 then style.withBg (brightColors.getD (code - 100) .reset)
  else if code = 107 then style.withFg .white
  else style

/-- The style after one code, and the rest. -/
def code? (style : Style) (cs : List Char) : Option (Style × List Char) := do
  let (code, cs) ← byte? cs
  if code = 38 ∨ code = 48 then
    let (color, cs) ← color? (skipSemicolon cs)
    return (if code = 38 then style.withFg color else style.withBg color, skipSemicolon cs)
  else return (applyCode style code, skipSemicolon cs)

/-- The style after all codes that can be read, how many there were, and the rest. -/
def codes : Nat → Style → Nat → List Char → Style × Nat × List Char
  | 0, style, count, cs => (style, count, cs)
  | fuel + 1, style, count, cs =>
    match code? style cs with
    | some (style, cs) => codes fuel style (count + 1) cs
    | none => (style, count, cs)

/-- The style that a sequence at the front sets, and the rest. No code at all is a reset. -/
def setStyle? (style : Style) : List Char → Option (Style × List Char)
  | '\x1b' :: '[' :: cs =>
    match codes (cs.takeWhile fun c => !c.isAlpha).length style 0 cs with
    | (_, 0, 'm' :: rest) => some (Style.reset, rest)
    | (style, _, 'm' :: rest) => some (style, rest)
    | _ => none
  | _ => none

/-- The rest after a sequence of any other kind at the front. -/
def skipSequence : List Char → List Char
  | '\x1b' :: '[' :: cs => (cs.dropWhile fun c => !c.isAlpha).drop 1
  | '\x1b' :: ']' :: cs => (cs.dropWhile (· != '\x07')).drop 1
  | '\x1b' :: cs => cs
  | cs => cs

/-- The spans of a line, and the style at its end. -/
def spans : Nat → Style → List Char → List StyledSpan × Style
  | 0, style, _ => ([], style)
  | fuel + 1, style, cs =>
    let (style, cs) := match setStyle? style cs with
      | some (set, cs) => (style.patch set, cs)
      | none => (style, skipSequence cs)
    let shown := cs.takeWhile (· != esc)
    let rest := cs.drop shown.length
    let here := if shown.isEmpty then [] else [⟨String.ofList shown, style⟩]
    if rest.isEmpty then (here, style)
    else
      let (more, last) := spans fuel style rest
      (here ++ more, last)

/-- The lines of a text, in the style at its start. -/
def linesFrom : Nat → Style → List Char → List StyledLine
  | 0, _, _ => []
  | fuel + 1, style, cs =>
    let line := cs.takeWhile (· != '\n')
    let rest := cs.drop (line.length + 1)
    let (shown, style) := spans (line.length + 1) style line
    ⟨shown, {}⟩ :: if rest.isEmpty then [] else linesFrom fuel style rest

def lines (text : String) : List StyledLine :=
  let cs := text.toList
  linesFrom (cs.length + 1) {} cs

end LogTail.Style.Ansi
