import LogTail.Log.Level
import LogTail.Style.Ansi
import LogTail.Style.Theme
import LogTail.Text.Lines

/-!
# Log lines on the screen

A line with styles of its own is shown in them. Another line is shown in the color of its level,
when levels have colors, or plain.
-/

namespace LogTail

def Log.Level.color? (theme : Theme) : Log.Level → Option Color
  | .error => some theme.levelError
  | .warn => some theme.levelWarn
  | .info => some theme.levelInfo
  | .debug => some theme.levelDebug
  | .trace => some theme.levelTrace
  | .none => Option.none

namespace Display

def plainLines (text : String) : List StyledLine :=
  let span (text : String) : List StyledSpan := if text.isEmpty then [] else [⟨text, {}⟩]
  if text.isEmpty then [⟨[], {}⟩] else (Text.lines text).toList.map fun line => ⟨span line, {}⟩

/-- A line with its level, and the way it is shown once that was worked out. -/
structure LogLine where
  raw : String
  level : Log.Level
  hasAnsi : Bool
  rendered : Option (List StyledLine) := none
  deriving Repr, Inhabited

namespace LogLine

/-- A line not yet shown. -/
def ofRaw (raw : String) : LogLine where
  raw := raw
  level := Log.Level.ofLine raw
  hasAnsi := Text.Escape.present raw

/-- How a line of its level is shown. -/
def styled (line : LogLine) (theme : Theme) (levelColors : Bool) : List StyledLine :=
  if line.hasAnsi then Style.Ansi.lines line.raw
  else
    match line.level.color? theme, levelColors with
    | some color, true => [⟨[⟨line.raw, Style.withFg {} color⟩], {}⟩]
    | _, _ => plainLines line.raw

/-- The line as it is shown; worked out only the first time. -/
def render (line : LogLine) (theme : Theme) (levelColors : Bool) : List StyledLine × LogLine :=
  match line.rendered with
  | some shown => (shown, line)
  | none =>
    let shown := line.styled theme levelColors
    (shown, { line with rendered := some shown })

/-- Forget how the line is shown. -/
def invalidate (line : LogLine) : LogLine := { line with rendered := none }

end LogLine

end Display

end LogTail
