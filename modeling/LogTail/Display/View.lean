import Std.Data.HashMap
import LogTail.Display.Command
import LogTail.Display.LogLine

/-!
# The log view

What the screen shows of the log. It changes through commands alone. Lines are remembered by
number with the way they are shown; a line whose text has grown is looked at anew.
-/

namespace LogTail.Display

/-- How many lines are remembered before a new text empties the store. -/
def lineStoreLimit : Nat := 4096

structure View where
  snapshot : Log.Snapshot := {}
  top : Nat := 0
  unseen : Nat := 0
  results : Search.Results := {}
  status : Search.Status := .idle
  /-- The line that is marked, and until when. -/
  flash : Option (Nat × Nat) := none
  flashTime : Nat
  lines : Std.HashMap Nat LogLine := {}

namespace View

def apply (v : View) (now : Nat) : Command → View
  | .render snapshot =>
    let keep := snapshot.generation = v.snapshot.generation ∧ v.lines.size ≤ lineStoreLimit
    { v with snapshot := snapshot, lines := if keep then v.lines else {} }
  | .scroll line top flash =>
    { v with top := top, flash := if flash then some (line, now + v.flashTime) else v.flash }
  | .badge unseen => { v with unseen := unseen }
  | .results results => { v with results := results }
  | .status status => { v with status := status }

/-- The line that is marked now. -/
def flashLine? (v : View) (now : Nat) : Option Nat :=
  (v.flash.filter fun (_, until_) => now < until_).map (·.1)

/-- The numbers of the lines in so many rows: the first one, and one past the last. -/
def visible (v : View) (height : Nat) : Nat × Nat :=
  let start := max v.top v.snapshot.firstLine
  (start, max (min (start + height) v.snapshot.lineCount) start)

/-- The line with a number, as it is remembered from now on. -/
def remember (v : View) (n : Nat) : Option LogLine × View :=
  match v.snapshot.line? n with
  | none => (none, v)
  | some text =>
    let line := match v.lines[n]? with
      | some line => if line.raw = text then line else LogLine.ofRaw text
      | none => LogLine.ofRaw text
    (some line, { v with lines := v.lines.insert n line })

/-- Show a line: the line as it is remembered from now on, and how it is shown. -/
def showLine (v : View) (n : Nat) (theme : Theme) (levelColors : Bool) :
    Option (LogLine × List StyledLine) × View :=
  match v.remember n with
  | (none, v) => (none, v)
  | (some line, v) =>
    let (shown, line) := line.render theme levelColors
    (some (line, shown), { v with lines := v.lines.insert n line })

/-- Forget how lines are shown. -/
def invalidate (v : View) : View :=
  { v with lines := v.lines.map fun _ line => line.invalidate }

end View

end LogTail.Display
