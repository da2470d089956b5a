import LogTail.Screen.Rect

/-!
# The parts of the screen

How the screen is shared out. From left to right: the list of sources, and all else. From top to
bottom: the header, the log, the results of a search, the status bar and the query bar.

Where room is short the log comes first, then the three bars, then the results, and at last the
list of sources, which gives way until twenty columns are left for all else.
-/

namespace LogTail

open Screen (Rect)

def sourcesWidth : Nat := 24

/-- The columns that the list of sources leaves to all else. -/
def contentMinWidth : Nat := 20

def logMinHeight : Nat := 3

/-- The hundredths of the height that the results get. -/
def resultsShare : Nat := 40

/-- The parts of the screen. -/
structure Panes where
  sources : Rect
  header : Rect
  log : Rect
  results : Rect
  status : Rect
  query : Rect
  deriving DecidableEq, Repr, Inhabited

namespace Panes

/-- The columns of the list of sources on a screen of so many columns. -/
def sourcesColumns (width : Nat) : Nat := min sourcesWidth (width - contentMinWidth)

/-- The row where the results begin, which is at most `bottom`, the row of the status bar. Their
exact share is taken off `bottom`, and what is left is rounded to the nearest row. -/
def resultsTop (height bottom : Nat) : Nat :=
  let room := bottom - 1 - logMinHeight
  let share := min (resultsShare * height) (100 * room)
  (100 * bottom - share + 50) / 100

/-- The rows where the header, the log, the results, the status bar and the query bar begin. On a
screen of five rows the status bar has the last one and there is no query bar; on one of four
there is neither; on a smaller one there is the log alone. -/
def tops (height : Nat) (searching : Bool) : Nat × Nat × Nat × Nat × Nat :=
  if height ≤ logMinHeight then (0, 0, height, height, height)
  else if height ≤ logMinHeight + 2 then
    (0, 1, 1 + logMinHeight, 1 + logMinHeight, height)
  else
    let bottom := height - 2
    (0, 1, if searching then resultsTop height bottom else bottom, bottom, bottom + 1)

def ofScreen (width height : Nat) (sidePanel searching : Bool) : Panes :=
  let x := if sidePanel then sourcesColumns width else 0
  let (header, log, results, status, query) := tops height searching
  let pane (top bottom : Nat) : Rect := ⟨x, top, width - x, bottom - top⟩
  { sources := ⟨0, 0, x, height⟩
    header := pane header log
    log := pane log results
    results := pane results status
    status := pane status query
    query := pane query height }

end Panes

end LogTail
