import LogTail.Text.Lines

/-!
# Snapshots of a log

A snapshot holds the newest lines of one text of the log. Lines are numbered from the start of
the generation, so a line keeps its number when older lines are evicted.
-/

namespace LogTail.Log

/-- The retained lines of one text. -/
structure Snapshot where
  /-- Which text this is. A buffer gives every new text the next number, from 1 on; 0 is the
  blank snapshot that no buffer made. -/
  version : Nat := 0
  generation : Nat := 0
  /-- The number of the oldest retained line. -/
  firstLine : Nat := 0
  lines : Array String := #[]
  deriving DecidableEq, Repr, Inhabited

namespace Snapshot

/-- How many lines the generation has, retained or evicted. -/
def lineCount (s : Snapshot) : Nat := s.firstLine + s.lines.size

def isEmpty (s : Snapshot) : Bool := s.lines.isEmpty

/-- The retained line with a number. -/
def line? (s : Snapshot) (n : Nat) : Option String :=
  if n < s.firstLine then none else s.lines[n - s.firstLine]?

/-- The retained lines from number `start` on, with their numbers. -/
def linesFrom (s : Snapshot) (start : Nat) : List (Nat × String) :=
  let skip := min (start - s.firstLine) s.lines.size
  (s.lines.toList.drop skip).zipIdx (s.firstLine + skip) |>.map fun (line, n) => (n, line)

/-- The retained text, with a line feed between any two lines. -/
def text (s : Snapshot) : String := Text.joinLines s.lines

/-- Whether two snapshots are of the same text. -/
def same (s t : Snapshot) : Bool := s.version == t.version

end Snapshot

end LogTail.Log
