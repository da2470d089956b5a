import LogTail.Search.Needle

/-!
# The match index

The lines of a log that hold a term, in order, each with its spans, and the number of spans in
all. The operations keep the order and the number as they go.
-/

namespace LogTail.Search

/-- A line that holds the term. -/
structure MatchedLine where
  line : Nat
  spans : List Span
  deriving DecidableEq, Repr, Inhabited

/-- The matched lines, in order, and how many spans they have together. -/
structure MatchIndex where
  entries : Array MatchedLine := #[]
  matchCount : Nat := 0
  deriving DecidableEq, Repr, Inhabited

namespace MatchIndex

def countSpans (entries : Array MatchedLine) : Nat :=
  entries.foldl (fun n e => n + e.spans.length) 0

/-- The numbers of the matched lines, in order. -/
def lineOrder (index : MatchIndex) : Array Nat := index.entries.map (·.line)

def size (index : MatchIndex) : Nat := index.entries.size

/-- The line at a position of the order. -/
def lineAt? (index : MatchIndex) (position : Nat) : Option Nat :=
  index.entries[position]?.map (·.line)

/-- How many matched lines come before a line: the position of the first one that does not. -/
def rank (index : MatchIndex) (line : Nat) : Nat := index.entries.findIdx fun e => line ≤ e.line

def position? (index : MatchIndex) (line : Nat) : Option Nat :=
  let r := index.rank line
  if index.lineAt? r = some line then some r else none

def spans? (index : MatchIndex) (line : Nat) : Option (List Span) :=
  (index.position? line).bind fun p => index.entries[p]?.map (·.spans)

/-- Put a later line at the end. -/
def push (index : MatchIndex) (line : Nat) (spans : List Span) : MatchIndex :=
  ⟨index.entries.push ⟨line, spans⟩, index.matchCount + spans.length⟩

/-- Put the entries of `tail` in place of all entries from line `start` on. -/
def spliceFrom (index : MatchIndex) (start : Nat) (tail : MatchIndex) : MatchIndex :=
  let cut := index.rank start
  let gone := countSpans (index.entries.extract cut index.size)
  tail.entries.foldl (fun index e => index.push e.line e.spans)
    ⟨index.entries.extract 0 cut, index.matchCount - gone⟩

/-- Drop the entries before a line; also tells how many went. -/
def pruneBefore (index : MatchIndex) (firstLine : Nat) : Nat × MatchIndex :=
  let cut := index.rank firstLine
  let gone := countSpans (index.entries.extract 0 cut)
  (cut, ⟨index.entries.extract cut index.size, index.matchCount - gone⟩)

end MatchIndex

end LogTail.Search
