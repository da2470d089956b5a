import LogTail.Search.Needle

/-!
# Segments of a line

A line falls apart at its spans into stretches that are all match or all not.
-/

namespace LogTail.Search

structure Segment where
  text : String
  matched : Bool
  deriving DecidableEq, Repr, Inhabited

/-- The characters from offset `start` up to offset `stop`. -/
def between (cs : List Char) (start stop : Nat) : String :=
  String.ofList ((cs.drop start).take (stop - start))

/-- The segments from offset `pos` on. Offsets past the end of the line stand for its end. -/
def segmentsFrom (cs : List Char) (length : Nat) : Nat → List Span → List Segment
  | pos, [] => if pos < length then [⟨between cs pos length, false⟩] else []
  | pos, span :: spans =>
    let start := min span.start length
    let stop := min span.stop length
    let found := ⟨between cs start stop, true⟩ :: segmentsFrom cs length stop spans
    if pos < start then ⟨between cs pos start, false⟩ :: found else found

/-- The line cut at the spans; a line without spans is one unmatched segment, even if empty. -/
def splitSegments (line : String) (spans : List Span) : List Segment :=
  if spans.isEmpty then [⟨line, false⟩]
  else
    let cs := line.toList
    segmentsFrom cs cs.length 0 spans

end LogTail.Search
