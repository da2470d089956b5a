import Std.Data.HashMap
import LogTail.Search.Segment
import LogTail.Text.Escape

/-!
# Remembered segments

The segments of a line for the current term, kept by the line's text. Another term empties the
store, and so does a full store. Each stored value carries the number of values computed before
it, so that two answers with one number are the same stored value.
-/

namespace LogTail.Search

/-- The segments of a line for a needle. A line with escape sequences is searched, and shown, as
its plain text, so that no span cuts a sequence. -/
def lineSegments (needle : Needle) (line : String) : List Segment :=
  let shown := if Text.Escape.present line then Text.Escape.strip line else line
  splitSegments shown (needle.findSpans shown)

/-- A stored value and the number of values computed before it. -/
structure CachedSegments where
  serial : Nat
  segments : List Segment
  deriving DecidableEq, Repr, Inhabited

structure SegmentCache where
  capacity : Nat
  term : String := ""
  needle : Needle := Needle.ofTerm ""
  entries : Std.HashMap String CachedSegments := {}
  computed : Nat := 0

/-- An empty store for at least one entry. -/
def SegmentCache.empty (capacity : Nat) : SegmentCache := { capacity := max capacity 1 }

def SegmentCache.size (cache : SegmentCache) : Nat := cache.entries.size

/-- Turn the store to a term. -/
def SegmentCache.forTerm (cache : SegmentCache) (term : String) : SegmentCache :=
  if term = cache.term then cache
  else { cache with term := term, needle := Needle.ofTerm term, entries := {} }

/-- The segments of a line for a term, and the store after the question. -/
def SegmentCache.lookup (cache : SegmentCache) (line term : String) :
    CachedSegments × SegmentCache :=
  let cache := cache.forTerm term
  match cache.entries[line]? with
  | some hit => (hit, cache)
  | none =>
    let kept := if cache.capacity ≤ cache.entries.size then {} else cache.entries
    let fresh := ⟨cache.computed, lineSegments cache.needle line⟩
    (fresh, { cache with entries := kept.insert line fresh, computed := cache.computed + 1 })

end LogTail.Search
