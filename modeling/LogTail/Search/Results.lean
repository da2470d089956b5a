import LogTail.Search.Live
import LogTail.Search.SegmentCache
import LogTail.Search.Window

/-!
# Result cards

The matched lines in the window, each with the retained lines around it, cut into segments.
-/

namespace LogTail.Search

structure SnippetLine where
  line : Nat
  segments : List Segment
  /-- Whether the card is about this line. -/
  isMatch : Bool
  deriving DecidableEq, Repr, Inhabited

/-- One matched line with its context. -/
structure ResultCard where
  /-- Its position in the order of all matched lines. -/
  position : Nat
  line : Nat
  active : Bool
  snippet : List SnippetLine
  deriving DecidableEq, Repr, Inhabited

structure Results where
  cards : List ResultCard := []
  window : Window := {}
  active : Option Nat := none
  totalMatches : Nat := 0
  totalLines : Nat := 0
  deriving DecidableEq, Repr, Inhabited

/-- How many cards at most, and how many lines above and below each match. -/
structure WindowOptions where
  limit : Nat
  context : Nat
  deriving DecidableEq, Repr, Inhabited

/-- The retained numbers among those at most `context` away from a line, as the first one and how
many there are. -/
def contextLines (snapshot : Log.Snapshot) (context line : Nat) : List Nat :=
  let start := max (line - context) snapshot.firstLine
  let stop := min (line + context + 1) snapshot.lineCount
  List.range' start (stop - start)

/-- Cut the given lines of a snapshot into segments. -/
def buildSnippet (snapshot : Log.Snapshot) (term : String) (matchLine : Nat) :
    List Nat → SegmentCache → List SnippetLine × SegmentCache
  | [], cache => ([], cache)
  | n :: ns, cache =>
    match snapshot.line? n with
    | none => buildSnippet snapshot term matchLine ns cache
    | some text =>
      let (hit, cache) := cache.lookup text term
      let (rest, cache) := buildSnippet snapshot term matchLine ns cache
      (⟨n, hit.segments, n == matchLine⟩ :: rest, cache)

/-- The cards of the matched lines, given with their positions, that are retained. -/
def buildCards (search : LiveSearch) (snapshot : Log.Snapshot) (context : Nat) :
    List (MatchedLine × Nat) → SegmentCache → List ResultCard × SegmentCache
  | [], cache => ([], cache)
  | (e, position) :: es, cache =>
    if snapshot.firstLine ≤ e.line ∧ e.line < snapshot.lineCount then
      let (snippet, cache) :=
        buildSnippet snapshot search.term e.line (contextLines snapshot context e.line) cache
      let (rest, cache) := buildCards search snapshot context es cache
      (⟨position, e.line, search.cursor == some position, snippet⟩ :: rest, cache)
    else buildCards search snapshot context es cache

def buildResults (search : LiveSearch) (snapshot : Log.Snapshot) (options : WindowOptions)
    (cache : SegmentCache) : Results × SegmentCache :=
  let window := Window.around search.index.size search.cursor options.limit
  let shown := (search.index.entries.extract window.start window.stop).toList
  let (cards, cache) :=
    buildCards search snapshot options.context (shown.zipIdx window.start) cache
  (⟨cards, window, search.cursor, search.index.matchCount, search.index.size⟩, cache)

end LogTail.Search
