import LogTail.Log.Snapshot

/-!
# The log buffer

The buffer holds the snapshot of the latest text. A text with fewer lines than the buffer counts
starts a new generation; a text with as many lines and the same last line leaves the snapshot as
it is; any other takes its place in the same generation.
-/

namespace LogTail.Log

/-- The current snapshot and how many lines may be retained. -/
structure Buffer where
  snapshot : Snapshot
  maxLines : Nat
  deriving DecidableEq, Repr, Inhabited

/-- What a text did to the buffer. -/
inductive Update where
  | unchanged
  /-- Lines came, or the last line changed; there were `previous` lines. -/
  | appended (previous : Nat)
  /-- The text shrank and began this generation. -/
  | reset (generation : Nat)
  deriving DecidableEq, Repr

namespace Buffer

/-- An empty buffer that retains at least one line. -/
def empty (maxLines : Nat) : Buffer := ⟨{ version := 1 }, max maxLines 1⟩

/-- The last `maxLines` of the lines, as the next text. -/
def snapshotOf (b : Buffer) (generation : Nat) (lines : Array String) : Snapshot where
  version := b.snapshot.version + 1
  generation := generation
  firstLine := lines.size - b.maxLines
  lines := lines.extract (lines.size - b.maxLines) lines.size

/-- Start a new generation without lines. -/
def reset (b : Buffer) : Buffer :=
  { b with
    snapshot := { version := b.snapshot.version + 1, generation := b.snapshot.generation + 1 } }

/-- Take in the whole text of the log. -/
def apply (b : Buffer) (text : String) : Update × Buffer :=
  let lines := Text.lines text
  let previous := b.snapshot.lineCount
  if lines.size < previous then
    let generation := b.snapshot.generation + 1
    (.reset generation, { b with snapshot := b.snapshotOf generation lines })
  else if lines.size = previous ∧ lines.back? = b.snapshot.lines.back? then (.unchanged, b)
  else (.appended previous, { b with snapshot := b.snapshotOf b.snapshot.generation lines })

end Buffer

end LogTail.Log
