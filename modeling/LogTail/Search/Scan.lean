import LogTail.Log.Snapshot
import LogTail.Search.MatchIndex

/-!
# Scans

A scan looks for a term in the lines of a snapshot, a chunk of lines at a time. Before each chunk,
and once more after the last, it looks at the current epoch and gives up when that is no longer
its own. A chunk that came out short is the last one.
-/

namespace LogTail.Search

structure Scan where
  epoch : Nat
  term : String
  snapshot : Log.Snapshot
  /-- The first line to look at; what comes before it is known. -/
  startLine : Nat
  /-- Whether it adds to the known matches. -/
  incremental : Bool
  chunk : Nat
  deriving DecidableEq, Repr, Inhabited

structure ScanReport where
  epoch : Nat
  startLine : Nat
  incremental : Bool
  snapshot : Log.Snapshot
  index : MatchIndex
  deriving DecidableEq, Repr, Inhabited

structure RunningScan where
  scan : Scan
  needle : Needle
  /-- The lines not yet looked at. -/
  rest : List (Nat × String)
  found : MatchIndex := {}
  deriving Repr

/-- What one chunk led to. -/
inductive ScanStep where
  /-- The epoch has moved on. -/
  | stale
  | pending (running : RunningScan)
  | finished (report : ScanReport)

/-- Add a line to the matches if it holds the needle. -/
def MatchIndex.look (needle : Needle) (index : MatchIndex) (line : Nat × String) : MatchIndex :=
  match needle.findSpans line.2 with
  | [] => index
  | spans => index.push line.1 spans

namespace Scan

/-- Lines in a chunk, at least one. -/
def chunkLines (scan : Scan) : Nat := max scan.chunk 1

def start (scan : Scan) : RunningScan where
  scan := scan
  needle := Needle.ofTerm scan.term
  rest := scan.snapshot.linesFrom scan.startLine

/-- The report of a scan with these matches. -/
def report (scan : Scan) (found : MatchIndex) : ScanReport :=
  ⟨scan.epoch, scan.startLine, scan.incremental, scan.snapshot, found⟩

end Scan

/-- Look at one chunk, when the current epoch is `epoch` before it and `after` behind it. -/
def RunningScan.step (running : RunningScan) (epoch after : Nat) : ScanStep :=
  let scan := running.scan
  if epoch ≠ scan.epoch then .stale
  else
    let chunk := running.rest.take scan.chunkLines
    let found := chunk.foldl (MatchIndex.look running.needle) running.found
    if chunk.length < scan.chunkLines then
      if after ≠ scan.epoch then .stale else .finished (scan.report found)
    else .pending { running with rest := running.rest.drop scan.chunkLines, found := found }

/-- How many lines are left to look at. -/
def RunningScan.left (running : RunningScan) : Nat := running.rest.length

theorem RunningScan.left_step {running next : RunningScan} {epoch after : Nat}
    (h : running.step epoch after = .pending next) : next.left < running.left := by
  unfold RunningScan.step at h
  simp only [ne_eq, List.length_take] at h
  split at h
  · cases h
  · split at h
    · split at h <;> cases h
    · cases h
      have : 1 ≤ running.scan.chunkLines := Nat.le_max_right ..
      simp only [RunningScan.left, List.length_drop]
      omega

/-- Run to the end while the epoch stays the same. Tells the number of chunks looked at, added to
`chunks`, and the report unless the scan gave up. -/
def RunningScan.runFrom (running : RunningScan) (epoch chunks : Nat) : Nat × Option ScanReport :=
  match h : running.step epoch epoch with
  | .stale => (chunks, none)
  | .finished report => (chunks + 1, some report)
  | .pending next => next.runFrom epoch (chunks + 1)
termination_by running.left
decreasing_by exact RunningScan.left_step h

/-- Run to the end while the epoch stays the same. -/
def RunningScan.run (running : RunningScan) (epoch : Nat) : Nat × Option ScanReport :=
  running.runFrom epoch 0

end LogTail.Search
