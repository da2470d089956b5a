import LogTail.Search.Scan

/-!
# Live search

A live search keeps the matches of one term up to date while the log grows. Every change that
makes its matches void moves it to a new epoch: a new term, no term, a new generation. It asks for
scans and takes in the reports of the current epoch only. At most one scan of the epoch is under
way; text that comes meanwhile is looked at when the report is in.
-/

namespace LogTail.Search

/-- How far the search for the current term has come. -/
inductive Status where
  | idle
  | scanning
  | ready
  deriving DecidableEq, Repr, Inhabited

/-- Which way to go through the matched lines. -/
inductive Direction where
  | next
  | prev
  deriving DecidableEq, Repr

structure LiveSearch where
  term : String := ""
  epoch : Nat := 0
  generation : Nat := 0
  index : MatchIndex := {}
  /-- Position of the active line in the order of matched lines. -/
  cursor : Option Nat := none
  status : Status := .idle
  /-- The snapshot that the index tells about. -/
  scanned : Option Log.Snapshot := none
  /-- The epoch of the scan under way. -/
  inFlight : Option Nat := none
  chunk : Nat
  deriving Repr, Inhabited

namespace LiveSearch

/-- No search, with scans in chunks of at least one line. -/
def idle (chunk : Nat) : LiveSearch := { chunk := max chunk 1 }

def isActive (s : LiveSearch) : Bool := !s.term.isEmpty

def activeLine? (s : LiveSearch) : Option Nat := s.cursor.bind s.index.lineAt?

/-- Move to the next epoch, without any result. -/
def restart (s : LiveSearch) : LiveSearch :=
  { s with epoch := s.epoch + 1, inFlight := none,
           index := {}, cursor := none, scanned := none, status := .idle }

def scanOf (s : LiveSearch) (snapshot : Log.Snapshot) (startLine : Nat) (incremental : Bool) :
    Scan :=
  ⟨s.epoch, s.term, snapshot, startLine, incremental, s.chunk⟩

def fullScan (s : LiveSearch) (snapshot : Log.Snapshot) : LiveSearch × Scan :=
  ({ s with status := .scanning, inFlight := some s.epoch },
    s.scanOf snapshot snapshot.firstLine false)

/-- Search for a term. The current one is not begun again; the empty one only drops what is
there. -/
def commit (s : LiveSearch) (term : String) (snapshot : Log.Snapshot) :
    LiveSearch × Option Scan :=
  if term = s.term ∧ s.status ≠ .idle then (s, none)
  else
    let s := { s.restart with term := term }
    if term.isEmpty then (s, none)
    else
      let (s, scan) := s.fullScan snapshot
      (s, some scan)

def clear (s : LiveSearch) : LiveSearch :=
  if s.term.isEmpty ∧ s.status = .idle then s else { s.restart with term := "" }

/-- Results of another generation are void. -/
def enterGeneration (s : LiveSearch) (generation : Nat) : LiveSearch :=
  if generation = s.generation then s else { s.restart with generation := generation }

/-- Take another index, keeping the active line active if it is still there. -/
def reindex (s : LiveSearch) (index : MatchIndex) : LiveSearch :=
  { s with index := index, cursor := s.activeLine?.bind index.position? }

/-- Forget the lines that were evicted. -/
def prune (s : LiveSearch) (firstLine : Nat) : LiveSearch :=
  match s.index.pruneBefore firstLine with
  | (0, _) => s
  | (_, index) => s.reindex index

/-- Take notice of the buffer's snapshot. Asks for a scan of everything when none has been done
for the term, or of the new lines and the last known one, which may have grown. -/
def follow (s : LiveSearch) (snapshot : Log.Snapshot) : LiveSearch × Option Scan :=
  let s := (s.enterGeneration snapshot.generation).prune snapshot.firstLine
  if s.term.isEmpty ∨ s.inFlight.isSome then (s, none)
  else
    match s.status, s.scanned with
    | .idle, _ | _, none =>
      let (s, scan) := s.fullScan snapshot
      (s, some scan)
    | .ready, some scanned =>
      if scanned.same snapshot then (s, none)
      else
        let start := max (scanned.lineCount - 1) snapshot.firstLine
        ({ s with inFlight := some s.epoch }, some (s.scanOf snapshot start true))
    | .scanning, some _ => (s, none)

/-- Take in the report of a finished scan, unless its epoch is over. -/
def accept (s : LiveSearch) (report : ScanReport) : Bool × LiveSearch :=
  if report.epoch ≠ s.epoch then (false, s)
  else
    let index :=
      if report.incremental then s.index.spliceFrom report.startLine report.index
      else report.index
    let (_, index) := index.pruneBefore report.snapshot.firstLine
    (true, { s.reindex index with
      inFlight := none, scanned := some report.snapshot, status := .ready })

/-- The next or previous position of `count`, around the ends. -/
def turn (cursor : Option Nat) (count : Nat) : Direction → Nat
  | .next => cursor.elim 0 fun c => (c + 1) % count
  | .prev => cursor.elim (count - 1) fun c => (c + count - 1) % count

/-- Make the next or previous match active; tells its line. -/
def navigate (s : LiveSearch) (direction : Direction) : Option Nat × LiveSearch :=
  if s.index.size = 0 then (none, s)
  else
    let s := { s with cursor := some (turn s.cursor s.index.size direction) }
    (s.activeLine?, s)

/-- Make the match at a position active; tells its line. -/
def select (s : LiveSearch) (position : Nat) : Option Nat × LiveSearch :=
  match s.index.lineAt? position with
  | none => (none, s)
  | some line => (some line, { s with cursor := some position })

end LiveSearch

end LogTail.Search
