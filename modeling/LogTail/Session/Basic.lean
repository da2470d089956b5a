import LogTail.Log.Buffer
import LogTail.Poll.Tally
import LogTail.Query.Debounce
import LogTail.Session.Export
import LogTail.Settings.Basic
import LogTail.Viewport

/-!
# Sessions

A session shows one log at a time: it owns the buffer, the viewport, the search and the query
that is typed, and tells the screen what to do. Fetches, scans and exports go on elsewhere. The
session hands that work out and hears of it through events, which may come late: a fetch carries
the number of the source it is from, a scan its epoch, and what is out of date changes nothing.
-/

namespace LogTail

open Display (Command)
open Log (Buffer Snapshot)
open Query (Debouncer)
open Search (LiveSearch SegmentCache Scan ScanReport Segment)

/-- A source that is polled, and its number. -/
structure Poller where
  source : Source
  seq : Nat
  /-- Whether it has fetched since it was started. -/
  fetched : Bool := false
  deriving DecidableEq, Repr, Inhabited

/-- What a fetch gave, and the number of the source it is from. -/
structure FetchReport where
  seq : Nat
  result : Poll.FetchResult

inductive Work where
  | scan (scan : Scan)
  | exportLog (job : ExportJob)
  deriving Repr

inductive Event where
  | fetched (report : FetchReport)
  | scanned (report : ScanReport)
  | exported (result : Except String ExportedFile)

structure Session where
  settings : Settings
  source : Source
  /-- The number of the source, one more after every switch. -/
  seq : Nat := 0
  buffer : Buffer
  viewport : Viewport
  search : LiveSearch
  query : Debouncer
  segments : SegmentCache
  poller : Option Poller := none
  tally : Poll.Tally := {}
  /-- Work handed out and not yet taken up, the oldest first. -/
  work : List Work := []

namespace Session

/-- A session at the start, not polling. -/
def new (settings : Settings) (source : Source) : Session where
  settings := settings
  source := source
  buffer := Buffer.empty settings.maxLines
  viewport := { nearBottom := settings.nearBottom }
  search := LiveSearch.idle settings.scanChunk
  query := { delay := settings.debounce }
  segments := SegmentCache.empty settings.segmentCache

def snapshot (s : Session) : Snapshot := s.buffer.snapshot

/-- How many result cards, and how much around each match. -/
def windowOptions (s : Session) : Search.WindowOptions :=
  ⟨s.settings.resultWindow, s.settings.snippetContext⟩

def handOut (s : Session) (work : Work) : Session := { s with work := s.work ++ [work] }

/-- Take over a search, and hand out the scan it asks for. -/
def withSearch (s : Session) : LiveSearch × Option Scan → Session
  | (search, none) => { s with search := search }
  | (search, some scan) => { s with search := search }.handOut (.scan scan)

def withViewport (s : Session) : Viewport × List Command → Session × List Command
  | (viewport, cmds) => ({ s with viewport := viewport }, cmds)

/-- What the screen is told about the search. -/
def searchCommands (s : Session) : Session × List Command :=
  let (results, segments) :=
    Search.buildResults s.search s.snapshot s.windowOptions s.segments
  ({ s with segments := segments }, [.results results, .status s.search.status])

/-- Do what `first` does, and then tell the screen about the search. -/
def thenSearchCommands : Session × List Command → Session × List Command
  | (s, cmds) =>
    let (s, more) := s.searchCommands
    (s, cmds ++ more)

/-! ## Sources -/

def start (s : Session) : Except FetchError Session :=
  match s.source.fault? with
  | some fault => .error fault
  | none => .ok { s with poller := some ⟨s.source, s.seq, false⟩ }

/-- Give up the source that is shown for another one, which begins a new generation of an empty
buffer. Nothing is polled. -/
def changeSource (s : Session) (source : Source) : Session × List Command :=
  let buffer := s.buffer.reset
  let s := { s with
    poller := none
    source := source
    seq := s.seq + 1
    tally := {}
    buffer := buffer
    search := s.search.enterGeneration buffer.snapshot.generation }
  thenSearchCommands (s.withViewport (s.viewport.restart s.snapshot))

/-- Show another source and poll it. Beside what came of it stands the session that is left. The
source is checked before the old one is given up, and once more when it is polled. -/
def showSource (s : Session) (source : Source) : Except FetchError (List Command) × Session :=
  match source.fault? with
  | some fault => (.error fault, s)
  | none =>
    let (s, cmds) := s.changeSource source
    match s.start with
    | .error fault => (.error fault, s)
    | .ok s => (.ok cmds, s)

/-- Show another source, unless it is refused. -/
def switchSource (s : Session) (source : Source) : Except FetchError (Session × List Command) :=
  match s.showSource source with
  | (.error fault, _) => .error fault
  | (.ok cmds, s) => .ok (s, cmds)

/-! ## Events -/

def applyText (s : Session) (text : String) : Session × List Command :=
  match s.buffer.apply text with
  | (.unchanged, _) => (s, [])
  | (update, buffer) =>
    let s := { s with buffer := buffer }
    let (s, cmds) := s.withViewport (s.viewport.update s.snapshot)
    let searching := s.search.isActive || update matches .reset _
    let s := s.withSearch (s.search.follow s.snapshot)
    if searching then thenSearchCommands (s, cmds) else (s, cmds)

/-- A fetch is over. That of another source is dropped; a failed one is only counted. -/
def onFetched (s : Session) (report : FetchReport) : Session × List Command :=
  if report.seq ≠ s.seq then (s, [])
  else
    let s := { s with tally := s.tally.record report.result }
    match report.result with
    | .ok text => s.applyText text
    | .error _ => (s, [])

/-- A scan is over. Text may have come while it ran. -/
def onScanned (s : Session) (report : ScanReport) : Session × List Command :=
  match s.search.accept report with
  | (false, _) => (s, [])
  | (true, search) =>
    let s := s.withSearch (search.follow s.snapshot)
    s.searchCommands

/-- Take in an event. An export changes nothing here. -/
def handle (s : Session) : Event → Session × List Command
  | .fetched report => s.onFetched report
  | .scanned report => s.onScanned report
  | .exported _ => (s, [])

/-! ## The query -/

/-- Search for a term. A scan stops the tail. -/
def commitTerm (s : Session) (term : String) : Session × List Command :=
  let (search, scan) := s.search.commit term s.snapshot
  let s := s.withSearch (search, scan)
  let s := if scan.isSome then { s with viewport := s.viewport.enterSearch } else s
  s.searchCommands

/-- The query was edited. -/
def editQuery (s : Session) (raw : String) (now : Nat) : Session × List Command :=
  match s.query.edit raw now with
  | (false, query) => ({ s with query := query }, [])
  | (true, query) => { s with query := query, search := s.search.clear }.searchCommands

/-- Commit the query if it has been quiet for long enough. -/
def tick (s : Session) (now : Nat) : Session × List Command :=
  match s.query.poll now with
  | (none, query) => ({ s with query := query }, [])
  | (some term, query) => { s with query := query }.commitTerm term

def clearQuery (s : Session) : Session × List Command :=
  { s with query := s.query.clear.2, search := s.search.clear }.searchCommands

def navigate (s : Session) (direction : Search.Direction) : Session × List Command :=
  match s.search.navigate direction with
  | (none, search) => ({ s with search := search }, [])
  | (some line, search) =>
    let s := { s with search := search }
    thenSearchCommands (s.withViewport (s.viewport.jumpToLine line true s.snapshot))

/-- Jump to the match at a position, and end the search. -/
def openResult (s : Session) (position : Nat) : Session × List Command :=
  match s.search.select position with
  | (none, search) => ({ s with search := search }, [])
  | (some line, search) =>
    let s := { s with search := search }
    let (s, cmds) := s.withViewport (s.viewport.jumpToLine line true s.snapshot)
    let (s, more) := s.clearQuery
    (s, cmds ++ more)

/-! ## The reader -/

def scrollBy (s : Session) (delta : Int) : Session × List Command :=
  s.withViewport (s.viewport.scrollBy delta s.snapshot)

/-- The reader goes to the oldest retained line. -/
def scrollToTop (s : Session) : Session × List Command :=
  s.withViewport s.viewport.scrollToTop

/-- Jump to the latest line and tail from there. -/
def jumpToLatest (s : Session) : Session × List Command :=
  s.withViewport (s.viewport.jumpToLatest s.snapshot)

def finishFrame (s : Session) : Session × List Command :=
  s.withViewport (s.viewport.finishJump s.snapshot)

/-- The log view has this many rows now. -/
def setHeight (s : Session) (height : Nat) : Session × List Command :=
  s.withViewport (s.viewport.setHeight height)

def setSelecting (s : Session) (active : Bool) : Session × List Command :=
  s.withViewport (s.viewport.setSelecting active s.snapshot)

/-- The segments of a line of a snapshot, if the line is known to match. -/
def segmentsForLine (s : Session) (snapshot : Snapshot) (line : Nat) :
    Option (List Segment) × Session :=
  match s.search.index.spans? line, snapshot.line? line with
  | some _, some text =>
    let (hit, segments) := s.segments.lookup text s.search.term
    (some hit.segments, { s with segments := segments })
  | _, _ => (none, s)

def exportLog (s : Session) : Session :=
  s.handOut (.exportLog ⟨s.source, s.snapshot, s.settings.exportDirectory⟩)

end Session

end LogTail
