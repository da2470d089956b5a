import LogTail.Proofs.Session.Screen
import LogTail.Proofs.Words.Search
import LogTail.Proofs.Words.Viewport

/-!
# The session in words

A session takes calls and hears of scans in words. A session is `Small` if whatever it counts is far
below the largest word, its index is in order and its cursor is in the index. A call that is taken
by a small session and leaves one has a result, and it is that of `call` (`call?_eq`): what a call
needs before it changes anything is known of the session before, and the results of the search are
built from the session that is left.
-/

namespace LogTail

open Display (Command)
open Log (Buffer Snapshot)
open Search (LiveSearch Scan ScanReport)
open Words

namespace Session

/-! ## Operations -/

def searchCommands? (s : Session) : Option (Session × List Command) := do
  let (results, segments) ←
    Search.buildResults? s.search s.snapshot s.windowOptions s.segments
  return ({ s with segments := segments }, [.results results, .status s.search.status])

def thenSearchCommands? : Session × List Command → Option (Session × List Command)
  | (s, cmds) => do
    let (s, more) ← s.searchCommands?
    return (s, cmds ++ more)

def changeSource? (s : Session) (source : Source) : Option (Session × List Command) := do
  let buffer := s.buffer.reset
  let s := { s with
    poller := none
    source := source
    seq := s.seq + 1
    tally := {}
    buffer := buffer
    search := s.search.enterGeneration buffer.snapshot.generation }
  thenSearchCommands? (s.withViewport (← s.viewport.restart? s.snapshot))

def showSource? (s : Session) (source : Source) :
    Option (Except FetchError (List Command) × Session) :=
  match source.fault? with
  | some fault => some (.error fault, s)
  | none => do
    let (s, cmds) ← s.changeSource? source
    match s.start with
    | .error fault => return (.error fault, s)
    | .ok s => return (.ok cmds, s)

/-- Viewport and search take notice of another text. -/
def notice? (s : Session) (buffer : Buffer) : Option (Session × List Command) := do
  let r ← s.viewport.update? buffer.snapshot
  let search ← s.search.follow? buffer.snapshot
  return ({ s with buffer := buffer, viewport := r.1 }.withSearch search, r.2)

def applyText? (s : Session) (text : String) : Option (Session × List Command) := do
  match ← s.buffer.applied? text with
  | (.unchanged, _) => return (s, [])
  | (update, buffer) =>
    let r ← s.notice? buffer
    if s.search.isActive || update matches .reset _ then thenSearchCommands? r else return r

def onFetched? (s : Session) (report : FetchReport) : Option (Session × List Command) :=
  if report.seq ≠ s.seq then some (s, [])
  else
    let s := { s with tally := s.tally.record report.result }
    match report.result with
    | .ok text => s.applyText? text
    | .error _ => some (s, [])

def onScanned? (s : Session) (report : ScanReport) : Option (Session × List Command) := do
  match ← s.search.accept? report with
  | (false, _) => return (s, [])
  | (true, search) =>
    let s := s.withSearch (← search.follow? s.snapshot)
    s.searchCommands?

def commitTerm? (s : Session) (term : String) : Option (Session × List Command) :=
  let (search, scan) := s.search.commit term s.snapshot
  let s := s.withSearch (search, scan)
  let s := if scan.isSome then { s with viewport := s.viewport.enterSearch } else s
  s.searchCommands?

def editQuery? (s : Session) (raw : String) (now : Nat) : Option (Session × List Command) :=
  match s.query.edit raw now with
  | (false, query) => some ({ s with query := query }, [])
  | (true, query) => { s with query := query, search := s.search.clear }.searchCommands?

def tick? (s : Session) (now : Nat) : Option (Session × List Command) :=
  match s.query.poll now with
  | (none, query) => some ({ s with query := query }, [])
  | (some term, query) => { s with query := query }.commitTerm? term

def clearQuery? (s : Session) : Option (Session × List Command) :=
  { s with query := s.query.clear.2, search := s.search.clear }.searchCommands?

def navigate? (s : Session) (direction : Search.Direction) : Option (Session × List Command) := do
  match ← s.search.navigate? direction with
  | (none, search) => return ({ s with search := search }, [])
  | (some line, search) =>
    let s := { s with search := search }
    thenSearchCommands? (s.withViewport (← s.viewport.jumpToLine? line true s.snapshot))

def openResult? (s : Session) (position : Nat) : Option (Session × List Command) := do
  match s.search.select position with
  | (none, search) => return ({ s with search := search }, [])
  | (some line, search) =>
    let s := { s with search := search }
    let (s, cmds) := s.withViewport (← s.viewport.jumpToLine? line true s.snapshot)
    let (s, more) ← s.clearQuery?
    return (s, cmds ++ more)

/-- Take a call. What is not listed does no arithmetic. -/
def call? (s : Session) : Call → Option (Session × List Command)
  | .switchSource source => do
    match ← s.showSource? source with
    | (.ok cmds, t) => return (t, cmds)
    | (.error _, _) => return (s, [])
  | .fetched report => s.onFetched? report
  | .editQuery raw now => s.editQuery? raw now
  | .tick now => s.tick? now
  | .clearQuery => s.clearQuery?
  | .navigate direction => s.navigate? direction
  | .openResult position => s.openResult? position
  | .scrollBy delta => (s.viewport.scrollBy? delta s.snapshot).map s.withViewport
  | .jumpToLatest => (s.viewport.jumpToLatest? s.snapshot).map s.withViewport
  | .finishFrame => (s.viewport.finishJump? s.snapshot).map s.withViewport
  | .setHeight height => (s.viewport.setHeight? height).map s.withViewport
  | .setSelecting active => (s.viewport.setSelecting? active s.snapshot).map s.withViewport
  | c => some (s.call c)

/-! ## Their results -/

/-- What is counted to show the search is far below the largest word. -/
structure Counts (s : Session) : Prop where
  snapshot : s.snapshot.Small
  size : s.search.index.size < 2 ^ 63
  limit : s.windowOptions.limit < 2 ^ 63
  context : s.windowOptions.context < 2 ^ 63

/-- Whatever a session counts is far below the largest word. -/
structure Small (s : Session) : Prop extends Counts s where
  rendered : s.viewport.rendered.Small
  nearBottom : s.viewport.nearBottom < 2 ^ 63
  scanned : ∀ old, s.search.scanned = some old → old.Small
  ordered : s.search.index.Ordered
  points : s.search.Points

variable {s : Session}

/-- It is the lines, the matches and the settings that are counted. -/
theorem Counts.of_eq {t : Session} (h : t.Counts) (buffer : s.buffer = t.buffer)
    (index : s.search.index = t.search.index) (settings : s.settings = t.settings) : s.Counts where
  snapshot := by rw [Session.snapshot, buffer]; exact h.snapshot
  size := by rw [index]; exact h.size
  limit := by rw [windowOptions, settings]; exact h.limit
  context := by rw [windowOptions, settings]; exact h.context

/-- The search is told of as it is. -/
theorem Counts.before (h : s.searchCommands.1.Counts) : s.Counts := by
  rw [searchCommands_fst] at h
  exact h.of_eq rfl rfl rfl

theorem searchCommands?_eq (h : s.Counts) : s.searchCommands? = some s.searchCommands := by
  simp only [searchCommands?, Search.buildResults?_eq h.snapshot h.size h.limit h.context,
    Option.bind_eq_bind, Option.bind_some]
  rfl

theorem thenSearchCommands?_eq {r : Session × List Command} (h : r.1.Counts) :
    thenSearchCommands? r = some (thenSearchCommands r) := by
  simp only [thenSearchCommands?, searchCommands?_eq h, Option.bind_eq_bind, Option.bind_some]
  rfl

theorem changeSource?_eq (source : Source) (h : (s.changeSource source).1.Counts) :
    s.changeSource? source = some (s.changeSource source) := by
  have hrestart : s.viewport.restart? s.buffer.reset.snapshot =
      some (s.viewport.restart s.buffer.reset.snapshot) :=
    Viewport.restart?_eq (Snapshot.small_empty _ _)
  simp only [changeSource?, snapshot, hrestart, Option.bind_eq_bind, Option.bind_some]
  exact thenSearchCommands?_eq (h.of_eq rfl rfl rfl)

theorem showSource?_eq (source : Source) (h : (s.showSource source).2.Counts) :
    s.showSource? source = some (s.showSource source) := by
  cases hfault : source.fault? with
  | some fault => simp only [showSource?, showSource, hfault]
  | none =>
    rw [s.showSource_of_none hfault] at h
    have hchange := changeSource?_eq source (h.of_eq rfl rfl rfl)
    simp only [showSource?, showSource, hfault, hchange, Option.bind_eq_bind, Option.bind_some]
    cases (s.changeSource source).1.start <;> rfl

@[simp] theorem notice_buffer (s : Session) (buffer : Buffer) :
    (s.notice buffer).1.buffer = buffer := withSearch_buffer ..

theorem notice?_eq (h : s.Small) {buffer : Buffer} (hbuffer : buffer.snapshot.Small) :
    s.notice? buffer = some (s.notice buffer) := by
  simp only [notice?, Viewport.update?_eq h.rendered hbuffer,
    LiveSearch.follow?_eq h.ordered h.scanned, Option.bind_eq_bind, Option.bind_some]
  rfl

theorem applyText?_eq (h : s.Small) (text : String) (hafter : (s.applyText text).1.Counts) :
    s.applyText? text = some (s.applyText text) := by
  rw [applyText_eq] at hafter ⊢
  simp only [applyText?, Buffer.applied?_eq (b := s.buffer) h.snapshot, Option.bind_eq_bind,
    Option.bind_some]
  generalize s.buffer.apply text = p at hafter
  obtain ⟨update, buffer⟩ := p
  have key (searching : Bool)
      (hafter : (if searching then thenSearchCommands (s.notice buffer)
        else s.notice buffer).1.Counts) :
      ((s.notice? buffer).bind fun r => if searching then thenSearchCommands? r else some r) =
        some (if searching then thenSearchCommands (s.notice buffer) else s.notice buffer) := by
    have hnoticed : (s.notice buffer).1.Counts := by
      cases searching with
      | false => simpa only [Bool.false_eq_true, if_false] using hafter
      | true =>
        simp only [if_true] at hafter
        exact hafter.before
    have hbuffer : buffer.snapshot.Small := by
      simpa only [snapshot, notice_buffer] using hnoticed.snapshot
    rw [notice?_eq h hbuffer, Option.bind_some]
    split
    · exact thenSearchCommands?_eq hnoticed
    · rfl
  cases update with
  | unchanged => rfl
  | appended previous => exact key _ hafter
  | reset generation => exact key _ hafter

theorem onFetched?_eq (h : s.Small) (report : FetchReport)
    (hafter : (s.onFetched report).1.Counts) :
    s.onFetched? report = some (s.onFetched report) := by
  unfold onFetched? onFetched
  unfold onFetched at hafter
  split
  · rfl
  · rename_i hseq
    rw [if_neg hseq] at hafter
    cases hresult : report.result with
    | error fault => rfl
    | ok text =>
      simp only [hresult] at hafter
      have htallied : { s with tally := s.tally.record (.ok text) }.Small :=
        { toCounts := h.toCounts.of_eq rfl rfl rfl, rendered := h.rendered,
          nearBottom := h.nearBottom, scanned := h.scanned, ordered := h.ordered,
          points := h.points }
      exact applyText?_eq htallied text hafter

/-- A report that is taken in leaves an index in order, and its snapshot is the one looked at. -/
theorem onScanned?_eq (h : s.Small) {scan : Scan} (hscan : scan.snapshot.Small)
    (hafter : (s.onScanned scan.answer).1.Counts) :
    s.onScanned? scan.answer = some (s.onScanned scan.answer) := by
  simp only [onScanned?, LiveSearch.accept?_eq h.ordered, Option.bind_eq_bind, Option.bind_some]
  unfold onScanned at hafter ⊢
  by_cases hcurrent : scan.epoch = s.search.epoch
  · obtain ⟨cursor, haccept⟩ := s.search.accept_eq (show scan.answer.epoch = _ from hcurrent)
    have hordered := (LiveSearch.accept_index h.ordered hcurrent).1
    have hscanned : ∀ old, (s.search.accept scan.answer).2.scanned = some old → old.Small := by
      rw [haccept]
      rintro old hold
      cases hold
      exact hscan
    have htrue : (s.search.accept scan.answer).1 = true := by rw [haccept]
    generalize s.search.accept scan.answer = p at hafter hordered hscanned htrue
    obtain ⟨taken, search⟩ := p
    obtain rfl : taken = true := htrue
    simp only [LiveSearch.follow?_eq hordered hscanned, Option.bind_some]
    exact searchCommands?_eq hafter.before
  · have hstale : s.search.accept scan.answer = (false, s.search) :=
      if_pos (show scan.answer.epoch ≠ s.search.epoch from hcurrent)
    rw [hstale]
    rfl

theorem commitTerm?_eq (term : String) (hafter : (s.commitTerm term).1.Counts) :
    s.commitTerm? term = some (s.commitTerm term) := by
  unfold commitTerm? commitTerm
  unfold commitTerm at hafter
  generalize s.search.commit term s.snapshot = p at hafter
  obtain ⟨search, scan⟩ := p
  exact searchCommands?_eq hafter.before

theorem editQuery?_eq (raw : String) (now : Nat) (hafter : (s.editQuery raw now).1.Counts) :
    s.editQuery? raw now = some (s.editQuery raw now) := by
  unfold editQuery? editQuery
  unfold editQuery at hafter
  generalize s.query.edit raw now = p at hafter
  obtain ⟨ends, query⟩ := p
  cases ends with
  | false => rfl
  | true => exact searchCommands?_eq hafter.before

theorem tick?_eq (now : Nat) (hafter : (s.tick now).1.Counts) :
    s.tick? now = some (s.tick now) := by
  unfold tick? tick
  unfold tick at hafter
  generalize s.query.poll now = p at hafter
  obtain ⟨term, query⟩ := p
  cases term with
  | none => rfl
  | some term => exact commitTerm?_eq term hafter

theorem clearQuery?_eq (hafter : s.clearQuery.1.Counts) : s.clearQuery? = some s.clearQuery :=
  searchCommands?_eq hafter.before

theorem navigate?_eq (h : s.Small) (direction : Search.Direction)
    (hafter : (s.navigate direction).1.Counts) :
    s.navigate? direction = some (s.navigate direction) := by
  simp only [navigate?, LiveSearch.navigate?_eq h.size h.points, Option.bind_eq_bind,
    Option.bind_some]
  unfold navigate at hafter ⊢
  generalize s.search.navigate direction = p at hafter
  obtain ⟨line, search⟩ := p
  cases line with
  | none => rfl
  | some line =>
    have hjump := Viewport.jumpToLine?_eq h.rendered h.snapshot line true
    simp only [snapshot] at hjump ⊢
    rw [hjump, Option.bind_some]
    exact thenSearchCommands?_eq hafter.before

theorem openResult?_eq (h : s.Small) (position : Nat)
    (hafter : (s.openResult position).1.Counts) :
    s.openResult? position = some (s.openResult position) := by
  unfold openResult? openResult
  unfold openResult at hafter
  generalize s.search.select position = p at hafter
  obtain ⟨line, search⟩ := p
  cases line with
  | none => rfl
  | some line =>
    have hjump := Viewport.jumpToLine?_eq h.rendered h.snapshot line true
    simp only [snapshot] at hjump hafter ⊢
    rw [hjump, Option.bind_eq_bind, Option.bind_some]
    have hclear := clearQuery?_eq hafter
    simp only [withViewport] at hclear ⊢
    rw [hclear]
    rfl

/-- **A call has its result**, if what is counted stays small. -/
theorem call?_eq (h : s.Small) (c : Call) (hafter : (s.call c).1.Counts) :
    s.call? c = some (s.call c) := by
  cases c with
  | switchSource source =>
    simp only [call, switchSource] at hafter
    have hshow : s.showSource? source = some (s.showSource source) := by
      refine showSource?_eq source ?_
      cases hfault : source.fault? with
      | some fault => rw [s.showSource_of_fault hfault]; exact h.toCounts
      | none =>
        rw [s.showSource_of_none hfault] at hafter ⊢
        exact hafter
    simp only [call?, call, switchSource, hshow, Option.bind_eq_bind, Option.bind_some]
    obtain ⟨result, t⟩ := s.showSource source
    cases result <;> rfl
  | fetched report => exact onFetched?_eq h report hafter
  | editQuery raw now => exact editQuery?_eq raw now hafter
  | tick now => exact tick?_eq now hafter
  | clearQuery => exact clearQuery?_eq hafter
  | navigate direction => exact navigate?_eq h direction hafter
  | openResult position => exact openResult?_eq h position hafter
  | scrollBy delta =>
    simp only [call?, Viewport.scrollBy?_eq h.rendered h.snapshot h.nearBottom, Option.map_some]
    rfl
  | jumpToLatest =>
    simp only [call?, Viewport.jumpToLatest?_eq h.snapshot, Option.map_some]
    rfl
  | finishFrame =>
    simp only [call?, Viewport.finishJump?_eq h.rendered h.snapshot, Option.map_some]
    rfl
  | setHeight height =>
    simp only [call?, Viewport.setHeight?_eq h.rendered, Option.map_some]
    rfl
  | setSelecting active =>
    simp only [call?, Viewport.setSelecting?_eq h.snapshot, Option.map_some]
    rfl
  | _ => rfl

end Session

end LogTail
