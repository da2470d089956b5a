import LogTail.App.Basic
import LogTail.App.Panes
import LogTail.Screen.Box
import LogTail.Screen.ItemList
import LogTail.Screen.Paragraph
import LogTail.Screen.Scrollbar

/-!
# Drawing a frame

A frame is drawn on a canvas. Drawing changes the application a little: the log view may turn out
to have another height, lines and segments are remembered once they are worked out, and the query
input notes what part of it is on the screen.
-/

namespace LogTail.App

open Query (Input)
open Screen

variable {ε : Type}

/-- A number in at least so many columns, with a space behind it. -/
def gutterText (width n : Nat) : String :=
  let digits := toString n
  String.ofList (List.replicate (width - digits.length) ' ') ++ digits ++ " "

def borderStyle (theme : Theme) (focused : Bool) : Style :=
  Style.withFg {} (if focused then theme.borderFocused else theme.borderUnfocused)

/-! ## Segments -/

/-- Text that does not match, in its own styles. -/
def plainSpans (text : String) : List StyledSpan :=
  if Text.Escape.present text then (Style.Ansi.lines text).flatMap (·.spans) else [⟨text, {}⟩]

def matchStyle (theme : Theme) (active : Bool) : Style :=
  if active then
    ((Style.withBg {} theme.activeMatchBg).withFg theme.activeMatchFg).adding Modifiers.bold
  else (Style.withBg {} theme.matchBg).withFg theme.matchFg

/-- The segments of a line; those of the active match stand out. -/
def segmentSpans (theme : Theme) (active : Bool) (segments : List Search.Segment) :
    List StyledSpan :=
  segments.flatMap fun segment =>
    if segment.matched then [⟨segment.text, matchStyle theme active⟩] else plainSpans segment.text

/-! ## The list of sources -/

def sourceItem (a : App ε) (place : Nat) (source : Source) : Item :=
  let shown := if place = a.current then "▶ " else "  "
  { lines := Display.plainLines (shown ++ source.name)
    style :=
      if place = a.marked ∧ a.focus = .sources then
        (Style.withFg {} a.theme.sourceSelected).adding Modifiers.bold
      else if place = a.current then Style.withFg {} a.theme.sourceCurrent
      else {} }

def drawSources (a : App ε) (c : Canvas) (area : Rect) : Canvas :=
  let c := c.drawBox area " Sources " (borderStyle a.theme (a.focus = .sources))
  drawItems c area.insideBox (a.sources.zipIdx.map fun (source, i) => a.sourceItem i source) none

/-! ## The bars -/

def drawHeader (a : App ε) (c : Canvas) (area : Rect) : Canvas :=
  let title : StyledSpan :=
    ⟨" hound ", (Style.withFg {} a.theme.headerTitle).adding Modifiers.bold⟩
  let source : StyledSpan := ⟨a.session.source.name, Style.withFg {} a.theme.headerSource⟩
  Paragraph.draw
    { lines := [⟨[title, ⟨"| ", {}⟩, source], {}⟩]
      style := Style.withBg {} a.theme.headerBg } c area

def modeText : Mode → String
  | .normal => "NORMAL"
  | .searching => "SEARCH"
  | .selecting => "SELECT"

/-- What the log does, in words. -/
def viewModeText : ViewMode → String
  | .tailing => "[TAIL]"
  | .paused => "[PAUSED]"
  | .jumping .. => "[JUMP]"

/-- How the search stands, in words. -/
def searchText (view : Display.View) : String :=
  match view.status with
  | .idle => ""
  | .scanning => " | searching..."
  | .ready =>
    match view.results.active with
    | some active => s!" | match {active + 1}/{view.results.totalLines} lines"
    | none => s!" | {view.results.totalMatches} matches"

def pollSpan (theme : Theme) (tally : Poll.Tally) : StyledSpan :=
  if tally.isStale then
    ⟨s!" fetch failing ({tally.consecutiveFailures}x) ",
      (Style.withFg {} theme.statusStale).adding Modifiers.bold⟩
  else
    ⟨s!" polls {tally.successes}/{tally.successes + tally.failures} ",
      Style.withFg {} theme.statusHelp⟩

/-- The keys that matter most in a mode. -/
def hintText : Mode → String
  | .searching => " Enter:results  Esc:clear "
  | .selecting => " j/k:extend  y:copy  Esc:cancel "
  | .normal => " ?:help  /:search  G:latest "

def drawStatus (a : App ε) (c : Canvas) (area : Rect) : Canvas :=
  let theme := a.theme
  let wrap := if a.lineWrap then " [W]" else ""
  let colors := if a.levelColors then " [C]" else ""
  let view := viewModeText a.session.viewport.mode
  let spans : List StyledSpan := [
    ⟨s!" {modeText a.mode} ", (Style.withBg {} theme.statusModeBg).withFg theme.statusModeFg⟩,
    ⟨s!" {view} {a.view.snapshot.lineCount} lines{wrap}{colors}{searchText a.view} ", {}⟩,
    pollSpan theme a.session.tally,
    ⟨hintText a.mode, Style.withFg {} theme.statusHelp⟩]
  Paragraph.draw { lines := [⟨spans, {}⟩], style := Style.withBg {} theme.statusBg } c area

/-! ## The query bar -/

/-- Draw the query bar: the input while a query is typed, otherwise the last message, or else the
query. -/
def drawQuery [Input ε] (a : App ε) (c : Canvas) (area : Rect) : Canvas × App ε :=
  let theme := a.theme
  if a.mode = .searching then
    let slash := min 1 (area.width - 1)
    let c := (Paragraph.ofText "/" (Style.withFg {} theme.warningMessage)).draw c
      { area with width := slash }
    let (c, input) := Input.draw a.input c (area.dropLeft slash)
    (c, { a with input := input })
  else
    let spans : List StyledSpan :=
      match a.message with
      | some message => [⟨message, Style.withFg {} theme.warningMessage⟩]
      | none =>
        if a.session.search.isActive then
          [⟨"/" ++ a.session.search.term, Style.withFg {} theme.emptyState⟩]
        else []
    (Paragraph.draw { lines := [⟨spans, {}⟩] } c area, a)

/-! ## The log -/

/-- The spans of a line of the log: its segments if it matches, otherwise the line as it is. -/
def logSpans (a : App ε) (active : Option Nat) (n : Nat) : List StyledSpan × App ε :=
  match a.session.segmentsForLine a.view.snapshot n with
  | (some segments, session) =>
    (segmentSpans a.theme (active = some n) segments, { a with session := session })
  | (none, session) =>
    let (shown, view) := a.view.showLine n a.theme a.levelColors
    let spans := shown.elim [] fun (_, lines) => lines.flatMap (·.spans)
    (spans, { a with session := session, view := view })

/-- A line of the log with its number; a selected line and one that was jumped to stand out. -/
def logLine (a : App ε) (gutter : Nat) (active flash : Option Nat) (n : Nat) : StyledLine × App ε :=
  let (spans, a) := a.logSpans active n
  let number : StyledSpan := ⟨gutterText gutter (n + 1), Style.withFg {} a.theme.lineNumber⟩
  let style : Style :=
    if a.selection.any (·.contains n) then Style.withBg {} a.theme.selectionBg
    else if flash = some n then Style.withBg {} a.theme.flashBg
    else {}
  (⟨number :: spans, style⟩, a)

def logLines (a : App ε) (gutter : Nat) (active flash : Option Nat) :
    List Nat → List StyledLine × App ε
  | [] => ([], a)
  | n :: rest =>
    let (line, a) := a.logLine gutter active flash n
    let (lines, a) := logLines a gutter active flash rest
    (line :: lines, a)

/-- Draw the badge of unseen lines at the end of the last row. -/
def drawBadge (a : App ε) (c : Canvas) (area : Rect) : Canvas :=
  if a.view.unseen = 0 then c
  else
    let label := s!" ↓ {a.view.unseen} new lines (G) "
    let width := min label.length area.width
    let place : Rect := ⟨area.right - width, area.bottom - 1, width, 1⟩
    Paragraph.draw
      { lines := [⟨[⟨label, {}⟩], {}⟩]
        style := (Style.withBg {} a.theme.badgeBg).withFg a.theme.badgeFg
        flushRight := true } (c.clear place) place

def drawLog (a : App ε) (now : Nat) (c : Canvas) (area : Rect) : Canvas × App ε :=
  let focused := a.focus = .log && a.sidePanel
  let c := if a.sidePanel then c.drawLeftLine area (borderStyle a.theme focused) else c
  let inner := if a.sidePanel then area.insideLeft else area
  let height := inner.height
  if height = 0 then (c, a)
  else
    let a := if height = a.pageSize then a else a.setPageSize now height
    let snapshot := a.view.snapshot
    let (start, stop) := a.view.visible height
    let gutter := (toString (max snapshot.lineCount 1)).length
    let (lines, a) := a.logLines gutter a.session.search.activeLine? (a.view.flashLine? now)
      (List.range' start (stop - start))
    let c := Paragraph.draw { lines := lines, wraps := a.lineWrap } c inner
    let retained := snapshot.lineCount - snapshot.firstLine
    let c :=
      if height < retained then
        drawScrollbar c area (retained - height) (start - snapshot.firstLine)
      else c
    let c :=
      if snapshot.isEmpty then
        (Paragraph.ofText "Waiting for log lines..."
          (Style.withFg {} a.theme.emptyState)).draw c inner
      else c
    (a.drawBadge c inner, a)

/-! ## The results -/

def resultsTitle (view : Display.View) : String :=
  let r := view.results
  if view.status = .scanning then " Results (searching...) "
  else if r.totalLines = 0 then " Results: no matches "
  else
    s!" Results {r.window.start + 1}-{r.window.stop} of {r.totalLines} lines, " ++
      s!"{r.totalMatches} matches "

/-- A line of a card. Lines around the match are dim. -/
def snippetLine (theme : Theme) (gutter : Nat) (active : Bool) (line : Search.SnippetLine) :
    StyledLine where
  spans := ⟨gutterText gutter (line.line + 1), Style.withFg {} theme.lineNumber⟩ ::
    segmentSpans theme (active && line.isMatch) line.segments
  style := if line.isMatch then {} else Style.adding {} Modifiers.dim

def cardItem (theme : Theme) (gutter : Nat) (card : Search.ResultCard) : Item :=
  let marker := if card.active then "▶" else " "
  let title : StyledSpan :=
    ⟨s!"{marker} #{card.position + 1} line {card.line + 1}",
      (Style.withFg {} theme.headerSource).adding Modifiers.bold⟩
  { lines := ⟨[title], {}⟩ :: card.snippet.map (snippetLine theme gutter card.active) }

def drawResults (a : App ε) (c : Canvas) (area : Rect) : Canvas :=
  let r := a.view.results
  let c := c.drawBox area (resultsTitle a.view) (borderStyle a.theme (a.focus = .results))
  let gutter := (r.cards.getLast?.elim 1 fun card => (toString (card.line + 1)).length) + 2
  let selected := r.active.bind fun active =>
    if r.window.start ≤ active then some (active - r.window.start) else none
  drawItems c area.insideBox (r.cards.map (cardItem a.theme gutter)) selected

/-! ## The help -/

/-- The lines of the help below its title. -/
def helpLines : List String := [
  "",
  "Navigation:",
  "  j/k, ↑/↓       Scroll up/down",
  "  Ctrl+d/u       Page down/up",
  "  g              Go to top (pauses)",
  "  G              Jump to latest (tails)",
  "",
  "Search:",
  "  /              Edit search (live)",
  "  Enter          Focus results",
  "  n/N            Next/previous match",
  "  Enter (result) Open result, end search",
  "  Esc            Clear search",
  "",
  "Selection:",
  "  v              Start/stop selection",
  "  y              Copy selected lines",
  "",
  "Display:",
  "  Tab            Cycle panel focus",
  "  Enter (source) Switch source",
  "  e              Export log",
  "  w / c          Toggle wrap / level colors",
  "  b              Toggle side panel",
  "  ?              Toggle this help",
  "  q              Quit"]

/-- Draw the help in the middle of the screen. -/
def drawHelp (theme : Theme) (c : Canvas) : Canvas :=
  let width := min 52 (c.width - 4)
  let height := min 30 (c.height - 4)
  let area : Rect := ⟨(c.width - width) / 2, (c.height - height) / 2, width, height⟩
  let c := (c.clear area).restyle area (Style.withBg {} theme.helpBg)
  let c := c.drawBox area " Help " (Style.withFg {} theme.helpBorder)
  let title : StyledLine := ⟨[⟨"Keyboard Shortcuts", Style.adding {} Modifiers.bold⟩], {}⟩
  Paragraph.draw { lines := title :: helpLines.map fun line => ⟨[⟨line, {}⟩], {}⟩ } c
    area.insideBox

/-! ## The frame -/

def draw [Input ε] (a : App ε) (now width height : Nat) : Canvas × App ε :=
  let panes := Panes.ofScreen width height a.sidePanel a.session.search.isActive
  let c := Canvas.blank width height
  let c := if a.sidePanel then a.drawSources c panes.sources else c
  let c := a.drawHeader c panes.header
  let (c, a) := a.drawLog now c panes.log
  let c := if 0 < panes.results.height then a.drawResults c panes.results else c
  let c := a.drawStatus c panes.status
  let (c, a) := a.drawQuery c panes.query
  ((if a.help then drawHelp a.theme c else c).shown, a)

end LogTail.App
