import LogTail.Display.View
import LogTail.Query.Input
import LogTail.Session.Basic
import LogTail.Text.Lines

/-!
# The application

What the reader sees and does: a session, the view it is shown in, an input of any kind for the
query, the list of sources, and a selection of lines. Whatever the session tells the screen goes
into the view at once, so that the two never differ between two events.

The time now is in milliseconds, and the clipboard is a function: it takes a text, or tells why it
cannot.
-/

namespace LogTail

open Display (Command View)
open Query (Input)

/-- What keys mean. -/
inductive Mode where
  | normal
  /-- The query is typed. -/
  | searching
  /-- A selection is extended. -/
  | selecting
  deriving DecidableEq, Repr, Inhabited

/-- The parts of the screen that keys can go to. -/
inductive Panel where
  | log
  | sources
  | results
  deriving DecidableEq, Repr, Inhabited

/-- Selected lines: from the anchor to the cursor, in either direction. -/
structure Selection where
  anchor : Nat
  cursor : Nat
  deriving DecidableEq, Repr, Inhabited

namespace Selection

def first (s : Selection) : Nat := min s.anchor s.cursor

def last (s : Selection) : Nat := max s.anchor s.cursor

def contains (s : Selection) (line : Nat) : Bool := s.first ≤ line && line ≤ s.last

end Selection

/-- A place to copy text to. -/
abbrev Clipboard := String → Except String Unit

structure App (ε : Type) where
  session : Session
  view : View
  theme : Theme
  mode : Mode := .normal
  /-- The query is typed here. -/
  input : ε
  sources : List Source
  /-- The source that is shown, by its place in the list. -/
  current : Nat := 0
  /-- The source that is marked in the list. -/
  marked : Nat := 0
  focus : Panel := .log
  sidePanel : Bool := true
  quit : Bool := false
  message : Option String := none
  help : Bool := false
  levelColors : Bool := true
  lineWrap : Bool := false
  selection : Option Selection := none
  /-- The rows of the log view when it was last drawn. -/
  pageSize : Nat := 1

namespace App

variable {ε : Type}

variable (ε) in
def new [Input ε] (settings : Settings) (session : Session) (sources : List Source) : App ε where
  session := session
  view := { flashTime := settings.flash }
  theme := Theme.byName settings.theme
  input := Input.empty
  sources := sources

def say (a : App ε) (message : String) : App ε := { a with message := some message }

/-- Take over what the session became, and do what it tells the screen. -/
def take (a : App ε) (now : Nat) (r : Session × List Command) : App ε :=
  { a with session := r.1, view := r.2.foldl (fun view cmd => view.apply now cmd) a.view }

def queryText [Input ε] (a : App ε) : String := Input.text a.input

/-! ## Events -/

/-- Something was heard of work in the background. -/
def onEvent (a : App ε) (now : Nat) : Event → App ε
  | .exported (.ok file) => a.say s!"Exported to {file.path}"
  | .exported (.error fault) => a.say s!"Export failed: {fault}"
  | event => a.take now (a.session.handle event)

/-- Commit a query that has been quiet for long enough. The view takes note of it at `now`. -/
def tick (a : App ε) (now time : Nat) : App ε := a.take now (a.session.tick time)

def afterDraw (a : App ε) (now : Nat) : App ε := a.take now a.session.finishFrame

/-- The log view has this many rows now. -/
def setPageSize (a : App ε) (now rows : Nat) : App ε :=
  { a with pageSize := max rows 1 }.take now (a.session.setHeight (max rows 1))

/-! ## Scrolling -/

def scrollBy (a : App ε) (now : Nat) (delta : Int) : App ε := a.take now (a.session.scrollBy delta)

/-- Go to the oldest retained line. -/
def goToTop (a : App ε) (now : Nat) : App ε := a.take now a.session.scrollToTop

/-! ## Selecting -/

def endSelection (a : App ε) (now : Nat) : App ε :=
  match a.selection with
  | none => a
  | some _ =>
    { a with selection := none, mode := .normal }.take now (a.session.setSelecting false)

/-- Select the last line on the screen, or drop the selection. -/
def toggleSelection (a : App ε) (now : Nat) : App ε :=
  match a.selection with
  | some _ => a.endSelection now
  | none =>
    let (start, stop) := a.view.visible a.pageSize
    if stop ≤ start then a
    else
      { a with selection := some ⟨stop - 1, stop - 1⟩, mode := .selecting }.take now
        (a.session.setSelecting true)

/-- Move the free end of the selection within the retained lines, and scroll to show it. -/
def moveSelection (a : App ε) (now : Nat) (delta : Int) : App ε :=
  match a.selection with
  | none => a
  | some selection =>
    if a.view.snapshot.isEmpty then a
    else
      let cursor := max a.view.snapshot.firstLine
        (min ((selection.cursor : Int) + delta).toNat (a.view.snapshot.lineCount - 1))
      let start := (a.view.visible a.pageSize).1
      let a := { a with selection := some { selection with cursor := cursor } }
      if cursor < start then a.scrollBy now ((cursor : Int) - start)
      else if start + a.pageSize ≤ cursor then
        a.scrollBy now ((cursor : Int) + 1 - start - a.pageSize)
      else a

/-- The selected lines that are retained. -/
def selectedText? (a : App ε) : Option String :=
  a.selection.map fun selection =>
    let count := selection.last + 1 - selection.first
    "\n".intercalate ((List.range' selection.first count).filterMap a.view.snapshot.line?)

def copySelection (a : App ε) (now : Nat) (clipboard : Clipboard) : App ε :=
  match a.selectedText? with
  | none => a
  | some text =>
    let a := a.say (match clipboard text with
      | .ok () => s!"Copied {(Text.lines text).size} lines"
      | .error fault => s!"Copy failed: {fault}")
    a.endSelection now

/-- Jump to the latest line and tail from there. -/
def jumpToLatest (a : App ε) (now : Nat) : App ε :=
  let a := a.endSelection now
  a.take now a.session.jumpToLatest

/-! ## Searching -/

def startSearch (a : App ε) : App ε := { a with mode := .searching, focus := .log }

/-- Tell the session what is typed now. -/
def queryChanged [Input ε] (a : App ε) (now : Nat) : App ε :=
  a.take now (a.session.editQuery a.queryText now)

/-- Leave the input and commit the query at once. The results get the focus if there is a
search. -/
def finishSearchInput (a : App ε) (now : Nat) : App ε :=
  let a := { a with mode := .normal }
  let a := match a.session.query.deadline? with
    | some deadline => a.tick now deadline
    | none => a
  if a.session.search.isActive then { a with focus := .results } else a

/-- Drop the query and the search. -/
def clearSearch [Input ε] (a : App ε) (now : Nat) : App ε :=
  let a := { a with input := Input.empty }.take now a.session.clearQuery
  { a with mode := .normal, focus := if a.focus = .results then .log else a.focus }

def navigate (a : App ε) (now : Nat) (direction : Search.Direction) : App ε :=
  if a.session.search.isActive then a.take now (a.session.navigate direction)
  else a.say "No active search"

/-- Jump to the active result, or the first one shown, and end the search. -/
def openActiveResult [Input ε] (a : App ε) (now : Nat) : App ε :=
  match a.view.results.active.orElse fun _ => a.view.results.cards.head?.map (·.position) with
  | none => a
  | some position =>
    let a := a.take now (a.session.openResult position)
    let a := { a with input := Input.empty, focus := .log }
    match a.view.flash with
    | some (line, _) => a.say s!"Line {line + 1}"
    | none => a

/-! ## Sources -/

def markNext (a : App ε) : App ε :=
  if a.marked + 1 < a.sources.length then { a with marked := a.marked + 1 } else a

def markPrevious (a : App ε) : App ε := { a with marked := a.marked - 1 }

/-- Show the marked source. One that cannot be fetched from is refused. -/
def switchToMarked (a : App ε) (now : Nat) : App ε :=
  if a.marked = a.current then a
  else
    match a.sources[a.marked]? with
    | none => a
    | some source =>
      let a := { a with selection := none, mode := .normal }
      match a.session.switchSource source with
      | .ok r =>
        let a := { a with current := a.marked }.take now r
        a.say s!"Switched to {a.session.source.name}"
      | .error fault => a.say s!"Cannot switch: {fault.message}"

def exportLog (a : App ε) : App ε :=
  { a with session := a.session.exportLog }.say s!"Exporting {a.session.source.name}..."

/-! ## Display -/

def onOff (on : Bool) : String := if on then "on" else "off"

def toggleLevelColors (a : App ε) : App ε :=
  let on := !a.levelColors
  { a with levelColors := on, view := a.view.invalidate }.say s!"Level colors: {onOff on}"

def toggleLineWrap (a : App ε) : App ε :=
  let on := !a.lineWrap
  { a with lineWrap := on }.say s!"Line wrap: {onOff on}"

/-- Show the list of sources, or not. The focus does not stay on a list that is not shown. -/
def toggleSidePanel (a : App ε) : App ε :=
  let on := !a.sidePanel
  { a with
    sidePanel := on
    focus := if !on && a.focus == .sources then .log else a.focus }

/-- Give the focus to the next panel that is shown. -/
def cycleFocus (a : App ε) : App ε :=
  let next : Panel :=
    match a.focus with
    | .log =>
      if a.sidePanel then .sources
      else if a.session.search.isActive then .results
      else .log
    | .sources => if a.session.search.isActive then .results else .log
    | .results => .log
  { a with focus := next }

end App

end LogTail
