import LogTail.App.Basic

/-!
# Keys and the mouse

What the application does on a key depends on its mode. The help is in front of all modes; behind
it, Ctrl-C ends the program from anywhere.
-/

namespace LogTail

inductive Mouse where
  | wheelUp
  | wheelDown
  | other
  deriving DecidableEq, Repr

namespace App

open Query (Input)

variable {ε : Type}

/-- The lines that a notch of the wheel scrolls. -/
def wheelLines : Int := 3

def onMouse (a : App ε) (now : Nat) : Mouse → App ε
  | .wheelUp => a.scrollBy now (-wheelLines)
  | .wheelDown => a.scrollBy now wheelLines
  | .other => a

/-- One step down in the panel with the focus. -/
def stepDown (a : App ε) (now : Nat) : App ε :=
  match a.focus with
  | .log => a.scrollBy now 1
  | .sources => a.markNext
  | .results => a.navigate now .next

def stepUp (a : App ε) (now : Nat) : App ε :=
  match a.focus with
  | .log => a.scrollBy now (-1)
  | .sources => a.markPrevious
  | .results => a.navigate now .prev

/-- Open what is marked in the panel with the focus. -/
def openMarked [Input ε] (a : App ε) (now : Nat) : App ε :=
  match a.focus with
  | .log => a
  | .sources => a.switchToMarked now
  | .results => a.openActiveResult now

def onNormalKey [Input ε] (a : App ε) (now : Nat) (key : Key) : App ε :=
  match key.code with
  | .char 'q' => { a with quit := true }
  | .char '?' => { a with help := true }
  | .char 'b' => a.toggleSidePanel
  | .tab => a.cycleFocus
  | .char 'j' | .down => a.stepDown now
  | .char 'k' | .up => a.stepUp now
  | .enter => a.openMarked now
  | .char 'd' => if key.ctrl then a.scrollBy now a.pageSize else a
  | .char 'u' => if key.ctrl then a.scrollBy now (-a.pageSize) else a
  | .pageDown => a.scrollBy now a.pageSize
  | .pageUp => a.scrollBy now (-a.pageSize)
  | .char 'g' | .home => a.goToTop now
  | .char 'G' | .end_ => a.jumpToLatest now
  | .char '/' => a.startSearch
  | .char 'n' => a.navigate now .next
  | .char 'N' => a.navigate now .prev
  | .escape =>
    if a.session.search.isActive then (a.clearSearch now).say "Search cleared" else a
  | .char 'v' => a.toggleSelection now
  | .char 'e' => a.exportLog
  | .char 'w' => a.toggleLineWrap
  | .char 'c' => a.toggleLevelColors
  | _ => a

/-- A key while the query is typed. -/
def onSearchKey [Input ε] (a : App ε) (now : Nat) (key : Key) : App ε :=
  match key.code with
  | .enter => a.finishSearchInput now
  | .escape => a.clearSearch now
  | _ =>
    match Input.press a.input key with
    | (true, input) => { a with input := input }.queryChanged now
    | (false, input) => { a with input := input }

/-- A key while a selection is extended. -/
def onSelectingKey (a : App ε) (now : Nat) (clipboard : Clipboard) (key : Key) : App ε :=
  match key.code with
  | .char 'j' | .down => a.moveSelection now 1
  | .char 'k' | .up => a.moveSelection now (-1)
  | .char 'y' => a.copySelection now clipboard
  | .char 'v' | .escape => a.endSelection now
  | .char 'q' => { a with quit := true }
  | _ => a

def onKey [Input ε] (a : App ε) (now : Nat) (clipboard : Clipboard) (key : Key) : App ε :=
  if a.help then
    match key.code with
    | .escape | .char 'q' | .char '?' => { a with help := false }
    | _ => a
  else if key.code = .char 'c' ∧ key.ctrl then { a with quit := true }
  else
    match a.mode with
    | .normal => a.onNormalKey now key
    | .searching => a.onSearchKey now key
    | .selecting => a.onSelectingKey now clipboard key

end App

end LogTail
