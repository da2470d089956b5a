import LogTail.Display.Command

/-!
# The viewport

The viewport decides whether the screen follows new output or holds the reader's place. It owns
the scroll position and knows the snapshot that the screen shows, and so how many lines the reader
has not seen.

A jump is a scroll that the program makes. Until a frame has been drawn, scrolling by the reader
is ignored; then the jump settles into tailing or paused.
-/

namespace LogTail

open Log (Snapshot)

/-- Where a jump settles. -/
inductive Resume where
  | tailing
  | paused
  deriving DecidableEq, Repr

/-- What the viewport does on new output. -/
inductive ViewMode where
  /-- Follow new output. -/
  | tailing
  /-- Hold the position and count unseen lines. -/
  | paused
  /-- A jump waits for the next frame. -/
  | jumping (target : Nat) (resume : Resume)
  deriving DecidableEq, Repr, Inhabited

def ViewMode.isJumping : ViewMode → Bool
  | .jumping .. => true
  | _ => false

structure Viewport where
  mode : ViewMode := .tailing
  /-- The snapshot on the screen. -/
  rendered : Snapshot := {}
  /-- Where the reader was while paused. -/
  anchor : Option Nat := none
  top : Nat := 0
  height : Nat := 1
  /-- How far from the bottom still counts as the bottom. -/
  nearBottom : Nat
  selecting : Bool := false
  /-- A render was held back because of a selection. -/
  renderHeld : Bool := false
  deriving Repr, Inhabited

namespace Viewport

open Display (Command)

/-- How many lines of the latest snapshot the screen has not shown. -/
def unseen (v : Viewport) (latest : Snapshot) : Nat :=
  if latest.generation = v.rendered.generation then latest.lineCount - v.rendered.lineCount
  else latest.lineCount

/-- The top line at which the last page is shown. -/
def maxTop (v : Viewport) : Nat :=
  max (v.rendered.lineCount - v.height) v.rendered.firstLine

/-- The nearest top line that shows retained text. -/
def clampTop (v : Viewport) (top : Nat) : Nat := max v.rendered.firstLine (min top v.maxTop)

/-- Whether a top line is close enough to the last page. -/
def isNearBottom (v : Viewport) (top : Nat) : Bool := v.maxTop ≤ top + v.nearBottom

def render (v : Viewport) (latest : Snapshot) : Viewport × List Command :=
  ({ v with rendered := latest, renderHeld := false }, [.render latest])

def scrollTo (v : Viewport) (line top : Nat) (flash : Bool) : Viewport × List Command :=
  ({ v with top := top }, [.scroll line top flash])

def followBottom (v : Viewport) : Viewport × List Command :=
  v.scrollTo (v.rendered.lineCount - 1) v.maxTop false

/-- Show the latest snapshot at its last page. -/
def renderBottom (v : Viewport) (latest : Snapshot) : Viewport × List Command :=
  let (v, shown) := v.render latest
  let (v, moved) := v.followBottom
  (v, shown ++ moved)

def badge (v : Viewport) (latest : Snapshot) : Command := .badge (v.unseen latest)

/-- Whether the latest snapshot takes away what the screen shows. -/
def isReset (v : Viewport) (latest : Snapshot) : Bool :=
  latest.generation ≠ v.rendered.generation || latest.lineCount < v.rendered.lineCount

def update (v : Viewport) (latest : Snapshot) : Viewport × List Command :=
  let (v, cmds) :=
    match v.mode with
    | .tailing =>
      if v.selecting && !v.isReset latest then ({ v with renderHeld := true }, [])
      else { v with selecting := false }.renderBottom latest
    | .paused | .jumping .. =>
      if v.isReset latest then
        let (v, shown) := v.render latest
        let top := v.clampTop (v.anchor.getD v.top)
        let (v, moved) := v.scrollTo top top false
        (v, shown ++ moved)
      else (v, [])
  (v, cmds ++ [v.badge latest])

/-- The top line after a scroll by the reader. -/
def scrolledTop (v : Viewport) (delta : Int) : Nat := v.clampTop (v.top + delta).toNat

/-- The reader scrolls. Leaving the bottom pauses; coming back to it resumes the tail. -/
def scrollBy (v : Viewport) (delta : Int) (latest : Snapshot) : Viewport × List Command :=
  let top := v.scrolledTop delta
  match v.mode with
  | .jumping .. => (v, [])
  | .tailing =>
    let v := if v.isNearBottom top then v else { v with mode := .paused, anchor := some top }
    v.scrollTo top top false
  | .paused =>
    if 0 < delta && v.isNearBottom top then
      let v := { v with mode := .tailing, anchor := none }
      let (v, cmds) :=
        if v.selecting then v.scrollTo top top false
        else if v.rendered.same latest then v.followBottom
        else v.renderBottom latest
      (v, cmds ++ [v.badge latest])
    else { v with anchor := some top }.scrollTo top top false

/-- The reader goes to the oldest retained line. -/
def scrollToTop (v : Viewport) : Viewport × List Command :=
  if v.mode.isJumping then (v, [])
  else
    let top := v.rendered.firstLine
    { v with mode := .paused, anchor := some top }.scrollTo top top false

def jumpToLatest (v : Viewport) (latest : Snapshot) : Viewport × List Command :=
  let v := { v with
    selecting := false, anchor := none, mode := .jumping (latest.lineCount - 1) .tailing }
  let (v, cmds) := v.renderBottom latest
  (v, cmds ++ [v.badge latest])

/-- Whether the screen lacks a line, or shows another generation. -/
def lacks (v : Viewport) (line : Nat) (latest : Snapshot) : Bool :=
  latest.generation ≠ v.rendered.generation || v.rendered.lineCount ≤ line ||
    line < v.rendered.firstLine

/-- Jump to a line and stay there. -/
def jumpToLine (v : Viewport) (line : Nat) (flash : Bool) (latest : Snapshot) :
    Viewport × List Command :=
  let (v, shown) := if v.lacks line latest then v.render latest else (v, [])
  let v := { v with mode := .jumping line .paused, anchor := some line }
  let (v, moved) := v.scrollTo line (v.clampTop (line - v.height / 2)) flash
  (v, shown ++ moved ++ [v.badge latest])

/-- A frame has been drawn: a waiting jump settles. -/
def finishJump (v : Viewport) (latest : Snapshot) : Viewport × List Command :=
  match v.mode with
  | .jumping _ .paused => ({ v with mode := .paused }, [])
  | .jumping _ .tailing =>
    let v := { v with mode := .tailing }
    if v.rendered.same latest then (v, []) else v.update latest
  | _ => (v, [])

/-- A search begins: the tail stops. -/
def enterSearch (v : Viewport) : Viewport :=
  if v.mode = .tailing then { v with mode := .paused, anchor := some v.top } else v

/-- A selection begins or ends. A render that was held back is made up for at the end. -/
def setSelecting (v : Viewport) (active : Bool) (latest : Snapshot) : Viewport × List Command :=
  let v := { v with selecting := active }
  if !active && v.renderHeld && v.mode = .tailing then
    let (v, cmds) := v.renderBottom latest
    (v, cmds ++ [v.badge latest])
  else (v, [])

def setHeight (v : Viewport) (height : Nat) : Viewport × List Command :=
  let height := max height 1
  if height = v.height then (v, [])
  else
    let v := { v with height := height }
    if v.mode = .tailing then v.followBottom
    else
      let top := v.clampTop v.top
      if top = v.top then (v, []) else v.scrollTo top top false

/-- Start over at the tail of another source's buffer. -/
def restart (v : Viewport) (latest : Snapshot) : Viewport × List Command :=
  let v := { v with mode := .tailing, anchor := none, selecting := false }
  let (v, cmds) := v.renderBottom latest
  (v, cmds ++ [v.badge latest])

end Viewport

end LogTail
