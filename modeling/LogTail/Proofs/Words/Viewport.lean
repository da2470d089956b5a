import LogTail.Proofs.Words.Basic
import LogTail.Viewport

/-!
# The viewport in words

The operations of the viewport that count lines, with their arithmetic in words. Clamps never have
their bounds the wrong way round, whatever the viewport. The one sum is that of a top line and
`nearBottom`; a top line that is scrolled to is on the screen's text, so the sum is a word if both
are far below the largest one.
-/

namespace LogTail.Viewport

open Display (Command)
open Log (Snapshot)
open Words

/-! ## Operations -/

def unseen? (v : Viewport) (latest : Snapshot) : Option Nat := do
  let count ← latest.lineCount?
  if latest.generation = v.rendered.generation then return count - (← v.rendered.lineCount?)
  else return count

def maxTop? (v : Viewport) : Option Nat := do
  return max ((← v.rendered.lineCount?) - v.height) v.rendered.firstLine

def clampTop? (v : Viewport) (top : Nat) : Option Nat := do
  clamp? v.rendered.firstLine (← v.maxTop?) top

def isNearBottom? (v : Viewport) (top : Nat) : Option Bool := do
  let reached ← sum? top v.nearBottom
  return decide ((← v.maxTop?) ≤ reached)

def followBottom? (v : Viewport) : Option (Viewport × List Command) := do
  let count ← v.rendered.lineCount?
  return v.scrollTo (count - 1) (← v.maxTop?) false

def renderBottom? (v : Viewport) (latest : Snapshot) : Option (Viewport × List Command) := do
  let (v, shown) := v.render latest
  let (v, moved) ← v.followBottom?
  return (v, shown ++ moved)

def badge? (v : Viewport) (latest : Snapshot) : Option Command := (v.unseen? latest).map .badge

/-- The badge for the latest snapshot comes last. -/
def thenBadge? (latest : Snapshot) (first : Viewport × List Command) :
    Option (Viewport × List Command) := do
  let (v, cmds) := first
  return (v, cmds ++ [← v.badge? latest])

def isReset? (v : Viewport) (latest : Snapshot) : Option Bool := do
  let count ← latest.lineCount?
  let shown ← v.rendered.lineCount?
  return latest.generation ≠ v.rendered.generation || count < shown

def update? (v : Viewport) (latest : Snapshot) : Option (Viewport × List Command) := do
  let reset ← v.isReset? latest
  match v.mode with
  | .tailing =>
    if v.selecting && !reset then thenBadge? latest ({ v with renderHeld := true }, [])
    else thenBadge? latest (← { v with selecting := false }.renderBottom? latest)
  | .paused | .jumping .. =>
    if reset then
      let (v, shown) := v.render latest
      let top ← v.clampTop? (v.anchor.getD v.top)
      let (v, moved) := v.scrollTo top top false
      thenBadge? latest (v, shown ++ moved)
    else thenBadge? latest (v, [])

/-- The top line after a scroll by the reader; a position beyond the largest word is the largest
word. -/
def scrolledTop? (v : Viewport) (delta : Int) : Option Nat :=
  v.clampTop? (min (v.top + delta).toNat (2 ^ 64 - 1))

def scrollBy? (v : Viewport) (delta : Int) (latest : Snapshot) :
    Option (Viewport × List Command) := do
  match v.mode with
  | .jumping .. => return (v, [])
  | .tailing =>
    let top ← v.scrolledTop? delta
    let v := if ← v.isNearBottom? top then v else { v with mode := .paused, anchor := some top }
    return v.scrollTo top top false
  | .paused =>
    let top ← v.scrolledTop? delta
    if 0 < delta && (← v.isNearBottom? top) then
      let v := { v with mode := .tailing, anchor := none }
      if v.selecting then thenBadge? latest (v.scrollTo top top false)
      else if v.rendered.same latest then thenBadge? latest (← v.followBottom?)
      else thenBadge? latest (← v.renderBottom? latest)
    else return { v with anchor := some top }.scrollTo top top false

def jumpToLatest? (v : Viewport) (latest : Snapshot) : Option (Viewport × List Command) := do
  let count ← latest.lineCount?
  let v := { v with
    selecting := false, anchor := none, mode := .jumping (count - 1) .tailing }
  thenBadge? latest (← v.renderBottom? latest)

def lacks? (v : Viewport) (line : Nat) (latest : Snapshot) : Option Bool := do
  let shown ← v.rendered.lineCount?
  return latest.generation ≠ v.rendered.generation || shown ≤ line || line < v.rendered.firstLine

def jumpToLine? (v : Viewport) (line : Nat) (flash : Bool) (latest : Snapshot) :
    Option (Viewport × List Command) := do
  let (v, shown) := if ← v.lacks? line latest then v.render latest else (v, [])
  let v := { v with mode := .jumping line .paused, anchor := some line }
  let (v, moved) := v.scrollTo line (← v.clampTop? (line - v.height / 2)) flash
  thenBadge? latest (v, shown ++ moved)

def finishJump? (v : Viewport) (latest : Snapshot) : Option (Viewport × List Command) :=
  match v.mode with
  | .jumping _ .paused => some ({ v with mode := .paused }, [])
  | .jumping _ .tailing =>
    let v := { v with mode := .tailing }
    if v.rendered.same latest then some (v, []) else v.update? latest
  | _ => some (v, [])

def setSelecting? (v : Viewport) (active : Bool) (latest : Snapshot) :
    Option (Viewport × List Command) := do
  let v := { v with selecting := active }
  if !active && v.renderHeld && v.mode = .tailing then
    thenBadge? latest (← v.renderBottom? latest)
  else return (v, [])

def setHeight? (v : Viewport) (height : Nat) : Option (Viewport × List Command) := do
  let height := max height 1
  if height = v.height then return (v, [])
  else
    let v := { v with height := height }
    if v.mode = .tailing then v.followBottom?
    else
      let top ← v.clampTop? v.top
      if top = v.top then return (v, []) else return v.scrollTo top top false

def restart? (v : Viewport) (latest : Snapshot) : Option (Viewport × List Command) := do
  let v := { v with mode := .tailing, anchor := none, selecting := false }
  thenBadge? latest (← v.renderBottom? latest)

/-! ## Their results -/

variable {v : Viewport} {latest : Snapshot}

theorem unseen?_eq (hv : v.rendered.Small) (hl : latest.Small) :
    v.unseen? latest = some (v.unseen latest) := by
  simp only [unseen?, unseen, hv.lineCount?_eq, hl.lineCount?_eq, Option.bind_eq_bind,
    Option.bind_some]
  split <;> rfl

theorem maxTop?_eq (hv : v.rendered.Small) : v.maxTop? = some v.maxTop := by
  simp only [maxTop?, hv.lineCount?_eq, Option.bind_eq_bind, Option.bind_some]
  rfl

theorem maxTop_lt (hv : v.rendered.Small) : v.maxTop < 2 ^ 63 := by
  have hcount : v.rendered.firstLine + v.rendered.lines.size < 2 ^ 63 := hv
  simp only [maxTop, Snapshot.lineCount]
  omega

/-- The bounds of a clamp are in order, whatever the viewport. -/
theorem clampTop?_eq (hv : v.rendered.Small) (top : Nat) :
    v.clampTop? top = some (v.clampTop top) := by
  simp only [clampTop?, maxTop?_eq hv, Option.bind_eq_bind, Option.bind_some]
  exact clamp?_eq (Nat.le_max_right ..) top

theorem clampTop_lt (hv : v.rendered.Small) (top : Nat) : v.clampTop top < 2 ^ 63 := by
  have hmax := maxTop_lt hv
  have hfirst : v.rendered.firstLine ≤ v.maxTop := Nat.le_max_right ..
  simp only [clampTop]
  omega

theorem isNearBottom?_eq (hv : v.rendered.Small) {top : Nat}
    (hsum : top + v.nearBottom < 2 ^ 64) : v.isNearBottom? top = some (v.isNearBottom top) := by
  simp only [isNearBottom?, sum?_eq hsum, maxTop?_eq hv, Option.bind_eq_bind, Option.bind_some]
  rfl

theorem followBottom?_eq (hv : v.rendered.Small) : v.followBottom? = some v.followBottom := by
  simp only [followBottom?, hv.lineCount?_eq, maxTop?_eq hv, Option.bind_eq_bind, Option.bind_some]
  rfl

theorem renderBottom?_eq (hl : latest.Small) :
    v.renderBottom? latest = some (v.renderBottom latest) := by
  have hfollow := followBottom?_eq (v := (v.render latest).1) hl
  simp only [renderBottom?, hfollow, Option.bind_eq_bind, Option.bind_some]
  rfl

theorem thenBadge?_eq {first : Viewport × List Command} (hv : first.1.rendered.Small)
    (hl : latest.Small) :
    thenBadge? latest first = some (first.1, first.2 ++ [first.1.badge latest]) := by
  simp only [thenBadge?, badge?, unseen?_eq hv hl, Option.map_some, Option.bind_eq_bind,
    Option.bind_some]
  rfl

theorem isReset?_eq (hv : v.rendered.Small) (hl : latest.Small) :
    v.isReset? latest = some (v.isReset latest) := by
  simp only [isReset?, hv.lineCount?_eq, hl.lineCount?_eq, Option.bind_eq_bind, Option.bind_some]
  rfl

theorem update?_eq (hv : v.rendered.Small) (hl : latest.Small) :
    v.update? latest = some (v.update latest) := by
  simp only [update?, update, isReset?_eq hv hl, Option.bind_eq_bind, Option.bind_some]
  cases v.mode with
  | tailing =>
    simp only
    split
    · exact thenBadge?_eq hv hl
    · rw [renderBottom?_eq hl, Option.bind_some]
      exact thenBadge?_eq hl hl
  | paused | jumping target resume =>
    simp only
    split
    · rw [clampTop?_eq (v := (v.render latest).1) hl, Option.bind_some]
      exact thenBadge?_eq hl hl
    · exact thenBadge?_eq hv hl

/-- A position past the largest word is past the text too. -/
theorem scrolledTop?_eq (hv : v.rendered.Small) (delta : Int) :
    v.scrolledTop? delta = some (v.scrolledTop delta) := by
  rw [scrolledTop?, clampTop?_eq hv, scrolledTop]
  have hmax := maxTop_lt hv
  simp only [clampTop]
  congr 1
  omega

theorem scrollBy?_eq (hv : v.rendered.Small) (hl : latest.Small) (hnear : v.nearBottom < 2 ^ 63)
    (delta : Int) : v.scrollBy? delta latest = some (v.scrollBy delta latest) := by
  have hsum : v.scrolledTop delta + v.nearBottom < 2 ^ 64 := by
    have := clampTop_lt hv (v.top + delta).toNat
    simp only [scrolledTop]
    omega
  have hbottom := isNearBottom?_eq hv hsum
  unfold scrollBy? scrollBy
  cases v.mode with
  | jumping target resume => rfl
  | tailing =>
    simp only [scrolledTop?_eq hv, hbottom, Option.bind_eq_bind, Option.bind_some]
    rfl
  | paused =>
    simp only [scrolledTop?_eq hv, hbottom, Option.bind_eq_bind, Option.bind_some]
    split
    · split
      · exact thenBadge?_eq hv hl
      · split
        · rw [followBottom?_eq (v := { v with mode := .tailing, anchor := none }) hv,
            Option.bind_some]
          exact thenBadge?_eq hv hl
        · rw [renderBottom?_eq hl, Option.bind_some]
          exact thenBadge?_eq hl hl
    · rfl

theorem jumpToLatest?_eq (hl : latest.Small) :
    v.jumpToLatest? latest = some (v.jumpToLatest latest) := by
  simp only [jumpToLatest?, hl.lineCount?_eq, renderBottom?_eq hl, Option.bind_eq_bind,
    Option.bind_some]
  exact thenBadge?_eq hl hl

theorem jumpToLine?_eq (hv : v.rendered.Small) (hl : latest.Small) (line : Nat) (flash : Bool) :
    v.jumpToLine? line flash latest = some (v.jumpToLine line flash latest) := by
  have hlacks : v.lacks? line latest = some (v.lacks line latest) := by
    simp only [lacks?, hv.lineCount?_eq, Option.bind_eq_bind, Option.bind_some]
    rfl
  simp only [jumpToLine?, jumpToLine, hlacks, Option.bind_eq_bind, Option.bind_some]
  cases v.lacks line latest with
  | true =>
    rw [if_pos rfl, clampTop?_eq (v := { (v.render latest).1 with
      mode := .jumping line .paused, anchor := some line }) hl, Option.bind_some]
    exact thenBadge?_eq hl hl
  | false =>
    rw [if_neg (by simp), clampTop?_eq (v := { v with
      mode := .jumping line .paused, anchor := some line }) hv, Option.bind_some]
    exact thenBadge?_eq hv hl

theorem finishJump?_eq (hv : v.rendered.Small) (hl : latest.Small) :
    v.finishJump? latest = some (v.finishJump latest) := by
  unfold finishJump? finishJump
  cases v.mode with
  | tailing | paused => rfl
  | jumping target resume =>
    cases resume with
    | paused => rfl
    | tailing =>
      simp only
      split
      · rfl
      · exact update?_eq hv hl

theorem setSelecting?_eq (hl : latest.Small) (active : Bool) :
    v.setSelecting? active latest = some (v.setSelecting active latest) := by
  simp only [setSelecting?, setSelecting]
  split
  · rw [renderBottom?_eq hl, Option.bind_eq_bind, Option.bind_some]
    exact thenBadge?_eq hl hl
  · rfl

theorem setHeight?_eq (hv : v.rendered.Small) (height : Nat) :
    v.setHeight? height = some (v.setHeight height) := by
  simp only [setHeight?, setHeight]
  split
  · rfl
  · split
    · exact followBottom?_eq hv
    · rw [clampTop?_eq (v := { v with height := max height 1 }) hv]
      simp only [Option.bind_eq_bind, Option.bind_some]
      split <;> rfl

theorem restart?_eq (hl : latest.Small) : v.restart? latest = some (v.restart latest) := by
  simp only [restart?, renderBottom?_eq hl, Option.bind_eq_bind, Option.bind_some]
  exact thenBadge?_eq hl hl

end LogTail.Viewport
