import LogTail.Screen.Canvas

/-!
# Scrollbars

A bar down the right edge of an area: an arrow at each end, and between them a track with a thumb.
The thumb tells which part of the rows is on the screen.
-/

namespace LogTail.Screen

/-- The quotient, rounded to the nearest; a half goes up. -/
def roundDiv (a b : Nat) : Nat := (2 * a + b) / (2 * b)

/-- The place and the length of the thumb in a track, when so many rows are shown, and the first
one shown can be any of `positions` and is `position`. -/
def thumb (track rows positions position : Nat) : Nat × Nat :=
  let last := positions - 1
  let start := min position last
  let all := last + rows
  let first := min (roundDiv (start * track) all) (track - 1)
  let stop := min (roundDiv ((start + rows) * track) all) track
  (first, max (stop - first) 1)

/-- Draw a scrollbar down the right edge of an area. One that has no room for a track is left
out. -/
def drawScrollbar (c : Canvas) (area : Rect) (positions position : Nat) : Canvas :=
  let track := area.height - 2
  if positions = 0 ∨ track = 0 ∨ area.width = 0 then c
  else
    let (first, length) := thumb track area.height positions position
    let x := area.right - 1
    let c := c.put x area.y "▲" {}
    let c := (List.range track).foldl (fun c i =>
      c.put x (area.y + 1 + i) (if first ≤ i ∧ i < first + length then "█" else "║") {}) c
    c.put x (area.bottom - 1) "▼" {}

end LogTail.Screen
