import LogTail.Screen.Canvas

/-!
# Boxes and lines around areas
-/

namespace LogTail.Screen.Canvas

def drawLeftLine (c : Canvas) (r : Rect) (style : Style) : Canvas :=
  if r.isEmpty then c
  else (List.range r.height).foldl (fun c i => c.put r.x (r.y + i) "│" style) c

/-- Draw a box along the edges of an area, with a title in its upper edge. -/
def drawBox (c : Canvas) (r : Rect) (title : String) (style : Style) : Canvas :=
  if r.isEmpty then c
  else
    let left := r.x
    let right := r.right - 1
    let top := r.y
    let bottom := r.bottom - 1
    let across (c : Canvas) (y : Nat) : Canvas :=
      (List.range r.width).foldl (fun c i => c.put (left + i) y "─" style) c
    let down (c : Canvas) (x : Nat) : Canvas :=
      (List.range r.height).foldl (fun c i => c.put x (top + i) "│" style) c
    let c := across (down (across (down c left) top) right) bottom
    let c := c.put right bottom "┘" style
    let c := c.put right top "┐" style
    let c := c.put left bottom "└" style
    let c := c.put left top "┌" style
    let width := min (Text.textWidth title) (r.width - 2)
    c.drawSpan ⟨left + 1, top, width, 1⟩ ⟨title, {}⟩

end LogTail.Screen.Canvas
