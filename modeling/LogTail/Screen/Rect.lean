/-!
# Areas of the screen
-/

namespace LogTail.Screen

/-- An area: its left and top edge, and its size, in cells. -/
structure Rect where
  x : Nat
  y : Nat
  width : Nat
  height : Nat
  deriving DecidableEq, Repr, Inhabited

namespace Rect

/-- One past the last column. -/
def right (r : Rect) : Nat := r.x + r.width

/-- One past the last row. -/
def bottom (r : Rect) : Nat := r.y + r.height

def isEmpty (r : Rect) : Bool := r.width == 0 || r.height == 0

def row (r : Rect) (i : Nat) : Rect := ⟨r.x, r.y + i, r.width, 1⟩

/-- The area without its first `n` columns. -/
def dropLeft (r : Rect) (n : Nat) : Rect := { r with x := r.x + n, width := r.width - n }

/-- The area inside a line along its left edge. -/
def insideLeft (r : Rect) : Rect := ⟨min (r.x + 1) r.right, r.y, r.width - 1, r.height⟩

/-- The area inside a box. -/
def insideBox (r : Rect) : Rect :=
  ⟨min (r.x + 1) r.right, min (r.y + 1) r.bottom, r.width - 2, r.height - 2⟩

end Rect

end LogTail.Screen
