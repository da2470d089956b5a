import LogTail.Screen.Canvas

/-!
# Lists of items

Items of one or more rows, one below the other. Only whole items are shown. The list is scrolled
just as far that the selected item is the last one shown, if it would not be shown otherwise.
-/

namespace LogTail.Screen

structure Item where
  lines : List StyledLine
  style : Style := {}

namespace Item

def height (item : Item) : Nat := item.lines.length

/-- The first items that fit into so many rows. -/
def fitting : Nat → List Item → List Item
  | _, [] => []
  | room, item :: rest =>
    if room < item.height then [] else item :: fitting (room - item.height) rest

/-- The items that are shown in so many rows. -/
def shown (rows : Nat) (items : List Item) (selected : Option Nat) : List Item :=
  let first := fitting rows items
  let selected := min (selected.getD 0) (items.length - 1)
  if selected < first.length then first
  else (fitting rows (items.take (selected + 1)).reverse).reverse

end Item

/-- Draw one item at the top of an area. -/
def drawItem (c : Canvas) (area : Rect) (item : Item) : Canvas :=
  let c := c.restyle { area with height := item.height } item.style
  item.lines.zipIdx.foldl (fun c (line, i) => c.drawLine (area.row i) line) c

def drawItems (c : Canvas) (area : Rect) (items : List Item) (selected : Option Nat) : Canvas :=
  if area.isEmpty then c
  else ((Item.shown area.height items selected).foldl (fun (c, area) item =>
    (drawItem c area item, { area with y := area.y + item.height })) (c, area)).1

end LogTail.Screen
