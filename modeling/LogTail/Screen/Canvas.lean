import LogTail.Screen.Rect
import LogTail.Style.Basic
import LogTail.Text.Glyph

/-!
# Canvases

A canvas is what a frame is drawn on: rows of cells. A glyph of more than one column stands in the
first of its cells, and covers the cell behind it, even where that begins the next row. A write
outside the canvas is lost.
-/

namespace LogTail.Screen

structure Cell where
  symbol : String := " "
  fg : Color := .reset
  bg : Color := .reset
  modifiers : Modifiers := 0
  deriving DecidableEq, Repr, Inhabited

namespace Cell

def restyle (cell : Cell) (style : Style) : Cell :=
  { cell with
    fg := style.fg.getD cell.fg
    bg := style.bg.getD cell.bg
    modifiers := Modifiers.minus (cell.modifiers ||| style.add) style.sub }

def put (cell : Cell) (symbol : String) (style : Style) : Cell :=
  { cell with symbol := symbol }.restyle style

/-- Put a symbol behind the one that is there. -/
def append (cell : Cell) (symbol : String) (style : Style) : Cell :=
  cell.put (cell.symbol ++ symbol) style

end Cell

/-- A canvas; the cells go row by row. -/
structure Canvas where
  width : Nat
  height : Nat
  cells : Array Cell
  deriving Repr

namespace Canvas

def blank (width height : Nat) : Canvas where
  width := width
  height := height
  cells := Array.replicate (width * height) {}

def area (c : Canvas) : Rect := ⟨0, 0, c.width, c.height⟩

def rows (c : Canvas) : List (List Cell) :=
  (List.range c.height).map fun y => (c.cells.extract (y * c.width) ((y + 1) * c.width)).toList

/-- Whether a cell lies below a glyph that begins in the cell before it. -/
def isCovered (c : Canvas) (i : Nat) : Bool :=
  0 < i && 1 < Text.textWidth (c.cells.getD (i - 1) {}).symbol

/-- What a terminal shows of the canvas: a covered cell stays blank. -/
def shown (c : Canvas) : Canvas :=
  { c with cells := c.cells.mapIdx fun i cell => if c.isCovered i then {} else cell }

def modify (c : Canvas) (x y : Nat) (f : Cell → Cell) : Canvas :=
  if x < c.width ∧ y < c.height then { c with cells := c.cells.modify (y * c.width + x) f } else c

def modifyArea (c : Canvas) (r : Rect) (f : Cell → Cell) : Canvas :=
  (List.range r.height).foldl (fun c i =>
    (List.range r.width).foldl (fun c j => c.modify (r.x + j) (r.y + i) f) c) c

def restyle (c : Canvas) (r : Rect) (style : Style) : Canvas :=
  c.modifyArea r (·.restyle style)

/-- Take everything off an area. -/
def clear (c : Canvas) (r : Rect) : Canvas := c.modifyArea r fun _ => {}

def put (c : Canvas) (x y : Nat) (symbol : String) (style : Style) : Canvas :=
  c.modify x y (·.put symbol style)

/-- Draw a span from the left of a row of cells on, as far as whole glyphs fit. A glyph of no
column joins the symbol before it; the cells below a wide glyph are emptied. -/
def drawSpan (c : Canvas) (row : Rect) (span : StyledSpan) : Canvas :=
  let rec go (c : Canvas) (x : Nat) (first : Bool) : List Text.Glyph → Canvas
    | [] => c
    | glyph :: rest =>
      if row.right < x + glyph.width then c
      else
        let c :=
          if first then c.put x row.y glyph.text span.style
          else if x = row.x then c.modify x row.y (·.append glyph.text span.style)
          else if glyph.width = 0 then c.modify (x - 1) row.y (·.append glyph.text span.style)
          else c.put x row.y glyph.text span.style
        go (c.clear ⟨x + 1, row.y, glyph.width - 1, 1⟩) (x + glyph.width) false rest
  if row.isEmpty then c else go c row.x true ((Text.glyphs span.text).filter (·.text ≠ "\n"))

def drawSpans (c : Canvas) (row : Rect) (spans : List StyledSpan) : Canvas :=
  (spans.foldl (fun (c, row) span =>
    (c.drawSpan row span, row.dropLeft (Text.textWidth span.text))) (c, row)).1

/-- Draw a line over a row of cells. The style of the line holds for the whole row. -/
def drawLine (c : Canvas) (row : Rect) (line : StyledLine) : Canvas :=
  if line.spans.all fun span => Text.textWidth span.text = 0 then c
  else (c.restyle row line.style).drawSpans row
    (line.spans.filter fun span => Text.textWidth span.text ≠ 0)

/-! ## Small laws -/

@[simp] theorem size_shown (c : Canvas) : c.shown.cells.size = c.cells.size := by
  simp [shown]

/-- A cell that is not covered is shown as it is. -/
theorem shown_of_not_covered (c : Canvas) {i : Nat} (h : c.isCovered i = false) :
    c.shown.cells[i]? = c.cells[i]? := by
  simp [shown, h]

end Canvas

end LogTail.Screen
