import LogTail.Screen.Canvas
import LogTail.Text.Blank

/-!
# Paragraphs

Lines of text in an area: cut off at its right edge, or wrapped between words.

A wrapped line is broken where a word would not fit. The blanks at a break are dropped as far as
they fit on the row that ends there; blanks elsewhere are kept. A word wider than a row is broken
within.
-/

namespace LogTail.Screen

/-- A glyph and how it is shown. -/
structure StyledGlyph where
  glyph : Text.Glyph
  style : Style
  deriving DecidableEq, Repr, Inhabited

namespace StyledGlyph

def width (g : StyledGlyph) : Nat := g.glyph.width

/-- Whether a line may be broken at the glyph. A blank that does not break is no such glyph. -/
def isBlank (g : StyledGlyph) : Bool :=
  g.glyph.text == "\u200b" || (g.glyph.text.toList.all Text.isBlank && g.glyph.text != "\u00a0")

def widthOf (row : List StyledGlyph) : Nat := row.foldl (fun n g => n + g.width) 0

end StyledGlyph

def glyphsOf (line : StyledLine) : List StyledGlyph :=
  line.spans.flatMap fun span =>
    ((Text.glyphs span.text).filter (·.text ≠ "\n")).map (⟨·, line.style.patch span.style⟩)

/-! ## Cutting -/

/-- The part of a line that is shown in `width` columns, once `skip` columns are scrolled off to
the left; `used` columns are taken. A glyph wider than the area is left out, and so is one that
is scrolled off in whole; one that is scrolled off in part is shown. -/
def cut (width : Nat) : Nat → Nat → List StyledGlyph → List StyledGlyph
  | _, _, [] => []
  | skip, used, g :: rest =>
    if width < g.width then cut width skip used rest
    else if width < used + g.width then []
    else if skip = 0 then g :: cut width 0 (used + g.width) rest
    else if skip < g.width then g :: cut width 0 (used + g.width) rest
    else cut width (skip - g.width) used rest

/-! ## Wrapping -/

/-- The state between two glyphs: the rows that are finished, the last one first, the row at hand,
the blanks behind it, and the word behind those. -/
structure Wrapping where
  rows : List (List StyledGlyph) := []
  row : List StyledGlyph := []
  blanks : List StyledGlyph := []
  word : List StyledGlyph := []
  /-- Whether the last glyph was part of a word. -/
  inWord : Bool := false

namespace Wrapping

open StyledGlyph (widthOf)

/-- Drop blanks from the front as far as they fit into `room` columns. -/
def dropBlanks : Nat → List StyledGlyph → List StyledGlyph
  | _, [] => []
  | room, g :: rest => if room < g.width then g :: rest else dropBlanks (room - g.width) rest

/-- Put the blanks and the word at the end of the row. -/
def takeWord (w : Wrapping) : Wrapping :=
  { w with row := w.row ++ w.blanks ++ w.word, blanks := [], word := [] }

def breakRow (width : Nat) (w : Wrapping) : Wrapping :=
  { w with
    rows := w.row :: w.rows
    row := []
    blanks := dropBlanks (width - widthOf w.row) w.blanks }

def push (w : Wrapping) (g : StyledGlyph) : Wrapping :=
  if g.isBlank then { w with blanks := w.blanks ++ [g], inWord := false }
  else { w with word := w.word ++ [g], inWord := true }

/-- Take in a glyph. One wider than a row is left out. -/
def step (width : Nat) (w : Wrapping) (g : StyledGlyph) : Wrapping :=
  if width < g.width then w
  else
    let wordEnds := w.inWord && g.isBlank
    let tooLong := w.row.isEmpty && width < widthOf w.word + widthOf w.blanks + g.width
    let w := if wordEnds || tooLong then w.takeWord else w
    let full := width ≤ widthOf w.row
    let overflows := 0 < g.width && width ≤ widthOf w.row + widthOf w.blanks + widthOf w.word
    if full || overflows then
      let w := w.breakRow width
      if g.isBlank && w.blanks.isEmpty then w else w.push g
    else w.push g

/-- The rows, the first one first. Blanks that are left alone get a row before theirs. -/
def finish (w : Wrapping) : List (List StyledGlyph) :=
  let alone := w.row.isEmpty && w.word.isEmpty && !w.blanks.isEmpty
  let rows := if alone then [] :: w.rows else w.rows
  let last := w.row ++ w.blanks ++ w.word
  let rows := if last.isEmpty then rows else last :: rows
  if rows.isEmpty then [[]] else rows.reverse

end Wrapping

/-- The rows of a line wrapped to a width. -/
def wrap (width : Nat) (glyphs : List StyledGlyph) : List (List StyledGlyph) :=
  if width = 0 then [] else (glyphs.foldl (Wrapping.step width) {}).finish

/-! ## Drawing -/

/-- Lines of text and how they are laid out. -/
structure Paragraph where
  lines : List StyledLine
  /-- How the whole area is shown. -/
  style : Style := {}
  wraps : Bool := false
  /-- Whether rows end at the right edge. -/
  flushRight : Bool := false
  /-- Columns scrolled off to the left. -/
  skip : Nat := 0

namespace Paragraph

def ofText (text : String) (style : Style) : Paragraph where
  lines := [⟨[⟨text, {}⟩], {}⟩]
  style := style

def rows (p : Paragraph) (width : Nat) : List (List StyledGlyph) :=
  if p.wraps then p.lines.flatMap fun line => wrap width (glyphsOf line)
  else p.lines.map fun line => cut width p.skip 0 (glyphsOf line)

/-- Draw a row of glyphs. A glyph of no column is left out. -/
def drawRow (c : Canvas) (x y : Nat) (row : List StyledGlyph) : Canvas :=
  (row.foldl (fun (c, x) g =>
    if g.width = 0 then (c, x) else (c.put x y g.glyph.text g.style, x + g.width)) (c, x)).1

def draw (p : Paragraph) (c : Canvas) (area : Rect) : Canvas :=
  let c := c.restyle area p.style
  if area.isEmpty then c
  else
    (((p.rows area.width).take area.height).zipIdx.foldl (fun c (row, i) =>
      let indent := if p.flushRight then area.width - StyledGlyph.widthOf row else 0
      drawRow c (area.x + indent) (area.y + i) row) c)

end Paragraph

end LogTail.Screen
