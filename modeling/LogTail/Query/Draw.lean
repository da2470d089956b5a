import LogTail.Query.Keymap
import LogTail.Screen.Paragraph

/-!
# The editor on the screen

The editor shows as many lines as there are rows, scrolled so far that the cursor is among them.
With that it is an input for the query.
-/

namespace LogTail.Query

open Screen

namespace Editor

def placeholder : String := "type to search..."

/-- The first place shown of `length` places, when it was `first` before and the cursor has to be
shown. -/
def scrolledTo (first cursor length : Nat) : Nat :=
  if cursor < first then cursor
  else if first + length ≤ cursor then cursor + 1 - length
  else first

/-- Characters from a column on, with tabs as spaces up to the next tab stop. -/
def expandTabs : Nat → List Char → List Char
  | _, [] => []
  | width, c :: rest =>
    if c = '\t' then
      let count := tabStop - width % tabStop
      List.replicate count ' ' ++ expandTabs (width + count) rest
    else c :: expandTabs (width + if Text.isControl c then 0 else Text.charWidth c) rest

def tabWidth (cs : List Char) : Nat := Text.visibleWidth (expandTabs 0 cs)

/-- A line; the cursor, if it is on this line, is shown reversed. -/
def shownLine (line : List Char) (cursor : Option Nat) : StyledLine :=
  let reversed := Style.adding {} Modifiers.reversed
  let span (from_ : List Char) (cs : List Char) (style : Style) : List StyledSpan :=
    if cs.isEmpty then [] else [⟨String.ofList (expandTabs (tabWidth from_) cs), style⟩]
  match cursor with
  | none => ⟨span [] line {}, {}⟩
  | some col =>
    let before := line.take col
    match line.drop col with
    | [] => ⟨span [] before {} ++ [⟨" ", reversed⟩], {}⟩
    | c :: after =>
      ⟨span [] before {} ++ span before [c] reversed ++ span (before ++ [c]) after {}, {}⟩

/-- Draw the editor, which notes what part of it is shown. -/
def draw (editor : Editor) (c : Canvas) (area : Rect) : Canvas × Editor :=
  let draft := editor.draft
  let topRow := scrolledTo editor.topRow draft.row area.height
  let leftCol := scrolledTo editor.leftCol draft.col area.width
  let paragraph : Paragraph :=
    if editor.isEmpty then
      { lines := [⟨[⟨" ", Style.adding {} Modifiers.reversed⟩, ⟨placeholder, {}⟩], {}⟩]
        style := Style.withFg {} .darkGray }
    else
      { lines := ((draft.lines.zipIdx.drop topRow).take area.height).map fun (line, row) =>
          shownLine line (if row = draft.row then some draft.col else none) }
  (Paragraph.draw { paragraph with skip := leftCol } c area,
    { editor with
      topRow := topRow, leftCol := leftCol, width := area.width, height := area.height })

end Editor

instance : Input Editor where
  empty := {}
  lines editor := editor.draft.lines.map String.ofList
  press := Editor.press
  draw := Editor.draw
  lines_empty := rfl
  lines_draw _ _ _ := rfl

end LogTail.Query
