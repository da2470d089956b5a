import LogTail.Text.Blank
import LogTail.Text.Width

/-!
# An editor

A small text editor to type the query into: lines of text with a cursor, words, undo and redo, and a
place for the text that was cut last.

The history holds the latest fifty changes. Each one keeps the draft before it, with the cursor
where undoing it puts it, and the draft after it.
-/

namespace LogTail.Query

/-- Lines of text, and a cursor in them. -/
structure Draft where
  lines : List (List Char) := [[]]
  row : Nat := 0
  col : Nat := 0
  deriving DecidableEq, Repr, Inhabited

namespace Draft

def lineAt (d : Draft) (row : Nat) : List Char := d.lines.getD row []

/-- The line with the cursor. -/
def line (d : Draft) : List Char := d.lineAt d.row

def setLine (d : Draft) (line : List Char) : Draft := { d with lines := d.lines.set d.row line }

/-- Put the cursor on a line, as far to the right as it was if the line is long enough. -/
def onRow (d : Draft) (row : Nat) : Draft :=
  { d with row := row, col := min d.col (d.lineAt row).length }

/-! ## Changes -/

/-- Put characters in at the cursor. -/
def insert (d : Draft) (cs : List Char) : Draft :=
  { d.setLine (d.line.take d.col ++ cs ++ d.line.drop d.col) with col := d.col + cs.length }

def breakLine (d : Draft) : Draft where
  lines := d.lines.take d.row ++ [d.line.take d.col, d.line.drop d.col] ++ d.lines.drop (d.row + 1)
  row := d.row + 1
  col := 0

/-- Join the line with the cursor to the one before it, which there must be. -/
def joinLine (d : Draft) : Draft where
  lines := d.lines.take (d.row - 1) ++ [d.lineAt (d.row - 1) ++ d.line] ++ d.lines.drop (d.row + 1)
  row := d.row - 1
  col := (d.lineAt (d.row - 1)).length

/-- Take the characters from column `first` up to column `stop` out of the line. -/
def cut (d : Draft) (first stop : Nat) : Draft :=
  { d.setLine (d.line.take first ++ d.line.drop stop) with col := first }

/-! ## Words -/

/-- Blanks, punctuation and all else; a word is a run of one of the last two kinds. -/
inductive CharKind where
  | blank
  | punctuation
  | other
  deriving DecidableEq, Repr

/-- The kind of a character. Punctuation is that of ASCII. -/
def charKind (c : Char) : CharKind :=
  if Text.isBlank c then .blank
  else if '!' ≤ c ∧ c ≤ '~' ∧ !c.isAlphanum then .punctuation
  else .other

/-- How many characters to the next place in front of which a character of a word differs in kind
from the one before it. -/
def toWordStart? : List Char → Option Nat
  | a :: b :: rest =>
    if charKind b ≠ .blank ∧ charKind a ≠ charKind b then some 1
    else (toWordStart? (b :: rest)).map (· + 1)
  | _ => none

/-- How many characters to the end of the next word, if something is behind it. -/
def toWordEnd? : List Char → Option Nat
  | a :: b :: rest =>
    if charKind a ≠ .blank ∧ charKind a ≠ charKind b then some 1
    else (toWordEnd? (b :: rest)).map (· + 1)
  | _ => none

/-- How many characters to the end of the first word of a line, whatever is behind it. -/
def toWordEndOrEnd? : List Char → Option Nat
  | [] => none
  | [a] => if charKind a ≠ .blank then some 1 else none
  | a :: b :: rest =>
    if charKind a ≠ .blank ∧ charKind a ≠ charKind b then some 1
    else (toWordEndOrEnd? (b :: rest)).map (· + 1)

/-- The column where the word before the cursor starts. -/
def wordBefore? (d : Draft) : Option Nat :=
  (toWordEndOrEnd? (d.line.take d.col).reverse).map (d.col - ·)

/-- The column where the next word starts. -/
def wordAfter? (d : Draft) : Option Nat := (toWordStart? (d.line.drop d.col)).map (d.col + ·)

/-- The column where the next word ends, if something is behind it. -/
def wordEndAfter? (d : Draft) : Option Nat := (toWordEnd? (d.line.drop d.col)).map (d.col + ·)

/-! ## Moves -/

/-- The row of the next paragraph below `row`: a line with text behind an empty one. -/
def paragraphBelow (lines : List (List Char)) (row : Nat) : Nat :=
  ((List.range lines.length).find? fun i =>
    row < i && !(lines.getD i []).isEmpty && (lines.getD (i - 1) []).isEmpty).getD
    (lines.length - 1)

/-- The row of the paragraph above `row`: a line with text behind an empty one. -/
def paragraphAbove (lines : List (List Char)) (row : Nat) : Nat :=
  ((List.range lines.length).reverse.find? fun i =>
    0 < i && i < row && !(lines.getD i []).isEmpty && (lines.getD (i - 1) []).isEmpty).getD 0

end Draft

inductive Move where
  | forward
  | back
  | up
  | down
  | head
  | tail
  | top
  | bottom
  | wordForward
  | wordBack
  | paragraphForward
  | paragraphBack
  deriving DecidableEq, Repr

def Draft.move (d : Draft) : Move → Draft
  | .forward =>
    if d.col < d.line.length then { d with col := d.col + 1 }
    else if d.row + 1 < d.lines.length then { d with row := d.row + 1, col := 0 }
    else d
  | .back =>
    if 0 < d.col then { d with col := d.col - 1 }
    else if 0 < d.row then { d with row := d.row - 1, col := (d.lineAt (d.row - 1)).length }
    else d
  | .up => if 0 < d.row then d.onRow (d.row - 1) else d
  | .down => if d.row + 1 < d.lines.length then d.onRow (d.row + 1) else d
  | .head => { d with col := 0 }
  | .tail => { d with col := d.line.length }
  | .top => d.onRow 0
  | .bottom => d.onRow (d.lines.length - 1)
  | .wordForward =>
    match d.wordAfter? with
    | some col => { d with col := col }
    | none =>
      if d.row + 1 < d.lines.length then { d with row := d.row + 1, col := 0 }
      else { d with col := d.line.length }
  | .wordBack =>
    match d.wordBefore? with
    | some col => { d with col := col }
    | none =>
      if 0 < d.row then { d with row := d.row - 1, col := (d.lineAt (d.row - 1)).length }
      else { d with col := 0 }
  | .paragraphForward => d.onRow (Draft.paragraphBelow d.lines d.row)
  | .paragraphBack => if 0 < d.row then d.onRow (Draft.paragraphAbove d.lines d.row) else d

/-- A change: the draft that undoing it gives back, and the draft it made. -/
structure Change where
  before : Draft
  after : Draft
  deriving DecidableEq, Repr, Inhabited

def historyLimit : Nat := 50

def tabStop : Nat := 4

inductive Action where
  | insert (c : Char)
  | breakLine
  | tab
  | deleteBack
  | deleteForward
  | deleteToEnd
  | deleteToHead
  | deleteWordBack
  | deleteWordForward
  | paste
  | undo
  | redo
  | move (move : Move)
  | pageUp
  | pageDown
  deriving DecidableEq, Repr

/-- The input: the draft, its history, the text cut last, and the part of it that was on the
screen when it was last drawn. -/
structure Editor where
  draft : Draft := {}
  /-- The changes that can be undone, the last one first. -/
  past : List Change := []
  /-- The changes that can be redone, the next one first. -/
  future : List Change := []
  cut : List Char := []
  topRow : Nat := 0
  leftCol : Nat := 0
  width : Nat := 0
  height : Nat := 0
  deriving Repr, Inhabited

namespace Editor

def isEmpty (e : Editor) : Bool := e.draft.lines == [[]]

/-- Make a change that undoing turns into `before`. -/
def change (e : Editor) (before after : Draft) : Editor :=
  let past := if e.past.length + e.future.length = historyLimit then e.past.dropLast else e.past
  { e with draft := after, past := ⟨before, after⟩ :: past, future := [] }

/-- Join the line with the cursor to the one before it; tells whether there is one. -/
def joinLine (e : Editor) : Bool × Editor :=
  if e.draft.row = 0 then (false, e)
  else (true, e.change { e.draft with col := 0 } e.draft.joinLine)

/-- Take a part of the line with the cursor out and keep it; tells whether it has a character. -/
def cutPiece (e : Editor) (first stop : Nat) : Bool × Editor :=
  let d := e.draft
  let stop := min stop d.line.length
  if stop ≤ first then (false, e)
  else
    (true, { e.change { d with col := stop } (d.cut first stop) with
      cut := (d.line.take stop).drop first })

def deleteBack (e : Editor) : Bool × Editor :=
  if e.draft.col = 0 then e.joinLine
  else if e.draft.line.length < e.draft.col then (false, e)
  else (true, e.change e.draft (e.draft.cut (e.draft.col - 1) e.draft.col))

def deleteForward (e : Editor) : Bool × Editor :=
  let next := e.draft.move .forward
  if next = e.draft then (false, e) else deleteBack { e with draft := next }

/-- Put text in at the cursor; tells whether there is any. -/
def insertText (e : Editor) (cs : List Char) : Bool × Editor :=
  if cs.isEmpty then (false, e) else (true, e.change e.draft (e.draft.insert cs))

/-- Scroll, and put the cursor into the part that is shown then. -/
def scrollTo (e : Editor) (topRow : Nat) : Editor :=
  let d := e.draft
  let row := min (max topRow (min d.row (topRow + e.height - 1))) (d.lines.length - 1)
  let col := max e.leftCol (min d.col (e.leftCol + e.width - 1))
  { e with topRow := topRow, draft := { d with col := col }.onRow row }

/-- The spaces from the cursor to the next tab stop. -/
def tabSpaces (d : Draft) : List Char :=
  let width := Text.visibleWidth (d.line.take d.col)
  List.replicate (tabStop - width % tabStop) ' '

/-- Do something; tells whether the text was changed. -/
def apply (e : Editor) : Action → Bool × Editor
  | .insert c => (true, e.change e.draft (e.draft.insert [c]))
  | .breakLine => (true, e.change e.draft e.draft.breakLine)
  | .tab => e.insertText (tabSpaces e.draft)
  | .deleteBack => e.deleteBack
  | .deleteForward => e.deleteForward
  | .deleteToEnd =>
    match e.cutPiece e.draft.col e.draft.line.length with
    | (true, e) => (true, e)
    | (false, e) => e.deleteForward
  | .deleteToHead =>
    match e.cutPiece 0 e.draft.col with
    | (true, e) => (true, e)
    | (false, e) => e.joinLine
  | .deleteWordBack =>
    match e.draft.wordBefore? with
    | some col => e.cutPiece col e.draft.col
    | none => if 0 < e.draft.col then e.cutPiece 0 e.draft.col else e.joinLine
  | .deleteWordForward =>
    match e.draft.wordEndAfter? with
    | some col => e.cutPiece e.draft.col col
    | none =>
      if e.draft.col < e.draft.line.length then e.cutPiece e.draft.col e.draft.line.length
      else if e.draft.row + 1 < e.draft.lines.length then
        joinLine { e with draft := { e.draft with row := e.draft.row + 1, col := 0 } }
      else (false, e)
  | .paste => e.insertText e.cut
  | .undo =>
    match e.past with
    | [] => (false, e)
    | change :: past =>
      (true, { e with draft := change.before, past := past, future := change :: e.future })
  | .redo =>
    match e.future with
    | [] => (false, e)
    | change :: future =>
      (true, { e with draft := change.after, past := change :: e.past, future := future })
  | .move move => (false, { e with draft := e.draft.move move })
  | .pageUp => (false, e.scrollTo (e.topRow - e.height))
  | .pageDown => (false, e.scrollTo (e.topRow + e.height))

end Editor

end LogTail.Query
