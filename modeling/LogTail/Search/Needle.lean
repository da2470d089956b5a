import LogTail.Text.Case

/-!
# Finding a term in a line

A needle is a term folded once. Its occurrences in a line are found from left to right, and one
that is found uses up its characters. An ASCII line is compared by ASCII folding alone, and holds
no needle with a character past ASCII.
-/

namespace LogTail.Search

/-- A stretch of a line, in characters; `stop` is one past its end. -/
structure Span where
  start : Nat
  stop : Nat
  deriving DecidableEq, Repr, Inhabited

/-- A folded term. -/
structure Needle where
  folded : List Char
  deriving DecidableEq, Repr

def Needle.ofTerm (term : String) : Needle := ⟨term.toList.map Text.fold⟩

/-- Whether the line's next characters, each folded, are the needle. -/
def startsWith (foldChar : Char → Char) : List Char → List Char → Bool
  | [], _ => true
  | _ :: _, [] => false
  | n :: needle, c :: cs => foldChar c == n && startsWith foldChar needle cs

/-- The occurrences from offset `pos` on, when the next `skip` characters belong to the last
one found. -/
def spansFrom (foldChar : Char → Char) (needle : List Char) :
    Nat → Nat → List Char → List Span
  | _, _, [] => []
  | skip + 1, pos, _ :: cs => spansFrom foldChar needle skip (pos + 1) cs
  | 0, pos, c :: cs =>
    if startsWith foldChar needle (c :: cs) then
      ⟨pos, pos + needle.length⟩ ::
        spansFrom foldChar needle (needle.length - 1) (pos + 1) cs
    else spansFrom foldChar needle 0 (pos + 1) cs

/-- All occurrences in a line, from left to right and apart; none of the empty needle. -/
def Needle.findSpans (needle : Needle) (line : String) : List Span :=
  let cs := line.toList
  if needle.folded.isEmpty then []
  else if Text.isAscii cs then
    if Text.isAscii needle.folded then spansFrom Text.foldAscii needle.folded 0 0 cs else []
  else spansFrom Text.fold needle.folded 0 0 cs

end LogTail.Search
