/-!
# Lines of a text

A text is cut after every line feed. The line feed goes, and with it one carriage return in
front of it; what follows the last line feed is a line of its own unless it is empty, and keeps
a carriage return at its end. No other character ends a line.
-/

namespace LogTail.Text

/-- A finished line, given backwards: its line feed is gone, and one carriage return goes too. -/
def closeLine : List Char → String
  | '\r' :: cs => String.ofList cs.reverse
  | cs => String.ofList cs.reverse

/-- The lines of the characters, when `cur` is the current line so far, backwards. -/
def linesFrom : List Char → List Char → Array String → Array String
  | [], [], done => done
  | [], c :: cur, done => done.push (String.ofList (c :: cur).reverse)
  | '\n' :: cs, cur, done => linesFrom cs [] (done.push (closeLine cur))
  | c :: cs, cur, done => linesFrom cs (c :: cur) done

def lines (text : String) : Array String := linesFrom text.toList [] #[]

/-- The lines with a line feed between any two. -/
def joinLines (lines : Array String) : String := "\n".intercalate lines.toList

end LogTail.Text
