import LogTail.Text.Case

/-!
# Log levels

A line's level is told from words in it, in any case; the graver level wins.
-/

namespace LogTail.Log

inductive Level where
  | error
  | warn
  | info
  | debug
  | trace
  | none
  deriving DecidableEq, Repr, Inhabited

/-- Whether a list of characters holds another as a stretch. -/
def holds (needle : List Char) : List Char → Bool
  | [] => needle.isEmpty
  | c :: cs => needle.isPrefixOf (c :: cs) || holds needle cs

/-- The marks of each level, gravest first. -/
def Level.marks : List (Level × List String) := [
  (.error, ["ERROR", "[E]", "ERR]"]),
  (.warn, ["WARN", "[W]", "WRN]"]),
  (.info, ["INFO", "[I]", "INF]"]),
  (.debug, ["DEBUG", "[D]", "DBG]"]),
  (.trace, ["TRACE", "[T]", "TRC]"])]

/-- The level of a line. -/
def Level.ofLine (line : String) : Level :=
  let upper := line.toList.flatMap Text.upperForAscii
  match Level.marks.find? fun (_, words) => words.any fun w => holds w.toList upper with
  | some (level, _) => level
  | Option.none => .none

end LogTail.Log
