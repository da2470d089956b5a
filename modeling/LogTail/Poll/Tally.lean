import LogTail.Source.FetchError

/-!
# Counting fetches

How many fetches succeeded and failed, how many failed in a row, and the last failure in words.
-/

namespace LogTail.Poll

/-- What a fetch gave: the whole text of the log, or why it failed. -/
abbrev FetchResult := Except FetchError String

structure Tally where
  successes : Nat := 0
  failures : Nat := 0
  consecutiveFailures : Nat := 0
  lastError : Option String := none
  deriving DecidableEq, Repr, Inhabited

def Tally.record (t : Tally) : FetchResult → Tally
  | .ok _ => { t with successes := t.successes + 1, consecutiveFailures := 0 }
  | .error e => { t with
      failures := t.failures + 1
      consecutiveFailures := t.consecutiveFailures + 1
      lastError := some e.message }

/-- Whether the latest fetch failed, so that what is shown may be out of date. -/
def Tally.isStale (t : Tally) : Bool := 0 < t.consecutiveFailures

end LogTail.Poll
