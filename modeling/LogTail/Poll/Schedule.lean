import LogTail.Poll.Tally

/-!
# The pace of polling

Fetches run one after another. The first begins at once and each other one at a tick; ticks are
due `every` milliseconds apart. A tick that is taken more than 5 ms late puts off the next one to
`every` after it; a tick taken earlier leaves the schedule as it is. A fetch that takes longer
than `timeout` is cut off there and has failed.
-/

namespace LogTail.Poll

/-- How often to fetch, and how long a fetch may take, in milliseconds. -/
structure Pace where
  every : Nat
  timeout : Nat
  deriving DecidableEq, Repr, Inhabited

/-- A fetch as it goes when left alone. -/
structure Fetch where
  takes : Nat
  result : FetchResult

/-- One fetch in a run: when it began, when it was reported, and what was reported. -/
structure Report where
  began : Nat
  sent : Nat
  result : FetchResult

/-- How late a tick may be taken without moving the schedule. -/
def lateness : Nat := 5

namespace Pace

/-- When the tick after one is due that was due at `due` and taken at `taken`. -/
def nextDue (pace : Pace) (due taken : Nat) : Nat :=
  if due + lateness < taken then taken + pace.every else due + pace.every

/-- The report of a fetch that begins at `began`. -/
def reportOf (pace : Pace) (began : Nat) (fetch : Fetch) : Report :=
  if fetch.takes ≤ pace.timeout then ⟨began, began + fetch.takes, fetch.result⟩
  else ⟨began, began + pace.timeout, .error (.timeout (Duration.ofMillis pace.timeout))⟩

/-- The reports of fetches, when the next tick is due at `due` and the time is `now`; and the
same two times afterwards. -/
def runFrom (pace : Pace) : Nat → Nat → List Fetch → List Report × Nat × Nat
  | due, now, [] => ([], due, now)
  | due, now, fetch :: fetches =>
    let began := max due now
    let report := pace.reportOf began fetch
    let (reports, rest) := runFrom pace (pace.nextDue due began) report.sent fetches
    (report :: reports, rest)

def run (pace : Pace) (fetches : List Fetch) : List Report := (pace.runFrom 0 0 fetches).1

/-- How many ticks are taken at the moment `now`, when the next is due at `due` and fetches take
no time. -/
def ticksAt (pace : Pace) (due now : Nat) : Nat :=
  if _h : due ≤ now ∧ 0 < pace.every then ticksAt pace (pace.nextDue due now) now + 1 else 0
termination_by now + 1 - due
decreasing_by
  unfold nextDue
  split <;> omega

/-- How many further fetches begin at the moment of the last report, if they take no time. -/
def overrun (pace : Pace) (fetches : List Fetch) : Nat :=
  if fetches.isEmpty then 0
  else
    let (_, due, now) := pace.runFrom 0 0 fetches
    pace.ticksAt due now

end Pace

end LogTail.Poll
