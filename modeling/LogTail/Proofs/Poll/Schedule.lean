import LogTail.Poll.Schedule
import Mathlib.Data.List.Chain
import Mathlib.Data.List.Forall2

/-!
# Fetches keep their pace

A fetch begins at its tick or at the report before it, whichever is later, and moves the next tick
only if it is more than 5 ms late (`nextDue_cases`). Whatever the fetches take, they do not overlap
and do not come in a burst (`follows_runFrom`); and where none takes longer than the interval no
tick is late, so the schedule does not drift (`began_runFrom`).
-/

namespace LogTail.Poll.Pace

variable {pace : Pace} {due now taken : Nat} {fetch : Fetch} {fetches : List Fetch}

/-- How long a fetch lasts: to its end, or until it is cut off. -/
def lasts (pace : Pace) (fetch : Fetch) : Nat := min fetch.takes pace.timeout

/-- A report tells of a fetch: of its own result if it ended in time, and that it was cut off if
not, as soon as it ended or was cut off. -/
structure Tells (pace : Pace) (fetch : Fetch) (report : Report) : Prop where
  sent : report.sent = report.began + pace.lasts fetch
  result : report.result =
    if fetch.takes ≤ pace.timeout then fetch.result
    else .error (.timeout (Duration.ofMillis pace.timeout))

/-- A fetch begins after the report before it, and at most 5 ms sooner than an interval after the
fetch of that report. -/
structure Follows (pace : Pace) (report next : Report) : Prop where
  sent : report.sent ≤ next.began
  apart : report.began + pace.every ≤ next.began + 5

/-! ## One fetch -/

@[simp] theorem reportOf_began (pace : Pace) (began : Nat) (fetch : Fetch) :
    (pace.reportOf began fetch).began = began := by
  unfold reportOf
  split <;> rfl

theorem reportOf_tells (pace : Pace) (began : Nat) (fetch : Fetch) :
    pace.Tells fetch (pace.reportOf began fetch) := by
  unfold reportOf
  split
  · rename_i h
    exact ⟨by rw [lasts, Nat.min_eq_left h], (if_pos h).symm⟩
  · rename_i h
    exact ⟨by rw [lasts, Nat.min_eq_right (by omega)], (if_neg h).symm⟩

/-- **What a tick does to the schedule**: taken in time or a little late it is kept, and taken later
it starts anew. -/
theorem nextDue_cases (pace : Pace) (due taken : Nat) :
    (taken ≤ due + 5 ∧ pace.nextDue due taken = due + pace.every) ∨
    (due + 5 < taken ∧ pace.nextDue due taken = taken + pace.every) := by
  unfold nextDue lateness
  split <;> omega

/-! ## Fetches one after another -/

theorem runFrom_cons (pace : Pace) (due now : Nat) (fetch : Fetch) (fetches : List Fetch) :
    (pace.runFrom due now (fetch :: fetches)).1 =
      pace.reportOf (max due now) fetch ::
        (pace.runFrom (pace.nextDue due (max due now))
          (max due now + pace.lasts fetch) fetches).1 := by
  rw [runFrom, (reportOf_tells pace _ fetch).sent, reportOf_began]

/-- What was reported stays as it was, whatever is fetched later. -/
theorem runFrom_append (fetches later : List Fetch) : ∀ due now : Nat, ∃ more,
    (pace.runFrom due now (fetches ++ later)).1 = (pace.runFrom due now fetches).1 ++ more := by
  induction fetches with
  | nil => exact fun due now => ⟨_, rfl⟩
  | cons fetch fetches ih =>
    intro due now
    obtain ⟨more, hmore⟩ := ih (pace.nextDue due (max due now)) (max due now + pace.lasts fetch)
    exact ⟨more, by rw [List.cons_append, runFrom_cons, runFrom_cons, hmore, List.cons_append]⟩

theorem tells_runFrom (fetches : List Fetch) : ∀ due now : Nat,
    List.Forall₂ pace.Tells fetches (pace.runFrom due now fetches).1 := by
  induction fetches with
  | nil => exact fun due now => .nil
  | cons fetch fetches ih =>
    intro due now
    rw [runFrom_cons]
    exact .cons (reportOf_tells pace _ fetch) (ih _ _)

/-- The first fetch begins when its tick is due, or at once if that is past. -/
theorem began_head (fetches : List Fetch) {report : Report}
    (h : report ∈ (pace.runFrom due now fetches).1.head?) : report.began = max due now := by
  cases fetches with
  | nil => cases h
  | cons fetch fetches =>
    rw [runFrom_cons, List.head?_cons, Option.mem_some_iff] at h
    rw [← h, reportOf_began]

/-- **Fetches neither overlap nor come in a burst.** -/
theorem follows_runFrom (fetches : List Fetch) : ∀ due now : Nat,
    (pace.runFrom due now fetches).1.IsChain pace.Follows := by
  induction fetches with
  | nil => exact fun due now => .nil
  | cons fetch fetches ih =>
    intro due now
    rw [runFrom_cons, List.isChain_cons]
    refine ⟨fun next hnext => ?_, ih _ _⟩
    have hbegan := began_head fetches hnext
    have hsent := (reportOf_tells pace (max due now) fetch).sent
    rw [reportOf_began] at hsent
    constructor
    · rw [hsent, hbegan]
      exact Nat.le_max_right _ _
    · rw [reportOf_began, hbegan]
      rcases nextDue_cases pace due (max due now) with ⟨hsoon, hdue⟩ | ⟨-, hdue⟩ <;> omega

/-- **Where no fetch lasts longer than the interval the schedule does not drift.** -/
theorem began_runFrom (fetches : List Fetch)
    (hshort : ∀ fetch ∈ fetches, pace.lasts fetch ≤ pace.every) : ∀ due now : Nat, now ≤ due →
    ∀ n report, (pace.runFrom due now fetches).1[n]? = some report →
      report.began = due + n * pace.every := by
  induction fetches with
  | nil =>
    intro due now _ n report h
    simp [runFrom] at h
  | cons fetch fetches ih =>
    intro due now hnow n report h
    obtain ⟨hfirst, hrest⟩ := List.forall_mem_cons.1 hshort
    have hbegan : max due now = due := Nat.max_eq_left hnow
    have hdue : pace.nextDue due due = due + pace.every := by
      rcases nextDue_cases pace due due with ⟨-, hdue⟩ | ⟨hlate, -⟩ <;> omega
    rw [runFrom_cons, hbegan, hdue] at h
    cases n with
    | zero =>
      rw [List.getElem?_cons_zero, Option.some.injEq] at h
      rw [← h, reportOf_began, Nat.zero_mul, Nat.add_zero]
    | succ n =>
      rw [List.getElem?_cons_succ] at h
      rw [ih hrest _ _ (by omega) n report h, Nat.succ_mul]
      omega

/-- **Fetches keep their pace**, whatever each of them takes and gives. The reports tell of the
fetches in order, and later fetches change none of them. Each is sent when its fetch ends or is cut
off, with the fetch's own result if that took no longer than the timeout. No fetch begins before the
report of the one before it is sent, or more than 5 ms sooner than an interval after it began. And
if none lasts longer than the interval, each begins at its multiple of the interval. -/
theorem reports_keep_pace (pace : Pace) (fetches : List Fetch) :
    let reports := pace.run fetches
    List.Forall₂ pace.Tells fetches reports ∧
    (∀ later, ∃ more, pace.run (fetches ++ later) = reports ++ more) ∧
    reports.IsChain pace.Follows ∧
    ((∀ fetch ∈ fetches, pace.lasts fetch ≤ pace.every) →
      ∀ n report, reports[n]? = some report → report.began = n * pace.every) := by
  refine ⟨tells_runFrom fetches 0 0, fun later => runFrom_append fetches later 0 0,
    follows_runFrom fetches 0 0, fun hshort n report h => ?_⟩
  rw [began_runFrom fetches hshort 0 0 (Nat.le_refl 0) n report h, Nat.zero_add]

/-- A fetch that fills the interval and one that is cut off at its end leave the third in time. -/
theorem reports_keep_pace_full :
    let pace : Pace := ⟨100, 100⟩
    let fetches : List Fetch := [⟨100, .ok "a"⟩, ⟨250, .ok "b"⟩, ⟨0, .error (.http 502)⟩]
    (∀ fetch ∈ fetches, pace.lasts fetch ≤ pace.every) ∧
    ∃ report, (pace.run fetches)[2]? = some report ∧ report.began = 2 * pace.every := by
  intro pace fetches
  have hshort : ∀ fetch ∈ fetches, pace.lasts fetch ≤ pace.every :=
    fun fetch _ => Nat.min_le_right fetch.takes 100
  obtain ⟨-, -, -, hbegan⟩ := reports_keep_pace pace fetches
  exact ⟨hshort, _, rfl, hbegan hshort 2 _ rfl⟩

/-- A tick that is 5 ms late leaves the schedule as it is, and one that is later moves it. -/
example : ((⟨100, 1000⟩ : Pace).run
    [⟨105, .ok ""⟩, ⟨0, .ok ""⟩, ⟨106, .ok ""⟩, ⟨0, .ok ""⟩, ⟨0, .ok ""⟩]).map (·.began) =
    [0, 105, 200, 306, 406] := by decide

end LogTail.Poll.Pace
