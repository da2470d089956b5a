import LogTail.Proofs.Search.Active
import LogTail.Proofs.Session.Query
import LogTail.Proofs.Session.Retained

/-!
# The active match of a session

Fetches and scans come when they come, and each changes the index under the reader. In every run
the active match is on the same line after each of them, or there is none because that line is no
longer matched; and the next and the previous match are those next to it.
-/

namespace LogTail

open Log (Snapshot)
open Search (LiveSearch)
open Search.LiveSearch

/-- The session hears of a fetch or of a scan. -/
def Step.Reports : Step → Prop
  | .call (.fetched _) | .deliver _ => True
  | _ => False

theorem Session.navigate_search (s : Session) (direction : Search.Direction) :
    (s.navigate direction).1.search = (s.search.navigate direction).2 := by
  unfold navigate
  split
  · rename_i h
    rw [h]
  · rename_i h
    rw [h]
    rfl

namespace Ensemble

variable {e : Ensemble}

theorem fetched_stays (h : e.Retains) (report : FetchReport) :
    let t := (e.session.onFetched report).1
    Stays t.snapshot e.session.search t.search := by
  rcases e.session.onFetched_cases report with
    ⟨tally, hsame, -⟩ | ⟨text, tally, segments, -, -, -, htakes⟩
  · simp only [hsame]
    exact .refl _ _
  · simp only [htakes]
    exact follow_stays h.ordered _

theorem deliver_stays (h : e.Retains) (i : Nat) :
    let t := (e.deliver i).1.session
    Stays t.snapshot e.session.search t.search := by
  unfold deliver
  split
  · exact .refl _ _
  · rename_i scan report hi
    have hfinished : (scan, report) ∈ e.finished := List.mem_of_getElem? hi
    obtain rfl : report = scan.answer := h.tracked.sound.finished _ hfinished
    by_cases hcurrent : scan.epoch = e.session.search.epoch
    · have hscan : scan ∈ e.scans :=
        List.mem_append_right _ (List.mem_map_of_mem (f := Prod.fst) hfinished)
      obtain ⟨hsearch, -⟩ := Session.handle_scanned_current
        (show scan.answer.epoch = e.session.search.epoch from hcurrent)
      have hsnapshot : (e.session.handle (.scanned scan.answer)).1.snapshot = e.session.snapshot :=
        congrArg (·.snapshot) (e.session.handle_scanned_fst scan.answer).1
      simp only [hsearch, hsnapshot]
      exact hear_stays h.lists h.tracked.tracks h.tracked.generation hscan hcurrent
    · have hstale : scan.answer.epoch ≠ e.session.search.epoch := hcurrent
      simp only [Session.handle_scanned_stale hstale]
      exact .refl _ _

theorem step_stays (h : e.Retains) {st : Step} (hst : st.Reports) :
    let t := (e.step st).1.session
    Stays t.snapshot e.session.search t.search := by
  cases st with
  | call c =>
    cases c with
    | fetched report => exact fetched_stays h report
    | _ => exact absurd hst id
  | deliver i => exact deliver_stays h i
  | begin i => exact absurd hst id
  | advance i => exact absurd hst id

/-- **The active match never silently moves, and navigation goes on from it.** In every run the
cursor is a position among the matched lines. A fetch or a report of a scan leaves it on the line
where it was, or takes it away because that line is no longer matched: the log began anew, the line
was evicted, or it was scanned again and does not hold the term. From the active line the next
match is the smallest matched line above it, or else the first one, and the previous match the
largest one below it, or else the last one. -/
theorem active_match_stays (settings : Settings) (source : Source) (steps : List Step) :
    let e := (new settings source).run steps
    let s := e.session.search
    (∀ position, s.cursor = some position → position < s.index.lineOrder.size) ∧
    (∀ st : Step, st.Reports →
      let f := (e.step st).1.session
      let t := f.search
      (t.cursor = none ∨ ∃ line, s.activeLine? = some line ∧ t.activeLine? = some line) ∧
      (∀ line, s.activeLine? = some line → t.cursor = none →
        line ∉ t.index.lineOrder ∧ Drops f.snapshot s t line)) ∧
    (∀ direction, (e.session.navigate direction).1.search.activeLine? =
      neighbour? s.index.lineOrder.toList s.activeLine? direction) := by
  have hretains := retains_run settings source steps
  have htuned := tuned_run settings source steps
  generalize (new settings source).run steps = e at hretains htuned
  refine ⟨fun position hposition => ?_, fun st hst => ?_, fun direction => ?_⟩
  · rw [← Array.length_toList, Search.MatchIndex.length_lineOrder]
    exact htuned.points position hposition
  · exact (step_stays hretains hst).cursor (tuned_step htuned st).points
  · rw [Session.navigate_search]
    exact navigate_activeLine? hretains.ordered htuned.points direction

end Ensemble

end LogTail
