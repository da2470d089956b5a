import LogTail.Proofs.Search.Retained
import LogTail.Proofs.Session.Epochs

/-!
# Every match is on a retained line

The index and the buffer change at different times: a text evicts lines before the search takes
notice, and a report tells of a snapshot that is no longer the latest. `Retains` is the invariant
that holds after every step all the same: the entries of the index are in order, and the buffer has
the line of each (`Retains.line?_isSome`).
-/

namespace LogTail

open Log (Buffer Snapshot)
open Search (LiveSearch MatchedLine Scan)
open Search.LiveSearch

namespace Session.Moves

variable {s t : Session} {asked : Option Scan}

/-- No call leaves an entry on an evicted line. -/
theorem pruned (h : Moves s t asked) (hordered : s.search.index.Ordered)
    (hpruned : Pruned s.snapshot s.search) : Pruned t.snapshot t.search := by
  cases h with
  | rests cursor buffer search => rw [search, snapshot, buffer]; exact hpruned
  | takes text changed buffer search =>
    have hfollows : Pruned t.snapshot (s.search.follow t.snapshot).1 := follow_pruned hordered
    rwa [search] at hfollows
  | switches buffer search =>
    intro entry _
    rw [snapshot, buffer]
    exact Nat.zero_le _
  | commits term buffer search =>
    have hcommits := commit_pruned hpruned term
    rw [search] at hcommits
    rwa [snapshot, buffer]
  | clears cursor buffer search =>
    rw [search, snapshot, buffer]
    exact clear_pruned hpruned

/-- The buffer always holds a text, and within a generation the log only gets longer. -/
theorem advances (h : Moves s t asked) {last : String} (hholds : s.buffer.Holds last) :
    (∃ text, t.buffer.Holds text) ∧
    (t.snapshot.generation = s.snapshot.generation → s.snapshot.Advances t.snapshot) := by
  have hstays (hbuffer : t.buffer = s.buffer) : (∃ text, t.buffer.Holds text) ∧
      (t.snapshot.generation = s.snapshot.generation → s.snapshot.Advances t.snapshot) := by
    rw [snapshot, snapshot, hbuffer]
    exact ⟨⟨last, hholds⟩, fun _ => .refl _⟩
  cases h with
  | rests cursor buffer search => exact hstays buffer
  | takes text changed buffer search =>
    rw [snapshot, snapshot, buffer]
    exact ⟨Buffer.apply_holds hholds text, hholds.advances text⟩
  | switches buffer search =>
    rw [snapshot, snapshot, buffer]
    exact ⟨⟨"", hholds.reset⟩, fun hg => absurd hg (Nat.succ_ne_self _)⟩
  | commits term buffer search => exact hstays buffer
  | clears cursor buffer search => exact hstays buffer

end Session.Moves

namespace Ensemble

variable {e : Ensemble}

/-- The entries of the index are in order and on retained lines, and so will be those that the scan
of the current epoch adds. -/
structure Retains (e : Ensemble) : Prop where
  tracked : e.Tracked
  holds : ∃ text, e.session.buffer.Holds text
  lists : Lists e.session.snapshot (e.session.search, e.scans)
  pruned : Pruned e.session.snapshot e.session.search

theorem Retains.ordered (h : e.Retains) : e.session.search.index.Ordered := h.lists.ordered

/-- **The line of every match is there to be shown.** -/
theorem Retains.line?_isSome (h : e.Retains) {entry : MatchedLine}
    (hentry : entry ∈ e.session.search.index.entries.toList) :
    (e.session.snapshot.line? entry.line).isSome = true :=
  Snapshot.line?_isSome.2
    ⟨h.pruned entry hentry, h.lists.counted h.tracked.generation entry hentry⟩

theorem retains_new (settings : Settings) (source : Source) : (new settings source).Retains where
  tracked := tracked_new settings source
  holds := ⟨"", Buffer.holds_empty _⟩
  lists := lists_idle _ _
  pruned := pruned_empty rfl

/-- The buffer holds a text after every step, and its snapshot advances within a generation. -/
theorem step_advances (h : e.Tracked) {text : String} (hholds : e.session.buffer.Holds text)
    (st : Step) : (∃ last, (e.step st).1.session.buffer.Holds last) ∧
    ((e.step st).1.session.snapshot.generation = e.session.snapshot.generation →
      e.session.snapshot.Advances (e.step st).1.session.snapshot) := by
  have hmoves := step_moves h.sound st
  generalize (e.step st).1 = f at hmoves
  cases hmoves with
  | calls moves scans => exact moves.advances hholds
  | loses scan stale session scans =>
    rw [session]
    exact ⟨⟨text, hholds⟩, fun _ => .refl _⟩
  | hears scan rest current buffer search before scans =>
    rw [Session.snapshot, Session.snapshot, buffer]
    exact ⟨⟨text, hholds⟩, fun _ => .refl _⟩

theorem step_pruned (h : e.Tracked) (hordered : e.session.search.index.Ordered)
    (hpruned : Pruned e.session.snapshot e.session.search) (st : Step) :
    Pruned (e.step st).1.session.snapshot (e.step st).1.session.search := by
  have hmoves := step_moves h.sound st
  generalize (e.step st).1 = f at hmoves
  cases hmoves with
  | calls moves scans => exact moves.pruned hordered hpruned
  | loses scan stale session scans => rw [session]; exact hpruned
  | hears scan rest current buffer search before scans =>
    have hfollows : Pruned e.session.snapshot _ := follow_pruned (accept_index hordered current).1
    rw [search] at hfollows
    rwa [show f.session.snapshot = e.session.snapshot from congrArg (·.snapshot) buffer]

theorem retains_step (h : e.Retains) (st : Step) : (e.step st).1.Retains := by
  obtain ⟨text, hholds⟩ := h.holds
  obtain ⟨hlast, hadvances⟩ := step_advances h.tracked hholds st
  have hlater := h.lists.later h.tracked.generation hadvances
  exact ⟨tracked_step h.tracked st, hlast, step_invariant lists_invariant h.tracked st hlater,
    step_pruned h.tracked h.ordered h.pruned st⟩

theorem retains_run (settings : Settings) (source : Source) (steps : List Step) :
    ((new settings source).run steps).Retains :=
  run_induction (retains_new settings source) (fun _ st h => retains_step h st) steps

end Ensemble

end LogTail
