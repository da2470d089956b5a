import LogTail.Proofs.Session.Epochs

/-!
# Switching to another source

A switch checks the source, gives up what is shown, and begins to poll; the source is checked twice,
once before and once after. `switch_all_or_nothing` says that the second check never fails: a
source is refused before anything is given up, and otherwise everything starts afresh.

Scans of before the switch may still be under way, or be finished and wait. Their epochs are over:
epochs only grow (`Tracked.epoch_le_run`), and a switch begins a new one.
-/

namespace LogTail

open Log (Snapshot)
open Search (LiveSearch Scan ScanReport)

/-! ## Epochs only grow -/

namespace Search.LiveSearch

/-- Whatever a search does, and whatever it hears of, it does not go back to an earlier epoch. -/
theorem epoch_invariant (n : Nat) : Invariant fun _ p => n ≤ p.1.epoch where
  turn := by
    intro latest p q hturn _ hn
    cases hturn with
    | renews s scans term => exact Nat.le_succ_of_le hn
    | points | prunes | asks | asksMore => exact hn
  perm hn _ := hn
  lose hn _ := hn
  accept := by
    intro latest s scan scans hn _ _ hcurrent
    obtain ⟨cursor, haccept⟩ := s.accept_eq (show scan.answer.epoch = s.epoch from hcurrent)
    simpa only [haccept] using hn

end Search.LiveSearch

namespace Ensemble

theorem Tracked.epoch_le_step {e : Ensemble} (h : e.Tracked) (st : Step) :
    e.session.search.epoch ≤ (e.step st).1.session.search.epoch :=
  step_invariant (LiveSearch.epoch_invariant e.session.search.epoch) h st (Nat.le_refl _)

theorem Tracked.epoch_le_run (steps : List Step) : ∀ {e : Ensemble}, e.Tracked →
    e.session.search.epoch ≤ (e.run steps).session.search.epoch := by
  induction steps with
  | nil => intro e _; exact Nat.le_refl _
  | cons st steps ih =>
    intro e h
    exact Nat.le_trans (h.epoch_le_step st) (ih (tracked_step h st))

end Ensemble

/-! ## What a switch leaves -/

namespace Session

/-- What a session `s` has become when it shows another source: it polls the source under the next
number, in the next generation, and holds nothing of the old one but the term that is sought. -/
structure Afresh (s : Session) (source : Source) (t : Session) : Prop where
  shows : t.source = source
  seq : t.seq = s.seq + 1
  poller : t.poller = some ⟨source, t.seq, false⟩
  tally : t.tally = {}
  generation : t.snapshot.generation = s.snapshot.generation + 1
  firstLine : t.snapshot.firstLine = 0
  lines : t.snapshot.lines = #[]
  mode : t.viewport.mode = .tailing
  rendered : t.viewport.rendered = t.snapshot
  top : t.viewport.top = 0
  anchor : t.viewport.anchor = none
  selecting : t.viewport.selecting = false
  renderHeld : t.viewport.renderHeld = false
  index : t.search.index = {}
  cursor : t.search.cursor = none
  scanned : t.search.scanned = none
  inFlight : t.search.inFlight = none
  status : t.search.status = .idle
  term : t.search.term = s.search.term
  follows : t.search.generation = t.snapshot.generation
  epoch : t.search.epoch = s.search.epoch + 1

/-- The epoch is over because the search was of the generation that has ended. -/
theorem changeSource_afresh {s : Session} (source : Source)
    (hg : s.search.generation = s.snapshot.generation) :
    s.Afresh source
      { (s.changeSource source).1 with poller := some ⟨source, s.seq + 1, false⟩ } := by
  have hnew : s.buffer.reset.snapshot.generation ≠ s.search.generation := by
    rw [hg]
    exact Nat.succ_ne_self _
  have hsearch : (s.changeSource source).1.search =
      { s.search.restart with generation := s.buffer.reset.snapshot.generation } := if_neg hnew
  have hempty : s.buffer.reset.snapshot.lineCount = 0 := rfl
  constructor
  case top =>
    change max (s.buffer.reset.snapshot.lineCount - s.viewport.height) 0 = 0
    simp [hempty]
  case index | cursor | scanned | inFlight | status | term | follows | epoch =>
    simp only [hsearch]
    rfl
  all_goals rfl

/-- Among its scans a session is left as the switch leaves it, also where the switch is refused. -/
theorem call_switchSource (s : Session) (source : Source) :
    (s.call (.switchSource source)).1 = (s.showSource source).2 := by
  cases hfault : source.fault? with
  | some fault => simp only [call, s.switchSource_of_fault hfault, s.showSource_of_fault hfault]
  | none => simp only [call, s.switchSource_of_none hfault, s.showSource_of_none hfault]

end Session

namespace Ensemble

/-- **A switch is all or nothing.** Whatever has happened, a source is refused and the session is
as it was, or the session starts afresh with it; which of the two is told by the source alone. No
report of a scan that was asked for before the switch is taken in after it, whatever happens. -/
theorem switch_all_or_nothing (settings : Settings) (first : Source) (steps : List Step)
    (source : Source) :
    let e := (new settings first).run steps
    (∃ fault, source.fault? = some fault ∧
      e.session.showSource source = (.error fault, e.session)) ∨
    source.fault? = none ∧ ∃ cmds t,
      e.session.showSource source = (.ok cmds, t) ∧ e.session.Afresh source t ∧
      ∀ earlier scan, earlier <+: steps → scan ∈ ((new settings first).run earlier).scans →
        ∀ (report : ScanReport) (later : List Step), report.epoch = scan.epoch →
          let f := ({ e with session := t } : Ensemble).run later
          f.session.handle (.scanned report) = (f.session, []) := by
  intro e
  have htracked : e.Tracked := tracked_run settings first steps
  cases hfault : source.fault? with
  | some fault => exact Or.inl ⟨fault, rfl, e.session.showSource_of_fault hfault⟩
  | none =>
    refine Or.inr ⟨rfl, _, _, e.session.showSource_of_none hfault,
      e.session.changeSource_afresh source htracked.generation, ?_⟩
    rintro earlier scan ⟨rest, rfl⟩ hscan report later hreport f
    have hswitch : (e.step (.call (.switchSource source))).1 = { e with
        session := { (e.session.changeSource source).1 with
          poller := some ⟨source, e.session.seq + 1, false⟩ } } := by
      simp only [step, e.session.call_switchSource, e.session.showSource_of_none hfault]
    have hbegan : e.session.search.epoch + 1 ≤ f.session.search.epoch := by
      have hlater :=
        Tracked.epoch_le_run later (tracked_step htracked (.call (.switchSource source)))
      rw [hswitch] at hlater
      rwa [(e.session.changeSource_afresh source htracked.generation).epoch] at hlater
    have hpast : scan.epoch ≤ e.session.search.epoch := by
      have hearlier := tracked_run settings first earlier
      have hgrown := Tracked.epoch_le_run rest hearlier
      rw [← run_append] at hgrown
      exact Nat.le_trans (hearlier.tracks.past scan hscan).1 hgrown
    exact Session.handle_scanned_stale (by omega)

/-- A term is sought, and its scan is handed out. -/
def soughtOnce : List Step := [
  .call (.fetched ⟨0, .ok "alpha\nbeta\n"⟩), .call (.editQuery "al" 0), .call (.tick 1000)]

/-- The scan that was handed out before a switch is begun and finished after it, and its report is
turned away. A pod whose name is empty is refused. -/
theorem switch_all_or_nothing_soughtOnce :
    let e := (new {} (.file "a.log")).run soughtOnce
    (e.session.showSource (.k8s "" none none)).2 = e.session ∧
    ∃ scan cmds t, scan ∈ e.scans ∧ e.session.showSource (.file "b.log") = (.ok cmds, t) ∧
      e.session.seq = 0 ∧ t.seq = 1 ∧
      let f := ({ e with session := t } : Ensemble).run [.begin 0, .advance 0]
      f.session.handle (.scanned scan.answer) = (f.session, []) := by
  intro e
  have hscans : e.scans ≠ [] := by decide +kernel
  obtain ⟨scan, hscan⟩ := List.exists_mem_of_ne_nil _ hscans
  refine ⟨?_, ?_⟩
  · rcases switch_all_or_nothing {} (.file "a.log") soughtOnce (.k8s "" none none) with
      ⟨fault, -, h⟩ | ⟨h, -⟩
    · exact congrArg Prod.snd h
    · exact absurd h (by decide)
  · rcases switch_all_or_nothing {} (.file "a.log") soughtOnce (.file "b.log") with
      ⟨fault, h, -⟩ | ⟨-, cmds, t, h, hafresh, hstale⟩
    · exact absurd h (by simp [Source.fault?])
    · exact ⟨scan, cmds, t, hscan, h, by decide +kernel, hafresh.seq.trans (by decide +kernel),
        hstale soughtOnce scan (List.prefix_refl _) hscan scan.answer [.begin 0, .advance 0] rfl⟩

end Ensemble

end LogTail
