import LogTail.Proofs.Session.Cards
import LogTail.Proofs.Session.Viewport
import LogTail.Proofs.Settings.Range
import LogTail.Proofs.Words.Session
import Mathlib.Data.List.Induction
import Mathlib.Data.List.Perm.Subperm

/-!
# An ensemble in words

A step of a small ensemble that leaves not too many lines and matches has its result in words
(`step?_eq`). That an ensemble is small at every moment of a run comes down to the lines of the
latest text (`small_run`): what the screen shows and what the scans look at was the latest text at
some time, and the index has at most one entry for each line. The rest are settings that no step
changes.
-/

namespace LogTail

open Display (Command)
open Log (Snapshot)
open Search (LiveSearch RunningScan Scan)
open Words

/-! ## The snapshots of a search -/

namespace Search.LiveSearch

variable {latest : Snapshot}

/-- The latest snapshot is small, and so are those that were looked at or are to be looked at. -/
structure Sized (latest : Snapshot) (p : LiveSearch × List Scan) : Prop where
  latest : latest.Small
  scanned : ∀ old, p.1.scanned = some old → old.Small
  scans : ∀ scan ∈ p.2, scan.snapshot.Small

/-- The latest snapshot is to be looked at too. -/
theorem Sized.ask {s : LiveSearch} {scans : List Scan} (h : Sized latest (s, scans))
    {t : LiveSearch} {scan : Scan} (scanned : t.scanned = s.scanned)
    (hsnapshot : scan.snapshot = latest) : Sized latest (t, scans ++ [scan]) where
  latest := h.latest
  scanned old hold := h.scanned old (scanned ▸ hold)
  scans a ha := by
    rw [List.mem_append, List.mem_singleton] at ha
    rcases ha with ha | rfl
    · exact h.scans a ha
    · exact hsnapshot ▸ h.latest

theorem Turn.sized {p q : LiveSearch × List Scan} (h : Turn latest p q) (hp : Sized latest p) :
    Sized latest q := by
  cases h with
  | points s scans cursor => exact ⟨hp.latest, hp.scanned, hp.scans⟩
  | renews s scans term => exact ⟨hp.latest, by simp [restart], hp.scans⟩
  | prunes s scans cursor generation => exact ⟨hp.latest, hp.scanned, hp.scans⟩
  | asks s scans generation term inFlight fresh => exact hp.ask rfl rfl
  | asksMore s scans generation term inFlight status old scanned differs => exact hp.ask rfl rfl

theorem sized_invariant : Invariant Sized where
  turn hturn _ h := hturn.sized h
  perm h hperm := ⟨h.latest, h.scanned, fun scan hscan => h.scans scan (hperm.mem_iff.1 hscan)⟩
  lose h _ := ⟨h.latest, h.scanned, fun a ha => h.scans a (List.mem_cons_of_mem _ ha)⟩
  accept {latest s scan scans} h _ _ hcurrent := by
    obtain ⟨cursor, haccept⟩ := s.accept_eq (show scan.answer.epoch = s.epoch from hcurrent)
    refine ⟨h.latest, ?_, fun a ha => h.scans a (List.mem_cons_of_mem _ ha)⟩
    rw [haccept]
    rintro old hold
    cases hold
    exact h.scans scan (List.mem_cons_self ..)

end Search.LiveSearch

namespace Ensemble

variable {e : Ensemble}

/-! ## Steps -/

def begin? (e : Ensemble) (i : Nat) : Option Ensemble :=
  match e.session.work[i]? with
  | none => some e
  | some work => do
    let begun ← work.scan?.toList.mapM Scan.start?
    return { e with
      session := { e.session with work := e.session.work.eraseIdx i }
      running := e.running ++ begun }

def deliver? (e : Ensemble) (i : Nat) : Option (Ensemble × List Command) :=
  match e.finished[i]? with
  | none => some (e, [])
  | some (_, report) => do
    let (s, cmds) ← e.session.onScanned? report
    return ({ e with session := s, finished := e.finished.eraseIdx i }, cmds)

/-- Take a step. A scan that looks at lines does not count any. -/
def step? (e : Ensemble) : Step → Option (Ensemble × List Command)
  | .call c => do
    let (s, cmds) ← e.session.call? c
    return ({ e with session := s }, cmds)
  | .begin i => (e.begin? i).map fun e => (e, [])
  | .advance i => some (e.advance i, [])
  | .deliver i => e.deliver? i

/-- Session and scans count nothing near the largest word. -/
structure Small (e : Ensemble) : Prop where
  session : e.session.Small
  scans : ∀ scan ∈ e.scans, scan.snapshot.Small

theorem begin?_eq (h : e.Small) (i : Nat) : e.begin? i = some (e.begin i) := by
  unfold begin? begin
  cases hi : e.session.work[i]? with
  | none => rfl
  | some work =>
    have hbegun : ∀ scan ∈ work.scan?.toList, scan.start? = some scan.start := by
      intro scan hscan
      have hmem : scan ∈ e.scans := by
        refine List.mem_append_left _ (List.mem_append_left _ ?_)
        exact List.mem_filterMap.2 ⟨work, List.mem_of_getElem? hi, Option.mem_toList.1 hscan⟩
      exact Scan.start?_eq (h.scans scan hmem)
    simp only [mapM_eq hbegun, Option.bind_eq_bind, Option.bind_some]
    cases work.scan? <;> rfl

theorem deliver?_eq (h : e.Small) (hsound : e.Sound) (i : Nat)
    (hafter : (e.deliver i).1.session.Counts) : e.deliver? i = some (e.deliver i) := by
  unfold deliver? deliver
  unfold deliver at hafter
  cases hi : e.finished[i]? with
  | none => rfl
  | some p =>
    obtain ⟨scan, report⟩ := p
    have hmem : (scan, report) ∈ e.finished := List.mem_of_getElem? hi
    have hreport : report = scan.answer := hsound.finished _ hmem
    have hscan : scan.snapshot.Small :=
      h.scans scan (List.mem_append_right _ (List.mem_map.2 ⟨_, hmem, rfl⟩))
    subst hreport
    simp only [hi] at hafter
    simp only [Session.onScanned?_eq h.session hscan hafter, Option.bind_eq_bind, Option.bind_some]
    rfl

/-- **A step has its result**, if what is counted stays small. -/
theorem step?_eq (h : e.Small) (hsound : e.Sound) (st : Step)
    (hafter : (e.step st).1.session.Counts) : e.step? st = some (e.step st) := by
  cases st with
  | call c =>
    simp only [step?, Session.call?_eq h.session c hafter, Option.bind_eq_bind, Option.bind_some]
    rfl
  | begin i => rw [step?, begin?_eq h]; rfl
  | advance i => rfl
  | deliver i => exact deliver?_eq h hsound i hafter

/-! ## What is counted in a run -/

/-- There is at most one entry for each line. -/
theorem Retains.size_le (h : e.Retains) :
    e.session.search.index.size ≤ e.session.snapshot.lineCount := by
  have hnodup : (e.session.search.index.entries.toList.map (·.line)).Nodup :=
    (List.pairwise_map.2 h.ordered.ascending).imp Nat.ne_of_lt
  have hcounted : e.session.search.index.entries.toList.map (·.line) ⊆
      List.range e.session.snapshot.lineCount := by
    intro line hline
    obtain ⟨entry, hentry, rfl⟩ := List.mem_map.1 hline
    exact List.mem_range.2 (Snapshot.line?_isSome.1 (h.line?_isSome hentry)).2
  have hlength := (hnodup.subperm hcounted).length_le
  rwa [List.length_map, List.length_range] at hlength

theorem nearBottom_run (settings : Settings) (source : Source) (steps : List Step) :
    ((new settings source).run steps).session.viewport.nearBottom = settings.nearBottom := by
  refine run_induction (P := fun e => e.session.viewport.nearBottom = settings.nearBottom) rfl
    (fun e st h => ?_) steps
  by_cases hcall : ∃ c, st = .call c
  · obtain ⟨c, rfl⟩ := hcall
    rcases e.session.call_operates c with hkept | ⟨op, hop, -⟩
    · exact (congrArg (·.nearBottom) hkept).trans h
    · exact (congrArg (·.nearBottom) hop).trans ((Viewport.operate_nearBottom _ op).trans h)
  · rwa [(e.step_of_other st fun c hc => hcall ⟨c, hc⟩).2]

/-- At no time does the latest text count 2^63 lines. -/
def StaysSmall (e : Ensemble) (steps : List Step) : Prop :=
  ∀ before, before <+: steps → (e.run before).session.snapshot.Small

theorem StaysSmall.prefix {steps more : List Step} (h : e.StaysSmall (steps ++ more)) :
    e.StaysSmall steps :=
  fun _ hbefore => h _ (hbefore.trans (List.prefix_append ..))

theorem sized_run {settings : Settings} {source : Source} {steps : List Step}
    (h : (new settings source).StaysSmall steps) :
    let e := (new settings source).run steps
    LiveSearch.Sized e.session.snapshot (e.session.search, e.scans) := by
  induction steps using List.reverseRecOn with
  | nil =>
    exact ⟨h [] (List.prefix_refl _), by simp [new, Session.new, LiveSearch.idle],
      by simp [new, Session.new, scans, Session.scans]⟩
  | append_singleton steps st ih =>
    have hbefore := ih h.prefix
    have hsmall := h _ (List.prefix_refl _)
    simp only [run_append, run_cons, run_nil] at hsmall ⊢
    exact step_invariant LiveSearch.sized_invariant (tracked_run settings source steps) st
      ⟨hsmall, hbefore.scanned, hbefore.scans⟩

/-- **Nothing that is counted in a run is near the largest word**, as long as the lines of the
latest text are not. -/
theorem small_run {settings : Settings} (hsettings : settings.Small) {source : Source}
    {steps : List Step} (h : (new settings source).StaysSmall steps) :
    ((new settings source).run steps).Small := by
  have hsized := sized_run h
  have hretains := retains_run settings source steps
  have hpoints := (tuned_run settings source steps).points
  have hgoesOn := (inStep_run settings source steps).goesOn
  have hoptions := windowOptions_run settings source steps
  have hnear := nearBottom_run settings source steps
  generalize (new settings source).run steps = e at hsized hretains hpoints hgoesOn hoptions hnear
  have hlatest : e.session.snapshot.Small := hsized.latest
  refine ⟨{ snapshot := hlatest
            size := Nat.lt_of_le_of_lt hretains.size_le hlatest
            limit := ?_
            context := ?_
            rendered := Nat.lt_of_le_of_lt (Viewport.isReset_eq_false_iff.1 hgoesOn).2 hlatest
            nearBottom := ?_
            scanned := hsized.scanned
            ordered := hretains.ordered
            points := hpoints }, hsized.scans⟩
  · rw [hoptions]; exact hsettings.resultWindow
  · rw [hoptions]; exact hsettings.snippetContext
  · rw [hnear]; exact hsettings.nearBottom

end Ensemble

end LogTail
