import LogTail.Proofs.Search.Live

/-!
# Matches on retained lines

Every entry of the index is on a line that the buffer still has. The two ends take two arguments.
Eviction is in front: a look at the latest snapshot forgets what it evicted (`Pruned`,
`follow_pruned`). At the end no line goes missing within a generation, so what a scan found in an
older snapshot is counted by the latest one (`Lists`); this holds however the text changes.
-/

namespace LogTail.Search.LiveSearch

open Log (Snapshot)

variable {latest : Snapshot} {s : LiveSearch} {scans : List Scan}

theorem enterGeneration_ordered (h : s.index.Ordered) (generation : Nat) :
    (s.enterGeneration generation).index.Ordered := by
  unfold enterGeneration
  split
  · exact h
  · exact MatchIndex.ordered_empty

/-! ## Evicted lines -/

/-- No entry is on an evicted line. -/
def Pruned (latest : Snapshot) (s : LiveSearch) : Prop :=
  ∀ e ∈ s.index.entries.toList, latest.firstLine ≤ e.line

theorem pruned_empty (h : s.index = {}) : Pruned latest s := by
  simp [Pruned, h]

/-- A look at the latest snapshot adds no entry. -/
theorem follow_index (latest : Snapshot) (s : LiveSearch) : (s.follow latest).1.index =
    ((s.enterGeneration latest.generation).index.pruneBefore latest.firstLine).2 := by
  obtain ⟨cursor, hprune⟩ := (s.enterGeneration latest.generation).prune_eq latest.firstLine
  have hpruned := congrArg index hprune
  unfold follow
  generalize (s.enterGeneration latest.generation).prune latest.firstLine = t at hpruned
  simp only
  repeat' split
  all_goals exact hpruned

theorem follow_pruned (h : s.index.Ordered) : Pruned latest (s.follow latest).1 := by
  intro e he
  rw [follow_index] at he
  exact ((enterGeneration_ordered h _).mem_pruned.1 he).2

theorem commit_pruned (h : Pruned latest s) (term : String) :
    Pruned latest (s.commit term latest).1 := by
  unfold commit
  split
  · exact h
  · by_cases hterm : term = ""
    · exact pruned_empty (by simp [hterm, restart])
    · exact pruned_empty (by simp [hterm, restart, fullScan])

theorem clear_pruned (h : Pruned latest s) : Pruned latest s.clear := by
  unfold clear
  split
  · exact h
  · exact pruned_empty rfl

/-! ## What a report makes of the index -/

/-- What a scan found is in order, and so is what comes of adding it. -/
theorem answer_ordered (h : s.index.Ordered) (scan : Scan) :
    (if scan.incremental then s.index.spliceFrom scan.startLine scan.answer.index
      else scan.answer.index).Ordered := by
  have hfound := ascending_matchedFrom scan.term scan.snapshot scan.startLine
  simp only [Scan.answer, Scan.report]
  split
  · exact h.spliced hfound fun e he => (mem_matchedFrom.1 he).1
  · exact MatchIndex.ordered_ofEntries hfound

/-- A report leaves the entries before its start, if it adds to them, and those that its scan found
from there on; none of them is on a line that its snapshot has evicted. -/
theorem accept_index (h : s.index.Ordered) {scan : Scan} (hcurrent : scan.epoch = s.epoch) :
    (s.accept scan.answer).2.index.Ordered ∧
    ∀ e, e ∈ (s.accept scan.answer).2.index.entries.toList ↔
      (scan.incremental = true ∧ e ∈ s.index.entries.toList ∧ e.line < scan.startLine ∨
        e ∈ matchedFrom scan.term scan.snapshot scan.startLine) ∧
      scan.snapshot.firstLine ≤ e.line := by
  obtain ⟨cursor, haccept⟩ := s.accept_eq (show scan.answer.epoch = s.epoch from hcurrent)
  have hordered := answer_ordered h scan
  rw [haccept]
  simp only [Scan.answer, Scan.report] at hordered ⊢
  refine ⟨hordered.pruned _, fun e => hordered.mem_pruned.trans (and_congr_left fun _ => ?_)⟩
  cases scan.incremental <;> simp [h.mem_spliced]

/-! ## Lines that are counted -/

/-- The entries are in order and on lines that the latest snapshot counts; so does, already, the
snapshot of the scan of the current epoch. Says nothing of results of another generation. -/
structure Lists (latest : Snapshot) (p : LiveSearch × List Scan) : Prop where
  ordered : p.1.index.Ordered
  counted : p.1.generation = latest.generation →
    ∀ e ∈ p.1.index.entries.toList, e.line < latest.lineCount
  asked : p.1.generation = latest.generation → ∀ scan ∈ p.2, scan.epoch = p.1.epoch →
    scan.snapshot.Advances latest ∧
    (∀ e ∈ p.1.index.entries.toList, e.line < scan.snapshot.lineCount) ∧
    (scan.incremental = false → scan.startLine = scan.snapshot.firstLine)

theorem lists_idle (latest : Snapshot) (chunk : Nat) : Lists latest (idle chunk, []) where
  ordered := MatchIndex.ordered_empty
  counted := by simp [idle]
  asked := by simp

/-- One more scan of the latest snapshot. -/
theorem Lists.ask (h : Lists latest (s, scans)) {t : LiveSearch} {scan : Scan}
    (index : t.index = s.index) (generation : t.generation = s.generation)
    (epoch : t.epoch = s.epoch) (hsnapshot : scan.snapshot = latest)
    (hfull : scan.incremental = false → scan.startLine = latest.firstLine) :
    Lists latest (t, scans ++ [scan]) where
  ordered := by simpa only [index] using h.ordered
  counted := by simpa only [index, generation] using h.counted
  asked hnow a ha hcurrent := by
    have hg : s.generation = latest.generation := generation.symm.trans hnow
    simp only [index]
    rw [List.mem_append, List.mem_singleton] at ha
    rcases ha with ha | rfl
    · exact h.asked hg a ha (hcurrent.trans epoch)
    · rw [hsnapshot]
      exact ⟨.refl _, h.counted hg, hfull⟩

theorem Turn.lists {p q : LiveSearch × List Scan} (h : Turn latest p q) (ht : Tracks latest p)
    (hp : Lists latest p) : Lists latest q := by
  cases h with
  | points s scans cursor => exact ⟨hp.ordered, hp.counted, hp.asked⟩
  | renews s scans term =>
    refine ⟨MatchIndex.ordered_empty, fun _ e he => ?_,
      fun _ scan hscan hcurrent => absurd hcurrent (ht.ne_restart hscan)⟩
    simp [restart] at he
  | prunes s scans cursor generation =>
    have hkept : ∀ e ∈ (s.index.pruneBefore latest.firstLine).2.entries.toList,
        e ∈ s.index.entries.toList := fun e he => (hp.ordered.mem_pruned.1 he).1
    refine ⟨hp.ordered.pruned _, fun hg e he => hp.counted hg e (hkept e he),
      fun hg scan hscan hcurrent => ?_⟩
    obtain ⟨hadvances, hcounted, hfull⟩ := hp.asked hg scan hscan hcurrent
    exact ⟨hadvances, fun e he => hcounted e (hkept e he), hfull⟩
  | asks s scans generation term inFlight fresh =>
    exact hp.ask rfl rfl rfl rfl fun _ => rfl
  | asksMore s scans generation term inFlight status old scanned differs =>
    exact hp.ask rfl rfl rfl rfl fun hfull => by simp [scanOf] at hfull

/-- Within a generation the log gets longer; nothing is kept across generations. -/
theorem Lists.later (h : Lists latest (s, scans)) {newest : Snapshot}
    (hg : s.generation = latest.generation)
    (hadvances : newest.generation = latest.generation → latest.Advances newest) :
    Lists newest (s, scans) where
  ordered := h.ordered
  counted hnew e he :=
    Nat.lt_of_lt_of_le (h.counted hg e he) (hadvances (hnew.symm.trans hg)).lineCount
  asked hnew scan hscan hcurrent := by
    obtain ⟨hsnapshot, hcounted, hfull⟩ := h.asked hg scan hscan hcurrent
    exact ⟨hsnapshot.trans (hadvances (hnew.symm.trans hg)), hcounted, hfull⟩

/-- **What a report adds is counted too**, by the snapshot of its scan already. -/
theorem Lists.accept {scan : Scan} (h : Lists latest (s, scan :: scans))
    (ht : Tracks latest (s, scan :: scans)) (hg : s.generation = latest.generation)
    (hcurrent : scan.epoch = s.epoch) :
    Lists latest ((s.accept scan.answer).2, scans) := by
  obtain ⟨hordered, hmem⟩ := accept_index h.ordered hcurrent
  obtain ⟨hadvances, hcounted, -⟩ := h.asked hg scan (List.mem_cons_self ..) hcurrent
  refine ⟨hordered, fun _ e he => Nat.lt_of_lt_of_le ?_ hadvances.lineCount,
    fun _ a ha hnow => absurd hnow (ht.no_other hcurrent a ha)⟩
  rcases ((hmem e).1 he).1 with ⟨-, hold, -⟩ | hfound
  · exact hcounted e hold
  · obtain ⟨-, text, htext, -⟩ := mem_matchedFrom.1 hfound
    exact (Snapshot.line?_isSome.1 (Option.isSome_of_eq_some htext)).2

theorem lists_invariant : Invariant Lists where
  turn hturn ht h := hturn.lists ht h
  perm h hperm :=
    ⟨h.ordered, h.counted, fun hg scan hscan => h.asked hg scan (hperm.mem_iff.1 hscan)⟩
  lose h _ := ⟨h.ordered, h.counted, fun hg a ha => h.asked hg a (List.mem_cons_of_mem _ ha)⟩
  accept h ht hg hcurrent := h.accept ht hg hcurrent

end LogTail.Search.LiveSearch
