import LogTail.Proofs.Search.Retained

/-!
# Incremental search

When the log grows, a search keeps the entries it has, looks again at the last line it knew and
at those behind it, and forgets the lines that were evicted. `Agrees` says that the entries on
retained lines are those of a full scan, and `Agrees.splice` that a scan of the new lines keeps
this up, wherever the first new line and the eviction stand to each other. `Indexes` is the
invariant of a search and its scans while the log only grows within a generation.
-/

namespace LogTail.Search

open Log (Snapshot)

variable {term : String} {old next : Snapshot} {first : Nat} {l : List MatchedLine}

/-- From a line on, the entries are those that a scan of the whole snapshot finds. -/
structure Agrees (term : String) (old : Snapshot) (first : Nat) (l : List MatchedLine) : Prop where
  ascending : Ascending l
  mem : ∀ e : MatchedLine, first ≤ e.line → (e ∈ l ↔ e ∈ matchedFrom term old old.firstLine)

theorem agrees_matchedFrom (term : String) (old : Snapshot) (first : Nat) :
    Agrees term old first (matchedFrom term old old.firstLine) :=
  ⟨ascending_matchedFrom _ _ _, fun _ _ => Iff.rfl⟩

theorem Agrees.later (h : Agrees term old first l) {n : Nat} (hn : first ≤ n) :
    Agrees term old n l :=
  ⟨h.ascending, fun e he => h.mem e (hn.trans he)⟩

theorem Agrees.filter (h : Agrees term old first l) {n : Nat} (hn : n ≤ first) :
    Agrees term old first (l.filter (n ≤ ·.line)) where
  ascending := List.Pairwise.filter _ h.ascending
  mem e he := by
    rw [List.mem_filter, h.mem e he]
    simp [hn.trans he]

/-- **A scan of the new lines and the last known one is as good as a full one.** The entries
before that line are kept: what they tell has not changed since. -/
theorem Agrees.splice (h : Agrees term old first l) (hext : old.Extends next)
    (hfirst : next.firstLine ≤ first) {start : Nat}
    (hstart : start = max (old.lineCount - 1) next.firstLine) :
    Agrees term next first (l.filter (·.line < start) ++ matchedFrom term next start) where
  ascending := by
    refine List.pairwise_append.2
      ⟨List.Pairwise.filter _ h.ascending, ascending_matchedFrom _ _ _, fun a ha b hb => ?_⟩
    have hbefore : a.line < start := by simpa using (List.mem_filter.1 ha).2
    exact hbefore.trans_le (mem_matchedFrom.1 hb).1
  mem e he := by
    rw [List.mem_append, List.mem_filter, h.mem e he, mem_matchedFrom, mem_matchedFrom,
      mem_matchedFrom]
    by_cases hbefore : e.line < start
    · -- A line before the last known one, still retained: both snapshots have it.
      have hkept : next.line? e.line = old.line? e.line :=
        hext.kept e.line (hfirst.trans he) (by omega)
      have hold : old.firstLine ≤ e.line := hext.firstLine.trans (hfirst.trans he)
      have hnew : next.firstLine ≤ e.line := hfirst.trans he
      simp [hbefore, hkept, hold, hnew]
    · have hnew : next.firstLine ≤ e.line := hfirst.trans he
      simp [hbefore, Nat.le_of_not_lt hbefore, hnew]

/-- Once the evicted lines are forgotten nothing but the entries of a full scan is left. -/
theorem Agrees.eq_filter (h : Agrees term old first l) (hl : ∀ e ∈ l, first ≤ e.line) :
    l = (matchedFrom term old old.firstLine).filter (first ≤ ·.line) := by
  refine List.Pairwise.eq_of_mem_iff h.ascending
    (List.Pairwise.filter _ (ascending_matchedFrom _ _ _)) fun e => ?_
  rw [List.mem_filter, decide_eq_true_eq]
  constructor
  · intro he
    exact ⟨(h.mem e (hl e he)).1 he, hl e he⟩
  · rintro ⟨he, hfirst⟩
    exact (h.mem e hfirst).2 he

/-! ## The index while the log grows -/

/-- What a scan is to look at: everything, or what came after the snapshot scanned last. -/
def Scan.Covers (scan : Scan) (scanned : Option Snapshot) : Prop :=
  (scan.incremental = false ∧ scan.startLine = scan.snapshot.firstLine) ∨
  (scan.incremental = true ∧ ∃ old, scanned = some old ∧ old.Extends scan.snapshot ∧
    scan.startLine = max (old.lineCount - 1) scan.snapshot.firstLine)

namespace LiveSearch

variable {latest : Snapshot} {s : LiveSearch} {scans : List Scan}

/-- The entries on the retained lines are those of a full scan of the snapshot scanned last, and
the scan under way covers what is missing. Says nothing of results of another generation. -/
structure Indexes (latest : Snapshot) (p : LiveSearch × List Scan) : Prop where
  entries : ∃ l, p.1.index = MatchIndex.ofEntries l ∧ Ascending l ∧
    (p.1.generation = latest.generation → ∀ old, p.1.scanned = some old →
      old.Extends latest ∧ Agrees p.1.term old latest.firstLine l)
  asked : p.1.generation = latest.generation → ∀ scan ∈ p.2, scan.epoch = p.1.epoch →
    scan.snapshot.Extends latest ∧ Scan.Covers scan p.1.scanned

theorem indexes_idle (latest : Snapshot) (chunk : Nat) : Indexes latest (idle chunk, []) where
  entries := ⟨[], rfl, List.Pairwise.nil, by simp [idle]⟩
  asked := by simp

theorem Indexes.ordered {p : LiveSearch × List Scan} (h : Indexes latest p) :
    p.1.index.Ordered := by
  obtain ⟨l, hindex, hl, -⟩ := h.entries
  rw [hindex]
  exact MatchIndex.ordered_ofEntries hl

/-- One more scan that covers what is missing. -/
theorem Indexes.ask (h : Indexes latest (s, scans)) {t : LiveSearch} {scan : Scan}
    (index : t.index = s.index) (term : t.term = s.term) (generation : t.generation = s.generation)
    (scanned : t.scanned = s.scanned) (epoch : t.epoch = s.epoch)
    (hsnapshot : scan.snapshot = latest) (hcovers : Scan.Covers scan s.scanned) :
    Indexes latest (t, scans ++ [scan]) where
  entries := by
    simpa only [index, term, generation, scanned] using h.entries
  asked hg a ha hcurrent := by
    simp only [scanned]
    rw [List.mem_append, List.mem_singleton] at ha
    rcases ha with ha | rfl
    · exact h.asked (generation ▸ hg) a ha (hcurrent.trans epoch)
    · exact ⟨hsnapshot ▸ .refl _, hcovers⟩

theorem Turn.indexes {p q : LiveSearch × List Scan} (h : Turn latest p q) (ht : Tracks latest p)
    (hp : Indexes latest p) : Indexes latest q := by
  cases h with
  | points s scans cursor => exact ⟨hp.entries, hp.asked⟩
  | renews s scans term =>
    refine ⟨⟨[], rfl, List.Pairwise.nil, fun _ old hold => ?_⟩,
      fun _ scan hscan hcurrent => absurd hcurrent (ht.ne_restart hscan)⟩
    cases hold
  | prunes s scans cursor generation =>
    obtain ⟨l, hindex, hl, hagrees⟩ := hp.entries
    refine ⟨⟨l.filter (latest.firstLine ≤ ·.line), ?_, List.Pairwise.filter _ hl,
      fun hg old hold => ?_⟩, hp.asked⟩
    · rw [show s.index = _ from hindex, MatchIndex.pruneBefore_ofEntries hl]
    · obtain ⟨hext, h⟩ := hagrees hg old hold
      exact ⟨hext, h.filter (Nat.le_refl _)⟩
  | asks s scans generation term inFlight fresh =>
    exact hp.ask rfl rfl rfl rfl rfl rfl (Or.inl ⟨rfl, rfl⟩)
  | asksMore s scans generation term inFlight status old scanned differs =>
    obtain ⟨l, -, -, hagrees⟩ := hp.entries
    exact hp.ask rfl rfl rfl rfl rfl rfl
      (Or.inr ⟨rfl, old, scanned, (hagrees generation old scanned).1, rfl⟩)

/-- The log may grow; nothing is kept across generations. -/
theorem Indexes.later (h : Indexes latest (s, scans)) {newest : Snapshot}
    (hg : s.generation = latest.generation)
    (hext : newest.generation = latest.generation → latest.Extends newest) :
    Indexes newest (s, scans) where
  entries := by
    obtain ⟨l, hindex, hl, hagrees⟩ := h.entries
    refine ⟨l, hindex, hl, fun hnew old hold => ?_⟩
    have hext := hext (hnew.symm.trans hg)
    obtain ⟨hold, h⟩ := hagrees hg old hold
    exact ⟨hold.trans hext, h.later hext.firstLine⟩
  asked hnew scan hscan hcurrent := by
    obtain ⟨hsnapshot, hcovers⟩ := h.asked hg scan hscan hcurrent
    exact ⟨hsnapshot.trans (hext (hnew.symm.trans hg)), hcovers⟩

/-- **The report of the scan under way makes the index that of its snapshot.** -/
theorem Indexes.accept {scan : Scan} (h : Indexes latest (s, scan :: scans))
    (ht : Tracks latest (s, scan :: scans)) (hg : s.generation = latest.generation)
    (hcurrent : scan.epoch = s.epoch) :
    Indexes latest ((s.accept scan.answer).2, scans) := by
  obtain ⟨cursor, haccept⟩ := s.accept_eq (show scan.answer.epoch = s.epoch from hcurrent)
  obtain ⟨l, hindex, hl, hagrees⟩ := h.entries
  obtain ⟨hsnapshot, hcovers⟩ := h.asked hg scan (List.mem_cons_self ..) hcurrent
  have hterm : scan.term = s.term := (ht.current scan (List.mem_cons_self ..) hcurrent).1
  have hevicts : scan.snapshot.firstLine ≤ latest.firstLine := hsnapshot.firstLine
  obtain ⟨l', hl', hagrees'⟩ : ∃ l', (if scan.answer.incremental then
      s.index.spliceFrom scan.answer.startLine scan.answer.index else scan.answer.index) =
        MatchIndex.ofEntries l' ∧ Agrees s.term scan.snapshot latest.firstLine l' := by
    rcases hcovers with ⟨hfull, hstart⟩ | ⟨hmore, old, hold, hext, hstart⟩
    · refine ⟨matchedFrom scan.term scan.snapshot scan.startLine, ?_, ?_⟩
      · simp [Scan.answer, Scan.report, hfull]
      · rw [hterm, hstart]
        exact agrees_matchedFrom _ _ _
    · refine ⟨l.filter (·.line < scan.startLine) ++
        matchedFrom scan.term scan.snapshot scan.startLine, ?_, ?_⟩
      · simp only [Scan.answer, Scan.report, hmore, if_true]
        rw [show s.index = _ from hindex, MatchIndex.spliceFrom_ofEntries hl]
      · rw [hterm]
        exact (hagrees hg old hold).2.splice hext hevicts hstart
  simp only [haccept]
  have hother := ht.no_other hcurrent
  rw [haccept] at hother
  refine ⟨⟨l'.filter (scan.snapshot.firstLine ≤ ·.line), ?_, ?_, ?_⟩,
    fun _ a ha hnow => absurd hnow (hother a ha)⟩
  · rw [hl', show scan.answer.snapshot = scan.snapshot from rfl,
      MatchIndex.pruneBefore_ofEntries hagrees'.ascending]
  · exact List.Pairwise.filter _ hagrees'.ascending
  · rintro - old hold
    cases hold
    exact ⟨hsnapshot, hagrees'.filter hevicts⟩

theorem indexes_invariant : Invariant Indexes where
  turn hturn ht h := hturn.indexes ht h
  perm h hperm := ⟨h.entries, fun hg scan hscan => h.asked hg scan (hperm.mem_iff.1 hscan)⟩
  lose h _ := ⟨h.entries, fun hg a ha => h.asked hg a (List.mem_cons_of_mem _ ha)⟩
  accept h ht hg hcurrent := h.accept ht hg hcurrent

end LiveSearch

end LogTail.Search
