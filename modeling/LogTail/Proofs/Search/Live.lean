import LogTail.Proofs.Search.MatchIndex
import LogTail.Proofs.Search.Scan
import LogTail.Search.Live
import Mathlib.Logic.Relation

/-!
# Laws of the live search

Whatever a search does between two reports is a row of turns: it drops its results for a new
epoch, forgets evicted lines, or asks for a scan. `Turn` lists them with the scans not yet heard
of, and `commit_turns`, `clear_turns`, `enterGeneration_turns` and `follow_turns` say that there is
nothing else. `Tracks` is the invariant that ties the scans not yet heard of to the epochs: the
current epoch has one term and one generation, and at most one scan. Any other invariant of
searches is proved for one turn and for one report (`Invariant`).
-/

namespace LogTail.Search

open Log (Snapshot)

theorem MatchIndex.pruneBefore_snd_of_zero {index : MatchIndex} {first : Nat}
    (h : (index.pruneBefore first).1 = 0) : (index.pruneBefore first).2 = index := by
  have hcut : index.rank first = 0 := h
  simp [pruneBefore, hcut, countSpans, size]

theorem MatchIndex.pruneBefore_empty (first : Nat) :
    (({} : MatchIndex).pruneBefore first).2 = {} :=
  pruneBefore_snd_of_zero (by simp [pruneBefore, rank])

namespace LiveSearch

theorem prune_eq (s : LiveSearch) (first : Nat) : ∃ cursor,
    s.prune first = { s with index := (s.index.pruneBefore first).2, cursor := cursor } := by
  unfold prune
  split
  · rename_i index h
    have hsame := MatchIndex.pruneBefore_snd_of_zero (congrArg Prod.fst h)
    exact ⟨s.cursor, by rw [hsame]⟩
  · rename_i h
    exact ⟨_, by rw [h]; rfl⟩

/-! ## Turns -/

/-- One thing that a search does, when `latest` is the latest snapshot; beside it stand the scans
not yet heard of. -/
inductive Turn (latest : Snapshot) : LiveSearch × List Scan → LiveSearch × List Scan → Prop where
  /-- Another match is the active one. -/
  | points (s : LiveSearch) (scans : List Scan) (cursor : Option Nat) :
      Turn latest (s, scans) ({ s with cursor := cursor }, scans)
  /-- A new epoch begins, without any result. -/
  | renews (s : LiveSearch) (scans : List Scan) (term : String) :
      Turn latest (s, scans)
        ({ s.restart with term := term, generation := latest.generation }, scans)
  /-- Lines that were evicted are forgotten. -/
  | prunes (s : LiveSearch) (scans : List Scan) (cursor : Option Nat)
      (generation : s.generation = latest.generation) :
      Turn latest (s, scans)
        ({ s with index := (s.index.pruneBefore latest.firstLine).2, cursor := cursor }, scans)
  /-- All lines are to be looked at. -/
  | asks (s : LiveSearch) (scans : List Scan) (generation : s.generation = latest.generation)
      (term : s.term ≠ "") (inFlight : s.inFlight = none)
      (fresh : s.status = .idle ∨ s.scanned = none) :
      Turn latest (s, scans) ((s.fullScan latest).1, scans ++ [(s.fullScan latest).2])
  /-- The last known line and those behind it are to be looked at. -/
  | asksMore (s : LiveSearch) (scans : List Scan) (generation : s.generation = latest.generation)
      (term : s.term ≠ "") (inFlight : s.inFlight = none) (status : s.status = .ready)
      (old : Snapshot) (scanned : s.scanned = some old) (differs : old.same latest = false) :
      Turn latest (s, scans) ({ s with inFlight := some s.epoch },
        scans ++ [s.scanOf latest (max (old.lineCount - 1) latest.firstLine) true])

/-- Some turns, one after the other. -/
abbrev Turns (latest : Snapshot) := Relation.ReflTransGen (Turn latest)

theorem Turns.induction {latest : Snapshot} {P : LiveSearch × List Scan → Prop}
    {p q : LiveSearch × List Scan} (h : Turns latest p q)
    (hturn : ∀ p q, Turn latest p q → P p → P q) (hp : P p) : P q := by
  induction h with
  | refl => exact hp
  | tail _ hlast ih => exact hturn _ _ hlast ih

variable {latest : Snapshot} {s : LiveSearch}

theorem enterGeneration_turns (latest : Snapshot) (s : LiveSearch) (scans : List Scan) :
    Turns latest (s, scans) (s.enterGeneration latest.generation, scans) := by
  unfold enterGeneration
  split
  · exact .refl
  · exact .single (.renews s scans s.term)

@[simp] theorem enterGeneration_generation (s : LiveSearch) (generation : Nat) :
    (s.enterGeneration generation).generation = generation := by
  unfold enterGeneration
  split
  · rename_i h; exact h.symm
  · rfl

@[simp] theorem clear_generation (s : LiveSearch) : s.clear.generation = s.generation := by
  unfold clear
  split <;> rfl

@[simp] theorem commit_generation (s : LiveSearch) (term : String) (latest : Snapshot) :
    (s.commit term latest).1.generation = s.generation := by
  unfold commit
  split
  · rfl
  · by_cases hterm : term = "" <;> simp [hterm, restart, fullScan]

theorem clear_turns (hg : s.generation = latest.generation) (scans : List Scan) :
    Turns latest (s, scans) (s.clear, scans) := by
  unfold clear
  split
  · exact .refl
  · have hrenews : Turn latest (s, scans) (_, scans) := .renews s scans ""
    rw [← hg] at hrenews
    exact .single hrenews

theorem commit_turns (hg : s.generation = latest.generation) (term : String) (scans : List Scan) :
    Turns latest (s, scans)
      ((s.commit term latest).1, scans ++ (s.commit term latest).2.toList) := by
  unfold commit
  split
  · simpa using Relation.ReflTransGen.refl
  · have hrenews : Turn latest (s, scans) (_, scans) := .renews s scans term
    rw [← hg] at hrenews
    by_cases hterm : term = ""
    · simpa [hterm] using Relation.ReflTransGen.single (hterm ▸ hrenews)
    · have hasks : Turn latest ({ s.restart with term := term }, scans) _ :=
        .asks _ scans hg hterm rfl (Or.inl rfl)
      simpa [hterm] using (Relation.ReflTransGen.single hrenews).tail hasks

/-- Before it asks for anything a search drops what the latest text makes void. -/
theorem prune_turns (latest : Snapshot) (s : LiveSearch) (scans : List Scan) :
    Turns latest (s, scans)
      ((s.enterGeneration latest.generation).prune latest.firstLine, scans) ∧
    ((s.enterGeneration latest.generation).prune latest.firstLine).generation =
      latest.generation := by
  obtain ⟨cursor, hprune⟩ := (s.enterGeneration latest.generation).prune_eq latest.firstLine
  rw [hprune]
  exact ⟨(enterGeneration_turns latest s scans).tail (.prunes _ scans cursor (by simp)), by simp⟩

theorem follow_turns (latest : Snapshot) (s : LiveSearch) (scans : List Scan) :
    Turns latest (s, scans)
      ((s.follow latest).1, scans ++ (s.follow latest).2.toList) := by
  obtain ⟨hpruned, hg⟩ := prune_turns latest s scans
  unfold follow
  generalize (s.enterGeneration latest.generation).prune latest.firstLine = t at hpruned hg
  simp only
  split
  · simpa using hpruned
  · rename_i hactive
    simp only [String.isEmpty_iff, not_or, Bool.not_eq_true, Option.isSome_eq_false_iff,
      Option.isNone_iff_eq_none] at hactive
    split
    · rename_i hidle
      exact hpruned.tail (.asks t scans hg hactive.1 hactive.2 (Or.inl hidle))
    · rename_i hnone _
      exact hpruned.tail (.asks t scans hg hactive.1 hactive.2 (Or.inr hnone))
    · rename_i old hready hold
      split
      · simpa using hpruned
      · rename_i hdiffers
        exact hpruned.tail
          (.asksMore t scans hg hactive.1 hactive.2 hready old hold (by simpa using hdiffers))
    · simpa using hpruned

/-! ## Epochs -/

variable {scans : List Scan}

/-- Status, results and the scan under way fit together. -/
inductive Coherent (s : LiveSearch) : Prop where
  | idle (status : s.status = .idle) (scanned : s.scanned = none) (inFlight : s.inFlight = none)
      (index : s.index = {})
  | scanning (status : s.status = .scanning) (scanned : s.scanned = none)
      (inFlight : s.inFlight = some s.epoch) (term : s.term ≠ "") (index : s.index = {})
  | ready (status : s.status = .ready) (old : Snapshot) (scanned : s.scanned = some old)
      (inFlight : s.inFlight = none ∨ s.inFlight = some s.epoch) (term : s.term ≠ "")

/-- The scans not yet heard of that are of the current epoch. -/
def outstanding (s : LiveSearch) (scans : List Scan) : Nat :=
  scans.countP fun scan => scan.epoch = s.epoch

/-- No epoch is ahead of the current one. A scan of the current one looks for the current term in
a snapshot of the current generation; there is one when `inFlight` says so, and no other. -/
structure Tracks (latest : Snapshot) (p : LiveSearch × List Scan) : Prop where
  coherent : p.1.Coherent
  scanned : ∀ old, p.1.scanned = some old → latest.Knows old
  past : ∀ scan ∈ p.2, scan.epoch ≤ p.1.epoch ∧ latest.Knows scan.snapshot
  current : ∀ scan ∈ p.2, scan.epoch = p.1.epoch →
    scan.term = p.1.term ∧ scan.snapshot.generation = p.1.generation
  outstanding : p.1.outstanding p.2 = if p.1.inFlight.isSome then 1 else 0

/-- A search that waits for nothing has looked at the latest text, or there is none. -/
def UpToDate (latest : Snapshot) (s : LiveSearch) : Prop :=
  s.term ≠ "" → s.inFlight = none →
    s.status = .ready ∧ s.scanned = some latest ∨ s.status = .idle ∧ latest.lineCount = 0

theorem outstanding_eq_zero (h : ∀ scan ∈ scans, scan.epoch ≠ s.epoch) :
    s.outstanding scans = 0 := by
  simpa [outstanding, List.countP_eq_zero] using h

theorem outstanding_concat {scan : Scan} (h : scan.epoch = s.epoch) :
    s.outstanding (scans ++ [scan]) = s.outstanding scans + 1 := by
  simp [outstanding, List.countP_append, h]

theorem coherent_restart (s : LiveSearch) (term : String) (generation : Nat) :
    Coherent { s.restart with term := term, generation := generation } :=
  .idle rfl rfl rfl rfl

theorem tracks_idle (latest : Snapshot) (chunk : Nat) : Tracks latest (idle chunk, []) where
  coherent := .idle rfl rfl rfl rfl
  scanned := by simp [idle]
  past := by simp
  current := by simp
  outstanding := rfl

/-- A scan that is asked for while none is under way becomes the one of its epoch. -/
theorem Tracks.ask (h : Tracks latest (s, scans)) {t : LiveSearch} {scan : Scan}
    (hg : s.generation = latest.generation) (hidle : s.inFlight = none)
    (coherent : t.Coherent) (scanned : t.scanned = s.scanned) (epoch : t.epoch = s.epoch)
    (term : t.term = s.term) (generation : t.generation = s.generation)
    (inFlight : t.inFlight = some s.epoch) (hepoch : scan.epoch = s.epoch)
    (hterm : scan.term = s.term) (hsnapshot : scan.snapshot = latest) :
    Tracks latest (t, scans ++ [scan]) where
  coherent := coherent
  scanned old hold := h.scanned old (scanned ▸ hold)
  past a ha := by
    simp only [List.mem_append, List.mem_singleton] at ha
    rcases ha with ha | rfl
    · exact epoch ▸ h.past a ha
    · exact ⟨by simp [hepoch, epoch], hsnapshot ▸ .refl latest⟩
  current a ha hcurrent := by
    simp only [List.mem_append, List.mem_singleton] at ha
    rcases ha with ha | rfl
    · simpa [term, generation] using h.current a ha (by simpa [epoch] using hcurrent)
    · simp [hterm, term, hsnapshot, generation, hg]
  outstanding := by
    have hnone : s.outstanding scans = 0 := by simpa [hidle] using h.outstanding
    have hcount : t.outstanding (scans ++ [scan]) = s.outstanding scans + 1 := by
      rw [outstanding_concat (hepoch.trans epoch.symm)]
      simp only [LiveSearch.outstanding, epoch]
    simp [hcount, hnone, inFlight]

theorem Turn.tracks {p q : LiveSearch × List Scan} (h : Turn latest p q)
    (hp : Tracks latest p) : Tracks latest q := by
  cases h with
  | points s scans cursor =>
    refine ⟨?_, hp.scanned, hp.past, hp.current, hp.outstanding⟩
    cases hp.coherent with
    | idle status scanned inFlight index => exact .idle status scanned inFlight index
    | scanning status scanned inFlight term index =>
      exact .scanning status scanned inFlight term index
    | ready status old scanned inFlight term => exact .ready status old scanned inFlight term
  | renews s scans term =>
    refine ⟨coherent_restart .., by simp [restart], fun scan hscan => ?_, fun scan hscan hcur => ?_,
      outstanding_eq_zero fun scan hscan hcur => ?_⟩
    · exact ⟨Nat.le_succ_of_le (hp.past scan hscan).1, (hp.past scan hscan).2⟩
    · have := (hp.past scan hscan).1
      simp only [restart] at hcur this
      omega
    · have := (hp.past scan hscan).1
      simp only [restart] at hcur this
      omega
  | prunes s scans cursor generation =>
    refine ⟨?_, hp.scanned, hp.past, hp.current, hp.outstanding⟩
    cases hp.coherent with
    | idle status scanned inFlight index =>
      exact .idle status scanned inFlight (by
        rw [show s.index = {} from index]; exact MatchIndex.pruneBefore_empty _)
    | scanning status scanned inFlight term index =>
      exact .scanning status scanned inFlight term (by
        rw [show s.index = {} from index]; exact MatchIndex.pruneBefore_empty _)
    | ready status old scanned inFlight term => exact .ready status old scanned inFlight term
  | asks s scans generation term inFlight fresh =>
    refine hp.ask generation inFlight ?_ rfl rfl rfl rfl rfl rfl rfl rfl
    cases hp.coherent with
    | idle _ scanned _ index => exact .scanning rfl scanned rfl term index
    | scanning _ _ hflight => simp [inFlight] at hflight
    | ready status old scanned =>
      rcases fresh with hidle | hnone
      · simp [hidle] at status
      · simp [hnone] at scanned
  | asksMore s scans generation term inFlight status old scanned differs =>
    exact hp.ask generation inFlight (.ready status old scanned (Or.inr rfl) term)
      rfl rfl rfl rfl rfl rfl rfl rfl

theorem Turns.tracks {p q : LiveSearch × List Scan} (h : Turns latest p q)
    (hp : Tracks latest p) : Tracks latest q :=
  h.induction (fun _ _ hturn => hturn.tracks) hp

/-- No scan asked for so far is of an epoch that begins now. -/
theorem Tracks.ne_restart {scan : Scan} (h : Tracks latest (s, scans)) (hscan : scan ∈ scans) :
    scan.epoch ≠ s.restart.epoch :=
  Nat.ne_of_lt (Nat.lt_succ_of_le (h.past scan hscan).1)

theorem Tracks.perm (h : Tracks latest (s, scans)) {other : List Scan} (hperm : other.Perm scans) :
    Tracks latest (s, other) where
  coherent := h.coherent
  scanned := h.scanned
  past scan hscan := h.past scan (hperm.mem_iff.1 hscan)
  current scan hscan := h.current scan (hperm.mem_iff.1 hscan)
  outstanding := by
    have := h.outstanding
    simp only [LiveSearch.outstanding] at this ⊢
    rwa [hperm.countP_eq]

theorem Tracks.later (h : Tracks latest (s, scans)) {newest : Snapshot}
    (hnewest : newest = latest ∨ latest.version < newest.version) : Tracks newest (s, scans) where
  coherent := h.coherent
  scanned old hold := (h.scanned old hold).later hnewest
  past scan hscan := ⟨(h.past scan hscan).1, (h.past scan hscan).2.later hnewest⟩
  current := h.current
  outstanding := h.outstanding

/-- A scan whose epoch is over may go. -/
theorem Tracks.lose {scan : Scan} (h : Tracks latest (s, scan :: scans))
    (hstale : scan.epoch ≠ s.epoch) : Tracks latest (s, scans) where
  coherent := h.coherent
  scanned := h.scanned
  past a ha := h.past a (List.mem_cons_of_mem _ ha)
  current a ha := h.current a (List.mem_cons_of_mem _ ha)
  outstanding := by
    have := h.outstanding
    simp only [LiveSearch.outstanding] at this ⊢
    rwa [List.countP_cons_of_neg (by simpa using hstale)] at this

/-! ## Reports -/

/-- What a search is after the report of a scan of its epoch. -/
theorem accept_eq {report : ScanReport} (h : report.epoch = s.epoch) : ∃ cursor,
    s.accept report = (true, { s with
      index := ((if report.incremental then s.index.spliceFrom report.startLine report.index
        else report.index).pruneBefore report.snapshot.firstLine).2
      cursor := cursor
      inFlight := none
      scanned := some report.snapshot
      status := .ready }) := by
  simp only [accept, h, ne_eq, not_true_eq_false, if_false, reindex]
  exact ⟨_, rfl⟩

/-- Once the scan of the epoch is heard of, no other is outstanding. -/
theorem Tracks.accept {scan : Scan} (h : Tracks latest (s, scan :: scans))
    (hcurrent : scan.epoch = s.epoch) : Tracks latest ((s.accept scan.answer).2, scans) := by
  obtain ⟨cursor, haccept⟩ := s.accept_eq (show scan.answer.epoch = s.epoch from hcurrent)
  have hcount : s.outstanding scans + 1 = if s.inFlight.isSome then 1 else 0 := by
    have := h.outstanding
    simp only [LiveSearch.outstanding] at this ⊢
    rwa [List.countP_cons_of_pos (by simpa using hcurrent)] at this
  have hflight : s.inFlight.isSome = true := by
    by_contra hnone
    simp [hnone] at hcount
  have hterm : s.term ≠ "" := by
    cases h.coherent with
    | idle _ _ inFlight => simp [show s.inFlight = none from inFlight] at hflight
    | scanning _ _ _ term => exact term
    | ready _ _ _ _ term => exact term
  simp only [haccept]
  refine ⟨.ready rfl _ rfl (Or.inl rfl) hterm, ?_, fun a ha => h.past a (List.mem_cons_of_mem _ ha),
    fun a ha => h.current a (List.mem_cons_of_mem _ ha), ?_⟩
  · rintro old hold
    cases hold
    exact (h.past scan (List.mem_cons_self ..)).2
  · simp only [hflight, if_true] at hcount
    exact Nat.succ.inj hcount

/-- There is no other scan of the epoch. -/
theorem Tracks.no_other {scan : Scan} (h : Tracks latest (s, scan :: scans))
    (hcurrent : scan.epoch = s.epoch) : ∀ a ∈ scans, a.epoch ≠ (s.accept scan.answer).2.epoch := by
  obtain ⟨cursor, haccept⟩ := s.accept_eq (show scan.answer.epoch = s.epoch from hcurrent)
  have hnone : (s.accept scan.answer).2.outstanding scans = 0 := by
    have houtstanding := (h.accept hcurrent).outstanding
    rw [haccept] at houtstanding ⊢
    exact houtstanding
  intro a ha hnow
  exact List.countP_eq_zero.1 hnone a ha (decide_eq_true hnow)

/-! ## Invariants -/

/-- A property of searches that keep up, with their scans, is kept by turns and by reports. -/
structure Invariant (P : Snapshot → LiveSearch × List Scan → Prop) : Prop where
  turn : ∀ {latest : Snapshot} {p q : LiveSearch × List Scan},
    Turn latest p q → Tracks latest p → P latest p → P latest q
  perm : ∀ {latest : Snapshot} {s : LiveSearch} {scans other : List Scan},
    P latest (s, scans) → other.Perm scans → P latest (s, other)
  /-- A scan whose epoch is over may go. -/
  lose : ∀ {latest : Snapshot} {s : LiveSearch} {scan : Scan} {scans : List Scan},
    P latest (s, scan :: scans) → scan.epoch ≠ s.epoch → P latest (s, scans)
  accept : ∀ {latest : Snapshot} {s : LiveSearch} {scan : Scan} {scans : List Scan},
    P latest (s, scan :: scans) → Tracks latest (s, scan :: scans) →
    s.generation = latest.generation → scan.epoch = s.epoch →
    P latest ((s.accept scan.answer).2, scans)

theorem Invariant.turns {P : Snapshot → LiveSearch × List Scan → Prop} (hP : Invariant P)
    {p q : LiveSearch × List Scan} (h : Turns latest p q) (ht : Tracks latest p)
    (hp : P latest p) : P latest q := by
  have hboth : Tracks latest q ∧ P latest q := by
    refine h.induction (P := fun p => Tracks latest p ∧ P latest p) ?_ ⟨ht, hp⟩
    rintro p q hturn ⟨ht, hp⟩
    exact ⟨hturn.tracks ht, hP.turn hturn ht hp⟩
  exact hboth.2

/-! ## Catching up -/

/-- After a look at the latest text the search waits for a scan, or it has seen that text. -/
theorem follow_upToDate (h : Tracks latest (s, scans)) : UpToDate latest (s.follow latest).1 := by
  have hpruned := (prune_turns latest s scans).1.tracks h
  unfold follow UpToDate
  generalize (s.enterGeneration latest.generation).prune latest.firstLine = t at hpruned
  simp only
  split
  · rename_i hrests
    intro hterm hflight
    simp [show t.term ≠ "" from hterm, show t.inFlight = none from hflight] at hrests
  · rename_i hactive
    split
    · intro _ hflight
      simp [fullScan] at hflight
    · intro _ hflight
      simp [fullScan] at hflight
    · rename_i old hready hold
      split
      · rename_i hsame
        rintro - -
        have heq := (hpruned.scanned old hold).eq_of_same hsame
        exact Or.inl ⟨hready, hold.trans (congrArg some heq)⟩
      · intro _ hflight
        simp at hflight
    · rename_i old hscanning hold
      cases hpruned.coherent with
      | idle status => simp [hscanning] at status
      | scanning _ scanned => simp [hold] at scanned
      | ready status => simp [hscanning] at status

theorem follow_generation (latest : Snapshot) (s : LiveSearch) :
    (s.follow latest).1.generation = latest.generation := by
  have hg := (prune_turns latest s []).2
  unfold follow
  generalize (s.enterGeneration latest.generation).prune latest.firstLine = t at hg
  simp only
  repeat' split
  all_goals exact hg

/-- A look at another text of the generation keeps what the search is ready with. -/
theorem follow_ready {old : Snapshot} (hg : s.generation = latest.generation)
    (hready : s.status = .ready) (hold : s.scanned = some old) :
    (s.follow latest).1.term = s.term ∧ (s.follow latest).1.status = .ready ∧
    (s.follow latest).1.scanned = some old := by
  obtain ⟨cursor, hprune⟩ := s.prune_eq latest.firstLine
  have henter : s.enterGeneration latest.generation = s := if_pos hg.symm
  unfold follow
  rw [henter, hprune]
  simp only [hready, hold]
  split
  · exact ⟨rfl, rfl, rfl⟩
  · split
    · exact ⟨rfl, rfl, rfl⟩
    · exact ⟨rfl, rfl, rfl⟩

/-- A search for a new term waits for a scan; nothing else that is committed changes anything. -/
theorem commit_upToDate (h : UpToDate latest s) (term : String) :
    UpToDate latest (s.commit term latest).1 := by
  unfold commit
  split
  · exact h
  · by_cases hterm : term = ""
    · simp [UpToDate, hterm]
    · simp [UpToDate, hterm, fullScan]

theorem clear_upToDate (h : UpToDate latest s) : UpToDate latest s.clear := by
  unfold clear
  split
  · exact h
  · simp [UpToDate]

/-- With no line to look at there is nothing to wait for. -/
theorem enterGeneration_upToDate (hempty : latest.lineCount = 0)
    (hnew : latest.generation ≠ s.generation) :
    UpToDate latest (s.enterGeneration latest.generation) := by
  intro _ _
  rw [enterGeneration, if_neg hnew]
  exact Or.inr ⟨rfl, hempty⟩

/-! ## Rest -/

theorem Coherent.index_of_no_term (h : s.Coherent) (hterm : s.term = "") : s.index = {} := by
  cases h with
  | idle status scanned inFlight index => exact index
  | scanning status scanned inFlight term => exact absurd hterm term
  | ready status old scanned inFlight term => exact absurd hterm term

theorem Coherent.status_of_no_term (h : s.Coherent) (hterm : s.term = "") : s.status = .idle := by
  cases h with
  | idle status scanned inFlight index => exact status
  | scanning status scanned inFlight term => exact absurd hterm term
  | ready status old scanned inFlight term => exact absurd hterm term

/-- Without a term another text of the generation is nothing to the search. -/
theorem follow_of_no_term (hg : s.generation = latest.generation) (hterm : s.term = "")
    (hindex : s.index = {}) : s.follow latest = (s, none) := by
  have henter : s.enterGeneration latest.generation = s := if_pos hg.symm
  have hprune : s.prune latest.firstLine = s := by
    have hzero : (s.index.pruneBefore latest.firstLine).1 = 0 := by
      simp [hindex, MatchIndex.pruneBefore, MatchIndex.rank]
    unfold prune
    split
    · rfl
    · rename_i count index hsome hpruned
      rw [hpruned] at hzero
      exact absurd hzero hsome
  unfold follow
  simp [henter, hprune, hterm]

theorem turn_lt (cursor : Option Nat) {count : Nat} (h : 0 < count) (direction : Direction) :
    turn cursor count direction < count := by
  cases direction with
  | next =>
    cases cursor with
    | none => exact h
    | some c => exact Nat.mod_lt _ h
  | prev =>
    cases cursor with
    | none => exact Nat.sub_lt h Nat.one_pos
    | some c => exact Nat.mod_lt _ h

/-- Where there is a match, one is gone to. -/
theorem navigate_of_none {direction : Direction} (h : (s.navigate direction).1 = none) :
    (s.navigate direction).2 = s := by
  unfold navigate at h ⊢
  split
  · rfl
  · rename_i hsome
    have hlt := turn_lt s.cursor (Nat.pos_of_ne_zero hsome) direction
    rw [if_neg hsome] at h
    simp only [activeLine?, Option.bind_some, MatchIndex.lineAt?, Option.map_eq_none_iff,
      Array.getElem?_eq_none_iff] at h
    exact absurd hlt (Nat.not_lt.2 h)

theorem select_of_none {position : Nat} (h : (s.select position).1 = none) :
    (s.select position).2 = s := by
  unfold select at h ⊢
  split
  · rfl
  · rename_i hline
    simp [hline] at h

end LiveSearch

end LogTail.Search
