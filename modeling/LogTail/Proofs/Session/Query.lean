import LogTail.Proofs.Query.Debounce
import LogTail.Proofs.Search.Cursor
import LogTail.Proofs.Session.Moves

/-!
# What is typed and what is sought

A session has the query three times: the raw term and the committed one of the debouncer, and the
term of the search. `Seeks` lists all that a call can do to the debouncer and the search, and
`call_seeks` says that there is nothing else; that the committed term is the one sought, that the
raw term is committed or waits, and that the active match is one of the matches (`Tuned`), is proved
from the list alone.
-/

namespace LogTail

open Query (Debouncer)
open Search (LiveSearch ScanReport)

namespace Search.LiveSearch

/-! ## The term -/

variable {s : LiveSearch}

@[simp] theorem enterGeneration_term (s : LiveSearch) (generation : Nat) :
    (s.enterGeneration generation).term = s.term := by
  unfold enterGeneration
  split <;> rfl

@[simp] theorem clear_term (s : LiveSearch) : s.clear.term = "" := by
  unfold clear
  split
  · rename_i hrests
    exact String.isEmpty_iff.1 hrests.1
  · rfl

@[simp] theorem commit_term (s : LiveSearch) (term : String) (latest : Log.Snapshot) :
    (s.commit term latest).1.term = term := by
  unfold commit
  split
  · rename_i hsame
    exact hsame.1.symm
  · by_cases hterm : term = "" <;> simp [hterm, restart, fullScan]

@[simp] theorem follow_term (s : LiveSearch) (latest : Log.Snapshot) :
    (s.follow latest).1.term = s.term := by
  obtain ⟨cursor, hprune⟩ := (s.enterGeneration latest.generation).prune_eq latest.firstLine
  have hterm : ((s.enterGeneration latest.generation).prune latest.firstLine).term = s.term := by
    rw [hprune]
    exact s.enterGeneration_term _
  unfold follow
  generalize (s.enterGeneration latest.generation).prune latest.firstLine = t at hterm
  simp only
  repeat' split
  all_goals exact hterm

@[simp] theorem accept_term (s : LiveSearch) (report : ScanReport) :
    (s.accept report).2.term = s.term := by
  unfold accept
  split <;> rfl

@[simp] theorem navigate_term (s : LiveSearch) (direction : Direction) :
    (s.navigate direction).2.term = s.term := by
  obtain ⟨cursor, hcursor⟩ := s.navigate_snd direction
  rw [hcursor]

theorem isActive_of_term {t : LiveSearch} (h : t.term = s.term) : t.isActive = s.isActive := by
  rw [isActive, h, isActive]

end Search.LiveSearch

namespace Session

/-! ## Calls -/

/-- What a call types, if it types anything. A result that is opened ends the search. -/
def types? (s : Session) : Call → Option String
  | .editQuery raw _ => some raw
  | .clearQuery => some ""
  | .openResult position => if (s.search.select position).1.isSome then some "" else none
  | _ => none

/-- What a step can do to the debouncer and the search, and what is typed by it, if anything. -/
inductive Seeks (query : Debouncer) (search : LiveSearch) :
    Option String → Debouncer → LiveSearch → Prop where
  /-- Neither is touched. -/
  | rests : Seeks query search none query search
  /-- Another match is the active one. -/
  | points (direction : Search.Direction) :
      Seeks query search none query (search.navigate direction).2
  /-- Another source is shown. -/
  | enters (generation : Nat) : Seeks query search none query (search.enterGeneration generation)
  /-- A text took the place of the last one. -/
  | follows (latest : Log.Snapshot) : Seeks query search none query (search.follow latest).1
  /-- The report of a scan is heard of. -/
  | hears (report : ScanReport) (latest : Log.Snapshot) :
      Seeks query search none query ((search.accept report).2.follow latest).1
  | types (raw : String) (now : Nat) (kept : (query.edit raw now).1 = false) :
      Seeks query search (some raw) (query.edit raw now).2 search
  /-- The query is emptied. -/
  | empties (raw : String) (now : Nat) (dropped : (query.edit raw now).1 = true) :
      Seeks query search (some raw) (query.edit raw now).2 search.clear
  | waits (now : Nat) (quiet : (query.poll now).1 = none) :
      Seeks query search none (query.poll now).2 search
  | commits (now : Nat) (term : String) (latest : Log.Snapshot)
      (told : (query.poll now).1 = some term) :
      Seeks query search none (query.poll now).2 (search.commit term latest).1
  | clears : Seeks query search (some "") query.clear.2 search.clear
  /-- A match is gone to, and the search is over. -/
  | opens (position : Nat) :
      Seeks query search (some "") query.clear.2 (search.select position).2.clear

/-- What becomes of the debouncer and the search between two states of a session. -/
abbrev SeeksTo (s : Session) (typed : Option String) (t : Session) : Prop :=
  Seeks s.query s.search typed t.query t.search

theorem switchSource_seeks (s : Session) (source : Source) :
    s.SeeksTo none (s.call (.switchSource source)).1 := by
  cases hfault : source.fault? with
  | some fault =>
    simp only [call, s.switchSource_of_fault hfault]
    exact .rests
  | none =>
    simp only [call, s.switchSource_of_none hfault]
    exact .enters _

theorem onFetched_seeks (s : Session) (report : FetchReport) :
    s.SeeksTo none (s.onFetched report).1 := by
  rcases s.onFetched_cases report with ⟨tally, h, -⟩ | ⟨text, tally, segments, -, -, -, h⟩
  · rw [h]
    exact .rests
  · rw [h]
    exact .follows _

theorem tick_query (s : Session) (now : Nat) : (s.tick now).1.query = (s.query.poll now).2 := by
  unfold tick
  split
  · rename_i h
    rw [h]
  · rename_i h
    rw [h]
    simp only [commitTerm, withSearch_eq, searchCommands_fst]
    split <;> rfl

theorem tick_seeks (s : Session) (now : Nat) : s.SeeksTo none (s.tick now).1 := by
  rw [SeeksTo, tick_query]
  unfold tick
  split
  · rename_i hquiet
    exact .waits now (congrArg Prod.fst hquiet)
  · rename_i term _ htold
    simp only [commitTerm, withSearch_eq, searchCommands_fst]
    split <;> exact .commits now term s.snapshot (congrArg Prod.fst htold)

theorem editQuery_seeks (s : Session) (raw : String) (now : Nat) :
    s.SeeksTo (some raw) (s.editQuery raw now).1 := by
  unfold editQuery
  split
  · rename_i query hkept
    have htypes : Seeks s.query s.search (some raw) (s.query.edit raw now).2 s.search :=
      .types raw now (congrArg Prod.fst hkept)
    rwa [hkept] at htypes
  · rename_i query hdropped
    have hempties : Seeks s.query s.search (some raw) (s.query.edit raw now).2 s.search.clear :=
      .empties raw now (congrArg Prod.fst hdropped)
    rwa [hdropped] at hempties

theorem navigate_seeks (s : Session) (direction : Search.Direction) :
    s.SeeksTo none (s.navigate direction).1 := by
  have hpoints : Seeks s.query s.search none s.query (s.search.navigate direction).2 :=
    .points direction
  unfold navigate
  split
  · rename_i h
    rwa [h] at hpoints
  · rename_i h
    rwa [h] at hpoints

theorem openResult_seeks (s : Session) (position : Nat) :
    s.SeeksTo (if (s.search.select position).1.isSome then some "" else none)
      (s.openResult position).1 := by
  have hopens : Seeks s.query s.search (some "") s.query.clear.2
      (s.search.select position).2.clear := .opens position
  cases h : s.search.select position with
  | mk line? search =>
    cases line? with
    | none =>
      have hsearch : search = s.search := by
        have hkept := LiveSearch.select_of_none (s := s.search) (congrArg Prod.fst h)
        rwa [h] at hkept
      simp only [openResult, h, hsearch]
      exact .rests
    | some line =>
      rw [h] at hopens
      simp only [openResult, h]
      exact hopens

/-- **What a call does to what is typed and what is sought.** -/
theorem call_seeks (s : Session) (c : Call) : s.SeeksTo (s.types? c) (s.call c).1 := by
  cases c with
  | start =>
    simp only [call, start]
    cases s.source.fault? <;> exact .rests
  | switchSource source => exact s.switchSource_seeks source
  | fetched report => exact s.onFetched_seeks report
  | exported result => exact .rests
  | editQuery raw now => exact s.editQuery_seeks raw now
  | tick now => exact s.tick_seeks now
  | clearQuery => exact .clears
  | navigate direction => exact s.navigate_seeks direction
  | openResult position => exact s.openResult_seeks position
  | scrollBy delta => exact .rests
  | scrollToTop => exact .rests
  | jumpToLatest => exact .rests
  | finishFrame => exact .rests
  | setHeight height => exact .rests
  | setSelecting active => exact .rests
  | segmentsForLine snapshot line =>
    simp only [call, segmentsForLine]
    split <;> exact .rests
  | exportLog => exact .rests

theorem scanned_seeks (s : Session) (report : ScanReport) :
    s.SeeksTo none (s.handle (.scanned report)).1 := by
  by_cases hepoch : report.epoch = s.search.epoch
  · have hquery : (s.handle (.scanned report)).1.query = s.query := by
      simp only [handle, onScanned]
      split
      · rfl
      · simp [searchCommands_fst, withSearch_eq]
    rw [SeeksTo, hquery, (handle_scanned_current hepoch).1]
    exact .hears report s.snapshot
  · rw [handle_scanned_stale hepoch]
    exact .rests

/-! ## What every step keeps -/

/-- The committed term is the one sought, the raw one is committed or waits, and the active match is
one of the matches. -/
structure Tuned (query : Debouncer) (search : LiveSearch) : Prop where
  inOrder : query.InOrder
  committed : query.committed = search.term
  points : search.Points

variable {query query' : Debouncer} {search search' : LiveSearch} {typed : Option String}

theorem tuned_new (settings : Settings) (source : Source) :
    Tuned (Session.new settings source).query (Session.new settings source).search :=
  ⟨Debouncer.inOrder_new _, rfl, LiveSearch.points_of_none rfl⟩

/-- The raw term is what was typed last. -/
theorem Seeks.raw (h : Seeks query search typed query' search') :
    query'.raw = typed.getD query.raw := by
  cases h with
  | types raw now kept => exact query.edit_raw raw now
  | empties raw now dropped => exact query.edit_raw raw now
  | waits now quiet => exact query.poll_raw now
  | commits now term latest told => exact query.poll_raw now
  | _ => rfl

theorem Seeks.tuned (h : Seeks query search typed query' search') (ht : Tuned query search) :
    Tuned query' search' := by
  cases h with
  | rests => exact ht
  | points direction =>
    exact ⟨ht.inOrder, ht.committed.trans (by simp), LiveSearch.navigate_points ht.points direction⟩
  | enters generation =>
    exact ⟨ht.inOrder, ht.committed.trans (by simp),
      LiveSearch.enterGeneration_points ht.points generation⟩
  | follows latest =>
    exact ⟨ht.inOrder, ht.committed.trans (by simp), LiveSearch.follow_points ht.points latest⟩
  | hears report latest =>
    exact ⟨ht.inOrder, ht.committed.trans (by simp),
      LiveSearch.follow_points (LiveSearch.accept_points ht.points report) latest⟩
  | types raw now kept =>
    refine ⟨Debouncer.edit_inOrder ht.inOrder raw now, ?_, ht.points⟩
    rw [Debouncer.edit_committed, kept]
    exact ht.committed
  | empties raw now dropped =>
    refine ⟨Debouncer.edit_inOrder ht.inOrder raw now, ?_, LiveSearch.clear_points ht.points⟩
    rw [Debouncer.edit_committed, dropped, LiveSearch.clear_term]
    rfl
  | waits now quiet =>
    refine ⟨Debouncer.poll_inOrder ht.inOrder now, ?_, ht.points⟩
    rw [Debouncer.poll_committed, quiet]
    exact ht.committed
  | commits now term latest told =>
    refine ⟨Debouncer.poll_inOrder ht.inOrder now, ?_,
      LiveSearch.commit_points ht.points term latest⟩
    rw [Debouncer.poll_committed, told, LiveSearch.commit_term]
    rfl
  | clears =>
    exact ⟨query.clear_inOrder, (LiveSearch.clear_term _).symm, LiveSearch.clear_points ht.points⟩
  | opens position =>
    exact ⟨query.clear_inOrder, (LiveSearch.clear_term _).symm,
      LiveSearch.clear_points (LiveSearch.select_points ht.points position)⟩

/-- Where no edit waits, the raw term is the one sought. -/
theorem Tuned.term_of_quiet (h : Tuned query search) (hquiet : query.lastEdit = none) :
    search.term = query.raw :=
  h.committed.symm.trans (h.inOrder.quiet hquiet).symm

/-- Where nothing is typed, a search is lost to an edit that waits only. -/
theorem Seeks.keeps_active (h : Seeks query search none query' search')
    (hactive : search.isActive = true) : query.isPending = true ∨ search'.isActive = true := by
  cases h with
  | rests => exact Or.inr hactive
  | points direction => exact Or.inr ((LiveSearch.isActive_of_term (by simp)).trans hactive)
  | enters generation => exact Or.inr ((LiveSearch.isActive_of_term (by simp)).trans hactive)
  | follows latest => exact Or.inr ((LiveSearch.isActive_of_term (by simp)).trans hactive)
  | hears report latest => exact Or.inr ((LiveSearch.isActive_of_term (by simp)).trans hactive)
  | waits now quiet => exact Or.inr hactive
  | commits now term latest told => exact Or.inl (Debouncer.isPending_of_told told)

/-- Where nothing is typed, no edit begins to wait. -/
theorem Seeks.keeps_quiet (h : Seeks query search none query' search')
    (hpending : query'.isPending = true) : query.isPending = true := by
  cases h with
  | waits now quiet => exact Debouncer.isPending_of_poll hpending
  | commits now term latest told => exact Debouncer.isPending_of_told told
  | _ => exact hpending

end Session

namespace Ensemble

/-- Scans that get on type nothing. -/
theorem step_seeks (e : Ensemble) {st : Step} (hst : ∀ c, st ≠ .call c) :
    e.session.SeeksTo none (e.step st).1.session := by
  cases st with
  | call c => exact absurd rfl (hst c)
  | begin i =>
    simp only [step, begin]
    split <;> exact .rests
  | advance i =>
    simp only [step, advance]
    split
    · exact .rests
    · split <;> exact .rests
  | deliver i =>
    simp only [step, deliver]
    split
    · exact .rests
    · exact e.session.scanned_seeks _

theorem tuned_step {e : Ensemble} (h : Session.Tuned e.session.query e.session.search) (st : Step) :
    Session.Tuned (e.step st).1.session.query (e.step st).1.session.search := by
  by_cases hcall : ∃ c, st = .call c
  · obtain ⟨c, rfl⟩ := hcall
    exact (e.session.call_seeks c).tuned h
  · exact (e.step_seeks fun c hc => hcall ⟨c, hc⟩).tuned h

theorem tuned_run (settings : Settings) (source : Source) (steps : List Step) :
    Session.Tuned ((new settings source).run steps).session.query
      ((new settings source).run steps).session.search :=
  run_induction (P := fun e => Session.Tuned e.session.query e.session.search)
    (Session.tuned_new settings source) (fun _ st h => tuned_step h st) steps

end Ensemble

end LogTail
