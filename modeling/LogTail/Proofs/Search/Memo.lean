import LogTail.Proofs.Search.Segments

/-!
# A bounded memo

A store of segments is bounded and can be emptied at any question, and yet nobody can tell it from
computing every answer afresh. `Looks` lists what a question can do: find its answer, add it, or
empty the store first. What every question keeps is read off the list: the store never holds more
than it may (`Bounded`), and the number of a stored value is its own (`Numbered`).

Two answers are one stored value just in case the questions are the same and nothing was emptied in
between: a value stays until then (`Holds`), and whatever is stored afterwards has a later number
(`Since`).
-/

namespace LogTail.Search.SegmentCache

variable {cache : SegmentCache} {line term : String} {r : CachedSegments × SegmentCache}

/-! ## One question -/

/-- A question empties the store first: it is for another term, or of a new line while the store is
full. -/
def Flushes (cache : SegmentCache) (line term : String) : Prop :=
  term ≠ cache.term ∨ (cache.entries[line]? = none ∧ cache.capacity ≤ cache.size)

/-- What a question can do. -/
inductive Looks (cache : SegmentCache) (line term : String) :
    CachedSegments × SegmentCache → Prop where
  | finds (hit : CachedSegments) (same : term = cache.term)
      (stored : cache.entries[line]? = some hit) : Looks cache line term (hit, cache)
  | adds (fresh : CachedSegments) (same : term = cache.term) (new : cache.entries[line]? = none)
      (room : cache.size < cache.capacity) (serial : fresh.serial = cache.computed) :
      Looks cache line term (fresh, { cache with
        entries := cache.entries.insert line fresh, computed := cache.computed + 1 })
  | flushes (fresh : CachedSegments) (needle : Needle) (flushes : cache.Flushes line term)
      (serial : fresh.serial = cache.computed) :
      Looks cache line term (fresh, { cache with
        term := term
        needle := needle
        entries := ({} : Std.HashMap String CachedSegments).insert line fresh
        computed := cache.computed + 1 })

theorem lookup_looks (cache : SegmentCache) (line term : String) :
    cache.Looks line term (cache.lookup line term) := by
  by_cases hterm : term = cache.term
  · cases hline : cache.entries[line]? with
    | some hit =>
      simp only [lookup, forTerm, if_pos hterm, hline]
      exact .finds hit hterm hline
    | none =>
      simp only [lookup, forTerm, if_pos hterm, hline]
      by_cases hfull : cache.capacity ≤ cache.entries.size
      · have hflushes : cache.Flushes line cache.term := Or.inr ⟨hline, hfull⟩
        rw [if_pos hfull, hterm]
        exact .flushes _ _ hflushes rfl
      · rw [if_neg hfull]
        exact .adds _ hterm hline (Nat.lt_of_not_le hfull) rfl
  · simp only [lookup, forTerm, if_neg hterm, Std.HashMap.getElem?_empty, ite_self]
    exact .flushes _ _ (Or.inl hterm) rfl

/-! ## The bound -/

/-- The store has room for something and holds no more than it has room for. -/
structure Bounded (most : Nat) (cache : SegmentCache) : Prop where
  capacity : cache.capacity = max most 1
  size : cache.size ≤ max most 1

theorem bounded_empty (most : Nat) : (empty most).Bounded most where
  capacity := rfl
  size := Nat.zero_le _

theorem Looks.bounded {most : Nat} (looks : cache.Looks line term r) (h : cache.Bounded most) :
    r.2.Bounded most := by
  cases looks with
  | finds hit same stored => exact h
  | adds fresh same new room serial =>
    have hinsert : (cache.entries.insert line fresh).size ≤ cache.size + 1 :=
      Std.HashMap.size_insert_le
    exact ⟨h.capacity, Nat.le_trans hinsert (h.capacity ▸ room)⟩
  | flushes fresh needle flushes serial =>
    have hinsert : (({} : Std.HashMap String CachedSegments).insert line fresh).size ≤ 0 + 1 :=
      Std.HashMap.size_insert_le
    exact ⟨h.capacity, Nat.le_trans hinsert (Nat.le_max_right _ _)⟩

/-- The store has the answer to a question. -/
structure Holds (cache : SegmentCache) (line term : String) (hit : CachedSegments) : Prop where
  stored : cache.entries[line]? = some hit
  term : cache.term = term

/-- What was answered is remembered. -/
theorem Looks.holds (looks : cache.Looks line term r) : r.2.Holds line term r.1 := by
  cases looks with
  | finds hit same stored => exact ⟨stored, same.symm⟩
  | adds fresh same new room serial => exact ⟨Std.HashMap.getElem?_insert_self, same.symm⟩
  | flushes fresh needle flushes serial => exact ⟨Std.HashMap.getElem?_insert_self, rfl⟩

theorem Holds.size_pos {hit : CachedSegments} (h : cache.Holds line term hit) :
    1 ≤ cache.size := by
  refine Nat.pos_of_ne_zero fun hzero => ?_
  have hempty : cache.entries.isEmpty = true := by
    rw [Std.HashMap.isEmpty_eq_size_eq_zero]
    exact beq_iff_eq.2 hzero
  have hnone : cache.entries[line]? = none := Std.HashMap.getElem?_of_isEmpty hempty
  rw [h.stored] at hnone
  cases hnone

/-! ## The number of a stored value -/

/-- Everything stored was numbered from `first` on and before now, no two lines alike. -/
structure Numbered (first : Nat) (cache : SegmentCache) : Prop where
  computed : first ≤ cache.computed
  since : ∀ {line : String} {hit : CachedSegments}, cache.entries[line]? = some hit →
    first ≤ hit.serial
  before : ∀ {line : String} {hit : CachedSegments}, cache.entries[line]? = some hit →
    hit.serial < cache.computed
  distinct : ∀ {line other : String} {hit : CachedSegments}, cache.entries[line]? = some hit →
    cache.entries[other]? = some hit → other = line

theorem numbered_empty (capacity : Nat) : (empty capacity).Numbered 0 where
  computed := Nat.le_refl _
  since _ := Nat.zero_le _
  before h := by simp [empty] at h
  distinct h := by simp [empty] at h

/-- A new value beside old ones, numbered next. -/
theorem Numbered.insert {first : Nat} {fresh : CachedSegments} (h : cache.Numbered first)
    (serial : fresh.serial = cache.computed) (needle : Needle) :
    Numbered first { cache with
      term := term
      needle := needle
      entries := cache.entries.insert line fresh
      computed := cache.computed + 1 } := by
  have hentry : ∀ {other : String} {hit : CachedSegments},
      (cache.entries.insert line fresh)[other]? = some hit →
      (line = other ∧ fresh = hit) ∨ (line ≠ other ∧ cache.entries[other]? = some hit) := by
    intro other hit hhit
    rw [Std.HashMap.getElem?_insert] at hhit
    by_cases hline : line = other
    · rw [if_pos (beq_iff_eq.2 hline)] at hhit
      exact .inl ⟨hline, Option.some.inj hhit⟩
    · rw [if_neg (mt beq_iff_eq.1 hline)] at hhit
      exact .inr ⟨hline, hhit⟩
  refine ⟨Nat.le_succ_of_le h.computed, fun hhit => ?_, fun hhit => ?_, fun hhit hother => ?_⟩
  · obtain ⟨-, rfl⟩ | ⟨-, hold⟩ := hentry hhit
    · exact serial ▸ h.computed
    · exact h.since hold
  · obtain ⟨-, rfl⟩ | ⟨-, hold⟩ := hentry hhit
    · exact serial ▸ Nat.lt_succ_self _
    · exact Nat.lt_succ_of_lt (h.before hold)
  · -- The new value is not an old one: it is numbered past all of them.
    obtain ⟨rfl, rfl⟩ | ⟨-, hold⟩ := hentry hhit
    · obtain ⟨rfl, -⟩ | ⟨-, hold⟩ := hentry hother
      · rfl
      · exact absurd (h.before hold) (serial ▸ Nat.lt_irrefl _)
    · obtain ⟨-, rfl⟩ | ⟨-, hold'⟩ := hentry hother
      · exact absurd (h.before hold) (serial ▸ Nat.lt_irrefl _)
      · exact h.distinct hold hold'

/-- A store emptied now holds nothing of before. -/
theorem numbered_emptied (cache : SegmentCache) :
    Numbered cache.computed { cache with entries := {} } where
  computed := Nat.le_refl _
  since h := by simp at h
  before h := by simp at h
  distinct h := by simp at h

theorem Numbered.mono {first second : Nat} (h : cache.Numbered second) (hle : first ≤ second) :
    cache.Numbered first where
  computed := Nat.le_trans hle h.computed
  since hhit := Nat.le_trans hle (h.since hhit)
  before := h.before
  distinct := h.distinct

theorem Looks.numbered {first : Nat} (looks : cache.Looks line term r) (h : cache.Numbered first) :
    r.2.Numbered first := by
  cases looks with
  | finds hit same stored => exact h
  | adds fresh same new room serial => exact h.insert serial cache.needle
  | flushes fresh needle flushes serial =>
    exact (cache.numbered_emptied.insert serial needle).mono h.computed

/-- **A question that empties the store leaves nothing of before in it.** -/
theorem Looks.numbered_of_flushes (looks : cache.Looks line term r) (h : cache.Flushes line term) :
    r.2.Numbered cache.computed := by
  cases looks with
  | finds hit same stored =>
    obtain hother | ⟨hnew, -⟩ := h
    · exact absurd same hother
    · rw [stored] at hnew
      cases hnew
  | adds fresh same new room serial =>
    obtain hother | ⟨-, hfull⟩ := h
    · exact absurd same hother
    · exact absurd room (Nat.not_lt_of_le hfull)
  | flushes fresh needle flushes serial => exact cache.numbered_emptied.insert serial needle

/-- **A question that does not empty the store forgets nothing.** -/
theorem Looks.holds_of_not_flushes {other term' : String} {hit : CachedSegments}
    (looks : cache.Looks other term' r) (hquiet : ¬ cache.Flushes other term')
    (h : cache.Holds line term hit) : r.2.Holds line term hit := by
  cases looks with
  | finds hit' same stored => exact h
  | adds fresh same new room serial =>
    refine ⟨?_, h.term⟩
    have hne : other ≠ line := by
      rintro rfl
      rw [h.stored] at new
      cases new
    rw [Std.HashMap.getElem?_insert, if_neg (mt beq_iff_eq.1 hne)]
    exact h.stored
  | flushes fresh needle flushes serial => exact absurd flushes hquiet

/-- An answer given before is one that is still stored, and to the same question. -/
theorem Looks.eq_iff {other term' : String} {hit : CachedSegments} {first : Nat}
    (looks : cache.Looks other term' r) (hnumbered : cache.Numbered first)
    (h : cache.Holds line term hit) : r.1 = hit ↔ other = line ∧ term' = term := by
  have hlt := hnumbered.before h.stored
  cases looks with
  | finds hit' same stored =>
    constructor
    · rintro rfl
      exact ⟨hnumbered.distinct h.stored stored, same.trans h.term⟩
    · rintro ⟨rfl, -⟩
      exact Option.some.inj (stored.symm.trans h.stored)
  | adds fresh same new room serial =>
    constructor
    · rintro rfl
      exact absurd hlt (serial ▸ Nat.lt_irrefl _)
    · rintro ⟨rfl, -⟩
      rw [h.stored] at new
      cases new
  | flushes fresh needle flushes serial =>
    constructor
    · rintro rfl
      exact absurd hlt (serial ▸ Nat.lt_irrefl _)
    · rintro ⟨rfl, rfl⟩
      obtain hother | ⟨hnew, -⟩ := flushes
      · exact absurd h.term.symm hother
      · rw [h.stored] at hnew
        cases hnew

/-! ## Any number of questions -/

/-- What every question keeps, any number of questions keep. -/
theorem afterAll_induction {P : SegmentCache → Prop}
    (step : ∀ (cache : SegmentCache) (line term : String), P cache →
      P (cache.lookup line term).2)
    (queries : List (String × String)) : ∀ {cache : SegmentCache},
    P cache → P (cache.afterAll queries) := by
  induction queries with
  | nil => intro cache h; exact h
  | cons query queries ih => intro cache h; exact ih (step _ _ _ h)

theorem Bounded.afterAll {most : Nat} (queries : List (String × String))
    (h : cache.Bounded most) : (cache.afterAll queries).Bounded most :=
  afterAll_induction (fun cache line term h => (cache.lookup_looks line term).bounded h) queries h

theorem Numbered.afterAll {first : Nat} (queries : List (String × String))
    (h : cache.Numbered first) : (cache.afterAll queries).Numbered first :=
  afterAll_induction (fun cache line term h => (cache.lookup_looks line term).numbered h) queries h

/-- No question of these empties the store. -/
def Quiet (cache : SegmentCache) : List (String × String) → Prop
  | [] => True
  | query :: queries =>
    ¬ cache.Flushes query.1 query.2 ∧ (cache.lookup query.1 query.2).2.Quiet queries

theorem Holds.afterAll {hit : CachedSegments} (queries : List (String × String)) :
    ∀ {cache : SegmentCache}, cache.Quiet queries → cache.Holds line term hit →
      (cache.afterAll queries).Holds line term hit := by
  induction queries with
  | nil => intro cache _ h; exact h
  | cons query queries ih =>
    intro cache hquiet h
    exact ih hquiet.2 ((cache.lookup_looks _ _).holds_of_not_flushes hquiet.1 h)

theorem Looks.computed_le (looks : cache.Looks line term r) : cache.computed ≤ r.2.computed := by
  cases looks with
  | finds hit same stored => exact Nat.le_refl _
  | adds fresh same new room serial => exact Nat.le_succ _
  | flushes fresh needle flushes serial => exact Nat.le_succ _

/-- Once the store was emptied, everything in it was computed since. -/
theorem numbered_of_not_quiet (queries : List (String × String)) : ∀ {cache : SegmentCache},
    ¬ cache.Quiet queries → (cache.afterAll queries).Numbered cache.computed := by
  induction queries with
  | nil => intro cache hnot; exact absurd trivial hnot
  | cons query queries ih =>
    intro cache hnot
    have looks := cache.lookup_looks query.1 query.2
    by_cases hflushes : cache.Flushes query.1 query.2
    · exact (looks.numbered_of_flushes hflushes).afterAll queries
    · have hlater : ¬ (cache.lookup query.1 query.2).2.Quiet queries :=
        fun hquiet => hnot ⟨hflushes, hquiet⟩
      exact (ih hlater).mono looks.computed_le

/-- A later answer is an earlier one just in case the question is the same and the store was not
emptied in between. -/
theorem Holds.answer_eq_iff {hit : CachedSegments} {first : Nat} (h : cache.Holds line term hit)
    (hnumbered : cache.Numbered first) (queries : List (String × String))
    (other term' : String) :
    ((cache.afterAll queries).lookup other term').1 = hit ↔
      other = line ∧ term' = term ∧ cache.Quiet queries := by
  have looks := (cache.afterAll queries).lookup_looks other term'
  by_cases hquiet : cache.Quiet queries
  · rw [looks.eq_iff (hnumbered.afterAll queries) (h.afterAll queries hquiet)]
    simp only [hquiet, and_true]
  · -- The answer was computed after the store was emptied, and what it is compared with before.
    have hnew := (looks.numbered (numbered_of_not_quiet queries hquiet)).since looks.holds.stored
    have hold := hnumbered.before h.stored
    constructor
    · rintro rfl
      exact absurd hnew (Nat.not_le_of_lt hold)
    · rintro ⟨-, -, hq⟩
      exact absurd hq hquiet

/-- **A store of segments is a transparent, bounded memo.** Whatever it was asked before, the answer
is what cutting the plain text of the line at the occurrences of the term gives, the store then has
at least one line and at most its capacity, and asking again gives the very same stored value, as
long as the store was not emptied in between; nothing else gives that value. -/
theorem lookup_transparent (capacity : Nat) (queries : List (String × String))
    (line term : String) :
    let answer := ((empty capacity).afterAll queries).lookup line term
    let shown := if Text.Escape.present line then Text.Escape.strip line else line
    answer.1.segments = splitSegments shown ((Needle.ofTerm term).findSpans shown) ∧
    1 ≤ answer.2.size ∧ answer.2.size ≤ max capacity 1 ∧
    ∀ (more : List (String × String)) (other term' : String),
      ((answer.2.afterAll more).lookup other term').1 = answer.1 ↔
        other = line ∧ term' = term ∧ answer.2.Quiet more := by
  intro answer shown
  have looks := ((empty capacity).afterAll queries).lookup_looks line term
  have hfaithful := (faithful_empty capacity).afterAll queries
  have hbounded := looks.bounded ((bounded_empty capacity).afterAll queries)
  have hnumbered := looks.numbered ((numbered_empty capacity).afterAll queries)
  exact ⟨(hfaithful.lookup line term).1, looks.holds.size_pos, hbounded.size,
    looks.holds.answer_eq_iff hnumbered⟩

end LogTail.Search.SegmentCache
