import LogTail.Log.Snapshot

/-!
# Laws of snapshots

Which numbered lines a snapshot lists from a number on, told by `line?` alone, and how two
snapshots of one buffer stand to each other: the older one is known to the newer (`Knows`), within
a generation the newer one goes on from it (`Advances`), and it extends it as long as the log only
grew (`Extends`).
-/

namespace LogTail.Log.Snapshot

theorem line?_eq_some {s : Snapshot} {n : Nat} {text : String} :
    s.line? n = some text ↔ s.firstLine ≤ n ∧ s.lines[n - s.firstLine]? = some text := by
  unfold line?
  split
  · rename_i h
    simp only [reduceCtorEq, false_iff, not_and]
    omega
  · rename_i h
    exact ⟨fun ht => ⟨Nat.le_of_not_lt h, ht⟩, fun ht => ht.2⟩

theorem line?_isSome {s : Snapshot} {n : Nat} :
    (s.line? n).isSome ↔ s.firstLine ≤ n ∧ n < s.lineCount := by
  rw [Option.isSome_iff_exists]
  simp only [line?_eq_some, exists_and_left, lineCount, Array.getElem?_eq_some_iff]
  constructor
  · rintro ⟨hle, _, hlt, _⟩
    exact ⟨hle, by omega⟩
  · rintro ⟨hle, hlt⟩
    exact ⟨hle, _, by omega, rfl⟩

/-- The lines from a number on are the retained ones that do not come before it. -/
theorem mem_linesFrom {s : Snapshot} {start n : Nat} {text : String} :
    (n, text) ∈ s.linesFrom start ↔ start ≤ n ∧ s.line? n = some text := by
  have hmem : (n, text) ∈ s.linesFrom start ↔
      s.firstLine + min (start - s.firstLine) s.lines.size ≤ n ∧
      s.lines[n - s.firstLine]? = some text := by
    have hget (hle : s.firstLine + min (start - s.firstLine) s.lines.size ≤ n) :
        (s.lines.toList.drop (min (start - s.firstLine) s.lines.size))[n - (s.firstLine +
          min (start - s.firstLine) s.lines.size)]? = s.lines[n - s.firstLine]? := by
      rw [List.getElem?_drop, Array.getElem?_toList]
      congr 1
      omega
    simp only [linesFrom, List.mem_map, Prod.exists, Prod.mk.injEq]
    constructor
    · rintro ⟨t, m, hm, rfl, rfl⟩
      obtain ⟨hle, ht⟩ := List.mk_mem_zipIdx_iff_le_and_getElem?_sub.1 hm
      exact ⟨hle, hget hle ▸ ht⟩
    · rintro ⟨hle, ht⟩
      exact ⟨text, n, List.mk_mem_zipIdx_iff_le_and_getElem?_sub.2 ⟨hle, hget hle ▸ ht⟩, rfl, rfl⟩
  rw [hmem, line?_eq_some, ← and_assoc]
  refine and_congr_left fun ht => ?_
  have hlt := (Array.getElem?_eq_some_iff.1 ht).1
  omega

/-- From the first line on all retained lines are listed. -/
theorem linesFrom_snd (s : Snapshot) :
    (s.linesFrom s.firstLine).map Prod.snd = s.lines.toList := by
  rw [linesFrom, Nat.sub_self, Nat.zero_min, List.drop_zero, List.map_map]
  exact List.zipIdx_map_fst _ _

/-- Lines are listed in the order of their numbers. -/
theorem linesFrom_pairwise (s : Snapshot) (start : Nat) :
    (s.linesFrom start).Pairwise fun a b => a.1 < b.1 := by
  rw [linesFrom, List.pairwise_map]
  apply List.pairwise_map.1
  change ((List.zipIdx _ _).map Prod.snd).Pairwise (· < ·)
  rw [List.zipIdx_map_snd]
  exact List.pairwise_lt_range'

/-! ## Older and newer snapshots -/

/-- Whether a buffer that is at `latest` knows a snapshot: it is the latest or an older one. -/
def Knows (latest snapshot : Snapshot) : Prop :=
  snapshot = latest ∨ snapshot.version < latest.version

theorem Knows.refl (latest : Snapshot) : latest.Knows latest := Or.inl rfl

theorem Knows.later {latest newest snapshot : Snapshot} (h : latest.Knows snapshot)
    (hnewest : newest = latest ∨ latest.version < newest.version) : newest.Knows snapshot := by
  rcases hnewest with rfl | hv
  · exact h
  · rcases h with rfl | h
    · exact Or.inr hv
    · exact Or.inr (Nat.lt_trans h hv)

/-- A known snapshot of the same text is the same snapshot. -/
theorem Knows.eq_of_same {latest snapshot : Snapshot} (h : latest.Knows snapshot)
    (hsame : snapshot.same latest = true) : snapshot = latest := by
  rcases h with h | h
  · exact h
  · simp only [same, beq_iff_eq] at hsame
    omega

/-- A new snapshot is of another text than those known before. -/
theorem Knows.differs {latest newest snapshot : Snapshot} (h : latest.Knows snapshot)
    (hv : latest.version < newest.version) : snapshot.same newest = false := by
  refine Bool.eq_false_iff.2 fun hsame => ?_
  simp only [same, beq_iff_eq] at hsame
  rcases h with rfl | h <;> omega

/-- A known snapshot of another text is an older one. -/
theorem Knows.older {latest snapshot : Snapshot} (h : latest.Knows snapshot)
    (hdiffers : snapshot.same latest = false) : snapshot.version < latest.version := by
  rcases h with rfl | h
  · simp [same] at hdiffers
  · exact h

/-- A later snapshot of a generation, whatever the text: lines are evicted in front only, and none
of those that there are is missing at the end. -/
structure Advances (older newer : Snapshot) : Prop where
  firstLine : older.firstLine ≤ newer.firstLine
  lineCount : older.lineCount ≤ newer.lineCount

theorem Advances.refl (s : Snapshot) : s.Advances s := ⟨Nat.le_refl _, Nat.le_refl _⟩

theorem Advances.trans {s t u : Snapshot} (h₁ : s.Advances t) (h₂ : t.Advances u) : s.Advances u :=
  ⟨Nat.le_trans h₁.firstLine h₂.firstLine, Nat.le_trans h₁.lineCount h₂.lineCount⟩

/-- A later snapshot of a log that grew: lines were evicted in front and came behind, and of those
that both retain only the last one of the earlier snapshot may have changed. -/
structure Extends (older newer : Snapshot) : Prop where
  firstLine : older.firstLine ≤ newer.firstLine
  lineCount : older.lineCount ≤ newer.lineCount
  kept : ∀ n, newer.firstLine ≤ n → n + 1 < older.lineCount → newer.line? n = older.line? n

theorem Extends.refl (s : Snapshot) : s.Extends s :=
  ⟨Nat.le_refl _, Nat.le_refl _, fun _ _ _ => rfl⟩

theorem Extends.trans {s t u : Snapshot} (h₁ : s.Extends t) (h₂ : t.Extends u) : s.Extends u where
  firstLine := Nat.le_trans h₁.firstLine h₂.firstLine
  lineCount := Nat.le_trans h₁.lineCount h₂.lineCount
  kept n hfirst hlast := by
    rw [h₂.kept n hfirst (Nat.lt_of_lt_of_le hlast h₁.lineCount),
      h₁.kept n (Nat.le_trans h₂.firstLine hfirst) hlast]

/-- A line of the older snapshot is in the newer one, unless it was evicted. -/
theorem Extends.line?_isSome {older newer : Snapshot} {n : Nat} (h : older.Extends newer)
    (hn : (older.line? n).isSome = true) (hretained : newer.firstLine ≤ n) :
    (newer.line? n).isSome = true :=
  Snapshot.line?_isSome.2
    ⟨hretained, Nat.lt_of_lt_of_le (Snapshot.line?_isSome.1 hn).2 h.lineCount⟩

end LogTail.Log.Snapshot
