import LogTail.Text.Utf8
import Mathlib.Algebra.Ring.Nat

/-!
# ASCII in a byte string

An ASCII byte is read as the character that it is, wherever it stands: it continues no character,
and what stands before and behind it is read on its own (`decode_append`). No other byte is read as
an ASCII character (`not_mem_decode`): inside a character the value in the end is beyond ASCII
whatever comes next, which is what `State.Sound` says, and a replacement character is none.
-/

namespace LogTail.Text.Utf8

/-! ## Byte by byte -/

/-- One byte: where the reader stands then, and what it writes. -/
def State.read : State → UInt8 → State × List Char
  | .start, b => ((first b).1, (first b).2.toList)
  | .inside wanted low high value, b =>
    if low ≤ b ∧ b ≤ high then
      if wanted ≤ 1 then (.start, [Char.ofNat (value * 64 + (b.toNat - 0x80))])
      else (.inside (wanted - 1) 0x80 0xBF (value * 64 + (b.toNat - 0x80)), [])
    else ((first b).1, replacement :: (first b).2.toList)

/-- What the end of the bytes writes. -/
def State.close : State → List Char
  | .start => []
  | .inside .. => [replacement]

/-- What is written from a state on. -/
def charsFrom : State → List UInt8 → List Char
  | state, [] => state.close
  | state, b :: bs => (state.read b).2 ++ charsFrom (state.read b).1 bs

theorem toList_decodeFrom (state : State) (bytes : List UInt8) (done : Array Char) :
    (decodeFrom state bytes done).toList = done.toList ++ charsFrom state bytes := by
  fun_induction decodeFrom state bytes done with
  | case1 => simp [charsFrom, State.close]
  | case2 => simp [charsFrom, State.close]
  | case3 b bs done state c hfirst ih => simp [ih, charsFrom, State.read, hfirst]
  | case4 b bs done state hfirst ih => simp [ih, charsFrom, State.read, hfirst]
  | case5 wanted low high value b bs done hrange value' hwanted ih =>
    rw [Bool.and_eq_true, decide_eq_true_iff, decide_eq_true_iff] at hrange
    simp [ih, charsFrom, State.read, hrange, hwanted, value']
  | case6 wanted low high value b bs done hrange value' hwanted ih =>
    rw [Bool.and_eq_true, decide_eq_true_iff, decide_eq_true_iff] at hrange
    simp [ih, charsFrom, State.read, hrange, hwanted, value']
  | case7 wanted low high value b bs done hrange state c hfirst ih =>
    rw [Bool.and_eq_true, decide_eq_true_iff, decide_eq_true_iff] at hrange
    simp [ih, charsFrom, State.read, hrange, hfirst]
  | case8 wanted low high value b bs done hrange state hfirst ih =>
    rw [Bool.and_eq_true, decide_eq_true_iff, decide_eq_true_iff] at hrange
    simp [ih, charsFrom, State.read, hrange, hfirst]

theorem toList_decode (bytes : List UInt8) : (decode bytes).toList = charsFrom .start bytes := by
  rw [decode, String.toList_ofList, toList_decodeFrom]
  rfl

/-! ## Inside a character -/

/-- All values from the least one to below the bound are those of characters beyond ASCII. -/
def Beyond (least bound : Nat) : Prop :=
  0x80 ≤ least ∧ bound ≤ 0x110000 ∧ (bound ≤ 0xD800 ∨ 0xE000 ≤ least)

/-- Inside a character, the value in the end is that of one beyond ASCII, whatever comes next. -/
def State.Sound : State → Prop
  | .start => True
  | .inside wanted low high value => 1 ≤ wanted ∧ 0x80 ≤ low.toNat ∧
    Beyond ((value * 64 + (low.toNat - 0x80)) * 64 ^ (wanted - 1))
      ((value * 64 + (high.toNat - 0x80) + 1) * 64 ^ (wanted - 1))

variable {b : UInt8} {bs rest : List UInt8} {c : Char} {state : State}

theorem first_of_ascii (hb : b < 0x80) : first b = (.start, some (Char.ofNat b.toNat)) := by
  rw [first, if_pos hb]

/-- Between two characters, a byte beyond ASCII opens a character or cannot be read. -/
theorem eq_replacement_of_first (hb : ¬ b < 0x80) (hc : c ∈ (first b).2.toList) :
    c = replacement := by
  unfold first at hc
  rw [if_neg hb] at hc
  repeat' split at hc
  all_goals
    simp only [Option.toList_none, Option.toList_some, List.not_mem_nil, List.mem_singleton] at hc
  all_goals exact hc

/-- A byte that is not read opens a character. -/
theorem first_silent (b : UInt8) : (first b).2 = none → (first b).1 ≠ .start := by
  unfold first
  repeat' split
  all_goals simp

theorem first_sound (b : UInt8) : (first b).1.Sound := by
  have hlt (k : UInt8) : b < k ↔ b.toNat < k.toNat := UInt8.lt_iff_toNat_lt
  have heq (k : UInt8) : (b == k) = true ↔ b.toNat = k.toNat := by
    rw [beq_iff_eq, UInt8.toNat_inj]
  simp only [first, hlt, heq, UInt8.reduceToNat]
  repeat' split
  all_goals simp only [State.Sound, Beyond, UInt8.reduceToNat]
  all_goals omega

theorem Beyond.shrink {least bound least' bound' : Nat} (h : Beyond least bound)
    (hleast : least ≤ least') (hbound : bound' ≤ bound) : Beyond least' bound' := by
  unfold Beyond at h ⊢
  omega

theorem toNat_ofNat {n : Nat} (h : n.isValidChar) : (Char.ofNat n).toNat = n := by
  rw [Char.ofNat, dif_pos h]
  rfl

theorem toNat_ofNat_of_ascii (hb : b < 0x80) : (Char.ofNat b.toNat).toNat = b.toNat := by
  have hb : b.toNat < 0x80 := UInt8.lt_iff_toNat_lt.1 hb
  exact toNat_ofNat (Or.inl (by omega))

theorem Beyond.toNat_ofNat {value : Nat} (h : Beyond value (value + 1)) :
    0x80 ≤ (Char.ofNat value).toNat := by
  unfold Beyond at h
  rw [Utf8.toNat_ofNat]
  · exact h.1
  · unfold Nat.isValidChar
    omega

section Inside

variable {wanted value : Nat} {low high : UInt8}

theorem not_continues (h : (State.inside wanted low high value).Sound) (hb : b < 0x80) :
    ¬ (low ≤ b ∧ b ≤ high) := by
  have hlow := h.2.1
  have hb : b.toNat < 0x80 := UInt8.lt_iff_toNat_lt.1 hb
  rw [UInt8.le_iff_toNat_le]
  omega

/-- A byte that continues a character leaves a part of the values. -/
theorem beyond_of_continues (h : (State.inside wanted low high value).Sound)
    (hrange : low ≤ b ∧ b ≤ high) :
    Beyond ((value * 64 + (b.toNat - 0x80)) * 64 ^ (wanted - 1))
      ((value * 64 + (b.toNat - 0x80) + 1) * 64 ^ (wanted - 1)) := by
  rw [UInt8.le_iff_toNat_le, UInt8.le_iff_toNat_le] at hrange
  exact h.2.2.shrink (Nat.mul_le_mul_right _ (by omega)) (Nat.mul_le_mul_right _ (by omega))

end Inside

/-! ## One byte -/

theorem State.Sound.read (h : state.Sound) (b : UInt8) : (state.read b).1.Sound := by
  cases state with
  | start => exact first_sound b
  | inside wanted low high value =>
    by_cases hrange : low ≤ b ∧ b ≤ high
    · by_cases hwanted : wanted ≤ 1
      · rw [State.read, if_pos hrange, if_pos hwanted]
        trivial
      · rw [State.read, if_pos hrange, if_neg hwanted]
        have hbeyond := beyond_of_continues h hrange
        have hpow (m : Nat) : m * 64 ^ (wanted - 1) = m * 64 * 64 ^ (wanted - 1 - 1) := by
          rw [Nat.mul_assoc, ← Nat.pow_succ', Nat.succ_eq_add_one]
          congr 2
          omega
        rw [hpow, hpow] at hbeyond
        have hlow : (0x80 : UInt8).toNat - 0x80 = 0 := rfl
        have hhigh : (0xBF : UInt8).toNat - 0x80 = 63 := rfl
        refine ⟨by omega, by decide, hbeyond.shrink (Nat.le_of_eq ?_) (Nat.le_of_eq ?_)⟩
        · rw [hlow, Nat.add_zero]
        · rw [hhigh, Nat.add_assoc, Nat.add_mul _ 1 64]
    · rw [State.read, if_neg hrange]
      exact first_sound b

/-- **An ASCII byte ends what stands before it**, and is the character that it is. -/
theorem State.Sound.read_ascii (h : state.Sound) (hb : b < 0x80) :
    state.read b = (.start, state.close ++ [Char.ofNat b.toNat]) := by
  cases state with
  | start => rw [State.read, first_of_ascii hb]; rfl
  | inside wanted low high value =>
    rw [State.read, if_neg (not_continues h hb), first_of_ascii hb]
    rfl

theorem toNat_replacement : 0x80 ≤ replacement.toNat := by decide

theorem toNat_of_mem_close (hc : c ∈ state.close) : 0x80 ≤ c.toNat := by
  cases state with
  | start => cases hc
  | inside => exact List.mem_singleton.1 hc ▸ toNat_replacement

/-- **A byte beyond ASCII writes no ASCII character.** -/
theorem State.Sound.read_beyond (h : state.Sound) (hb : ¬ b < 0x80)
    (hc : c ∈ (state.read b).2) : 0x80 ≤ c.toNat := by
  have hfirst : c ∈ (first b).2.toList → 0x80 ≤ c.toNat := fun hc =>
    eq_replacement_of_first hb hc ▸ toNat_replacement
  cases state with
  | start => exact hfirst hc
  | inside wanted low high value =>
    by_cases hrange : low ≤ b ∧ b ≤ high
    · by_cases hwanted : wanted ≤ 1
      · rw [State.read, if_pos hrange, if_pos hwanted] at hc
        have hbeyond := beyond_of_continues h hrange
        obtain rfl : wanted = 1 := Nat.le_antisymm hwanted h.1
        rw [List.mem_singleton.1 hc]
        exact Beyond.toNat_ofNat (by simpa using hbeyond)
      · rw [State.read, if_pos hrange, if_neg hwanted] at hc
        cases hc
    · rw [State.read, if_neg hrange] at hc
      rcases List.mem_cons.1 hc with rfl | hc
      · exact toNat_replacement
      · exact hfirst hc

/-- A byte that writes nothing leaves the reader inside a character. -/
theorem read_silent (hsilent : (state.read b).2 = []) : (state.read b).1 ≠ .start := by
  cases state with
  | start => exact first_silent b (Option.toList_eq_nil_iff.1 hsilent)
  | inside wanted low high value =>
    by_cases hrange : low ≤ b ∧ b ≤ high
    · by_cases hwanted : wanted ≤ 1
      · simp [State.read, hrange, hwanted] at hsilent
      · simp [State.read, hrange, hwanted]
    · simp [State.read, hrange] at hsilent

/-! ## Many bytes -/

/-- What stands in front of an ASCII byte is read as if it were all, and what stands behind it as if
nothing came before. -/
theorem State.Sound.charsFrom_append (h : state.Sound) (hb : b < 0x80) (bs rest : List UInt8) :
    charsFrom state (bs ++ b :: rest) =
      charsFrom state bs ++ Char.ofNat b.toNat :: charsFrom .start rest := by
  induction bs generalizing state with
  | nil => simp [charsFrom, h.read_ascii hb]
  | cons first bs ih => simp [charsFrom, ih (h.read first)]

/-- An ASCII character is written by the byte that it is. -/
theorem State.Sound.of_mem_charsFrom (h : state.Sound) (hc : c ∈ charsFrom state bs)
    (hascii : c.toNat < 0x80) : ∃ b ∈ bs, b.toNat = c.toNat := by
  induction bs generalizing state with
  | nil => exact absurd hascii (Nat.not_lt.2 (toNat_of_mem_close hc))
  | cons b bs ih =>
    rcases List.mem_append.1 hc with hc | hc
    · by_cases hb : b < 0x80
      · rw [h.read_ascii hb] at hc
        rcases List.mem_append.1 hc with hc | hc
        · exact absurd hascii (Nat.not_lt.2 (toNat_of_mem_close hc))
        · exact ⟨b, .head _, by rw [List.mem_singleton.1 hc, toNat_ofNat_of_ascii hb]⟩
      · exact absurd hascii (Nat.not_lt.2 (h.read_beyond hb hc))
    · obtain ⟨b', hb', hsame⟩ := ih (h.read b) hc
      exact ⟨b', .tail _ hb', hsame⟩

theorem eq_nil_of_charsFrom (h : charsFrom state bs = []) : state = .start ∧ bs = [] := by
  induction bs generalizing state with
  | nil =>
    cases state with
    | start => exact ⟨rfl, rfl⟩
    | inside => cases h
  | cons b bs ih =>
    obtain ⟨hsilent, hrest⟩ := List.append_eq_nil_iff.1 h
    exact absurd (ih hrest).1 (read_silent hsilent)

/-! ## Byte strings -/

theorem decode_append (hb : b < 0x80) (bs rest : List UInt8) : (decode (bs ++ b :: rest)).toList =
    (decode bs).toList ++ Char.ofNat b.toNat :: (decode rest).toList := by
  have hstart : State.start.Sound := trivial
  simp only [toList_decode, hstart.charsFrom_append hb]

/-- A byte string holds an ASCII character only as the byte that it is. -/
theorem not_mem_decode (hb : b < 0x80) (h : b ∉ bs) : Char.ofNat b.toNat ∉ (decode bs).toList := by
  have hstart : State.start.Sound := trivial
  have hnat := toNat_ofNat_of_ascii hb
  rw [toList_decode]
  intro hc
  obtain ⟨other, hother, hsame⟩ :=
    hstart.of_mem_charsFrom hc (by rw [hnat]; exact UInt8.lt_iff_toNat_lt.1 hb)
  rw [hnat, UInt8.toNat_inj] at hsame
  exact h (hsame ▸ hother)

theorem decode_eq_nil (h : (decode bs).toList = []) : bs = [] := by
  rw [toList_decode] at h
  exact (eq_nil_of_charsFrom h).2

/-- A byte string ends in an ASCII character just in case it ends in that byte. -/
theorem getLast?_decode (hb : b < 0x80) :
    (decode bs).toList.getLast? = some (Char.ofNat b.toNat) ↔ bs.getLast? = some b := by
  constructor
  · intro hlast
    by_cases hmem : b ∈ bs
    · -- Behind the last such byte the character does not come again, so nothing stands there.
      obtain ⟨back, front, hsplit, hback⟩ :=
        List.eq_append_cons_of_mem (List.mem_reverse.2 hmem)
      obtain rfl : bs = front.reverse ++ b :: back.reverse := by
        rw [← List.reverse_reverse bs, hsplit]
        simp
      have habsent : Char.ofNat b.toNat ∉ (decode back.reverse).toList :=
        not_mem_decode hb (by simpa using hback)
      rw [decode_append hb, List.getLast?_append, List.getLast?_cons, Option.some_or,
        Option.some.injEq] at hlast
      cases hend : (decode back.reverse).toList.getLast? with
      | none =>
        obtain hnil := decode_eq_nil (List.getLast?_eq_none_iff.1 hend)
        simp [hnil]
      | some c =>
        rw [hend, Option.getD_some] at hlast
        exact absurd (List.mem_of_getLast? (hlast ▸ hend)) habsent
    · exact absurd (List.mem_of_getLast? hlast) (not_mem_decode hb hmem)
  · intro hlast
    obtain ⟨front, rfl⟩ := List.getLast?_eq_some_iff.1 hlast
    have hnil : (decode []).toList = [] := rfl
    rw [decode_append hb, hnil, List.getLast?_concat]

end LogTail.Text.Utf8
