import LogTail.Text.Escape

/-!
# What is left of a text without its escape sequences

`Reads` is how a text is read from left to right: a character, a control sequence up to the first
character that ends it, an `ESC` with the character behind it, or a sequence that the end of the
text cuts short. Every text reads in one way, and `strip` keeps the characters of that reading
(`strip_keeps_chars`). Where no sequence is cut short the reading goes on with whatever text comes
next, and so does what is kept.
-/

namespace LogTail.Text.Escape

/-! ## Reading -/

/-- The character ends a control sequence. -/
def Ends (c : Char) : Prop := '@' ≤ c ∧ c ≤ '~'

/-- A piece of a text. -/
inductive Token where
  /-- A character outside all sequences. -/
  | char (c : Char)
  /-- A control sequence: what stands behind `ESC [`, and the character that ends it. -/
  | control (body : List Char) (final : Char)
  /-- An `ESC` with the character behind it. -/
  | pair (c : Char)
  /-- A sequence that the end of the text cuts short: what stands behind `ESC`. -/
  | cut (rest : List Char)

/-- The characters of a token that are outside all sequences. -/
def Token.plain : Token → List Char
  | .char c => [c]
  | .control .. | .pair _ | .cut _ => []

/-- A text is read as tokens from left to right. -/
inductive Reads : List Char → List Token → Prop where
  | nil : Reads [] []
  | char {c : Char} {cs : List Char} {tokens : List Token} (plain : c ≠ esc)
      (rest : Reads cs tokens) : Reads (c :: cs) (.char c :: tokens)
  | control {body : List Char} {final : Char} {cs : List Char} {tokens : List Token}
      (inside : ∀ b ∈ body, ¬ Ends b) (ends : Ends final) (rest : Reads cs tokens) :
      Reads (esc :: '[' :: (body ++ final :: cs)) (.control body final :: tokens)
  | pair {c : Char} {cs : List Char} {tokens : List Token} (other : c ≠ '[')
      (rest : Reads cs tokens) : Reads (esc :: c :: cs) (.pair c :: tokens)
  | cutEscape : Reads [esc] [.cut []]
  | cutControl {body : List Char} (inside : ∀ b ∈ body, ¬ Ends b) :
      Reads (esc :: '[' :: body) [.cut ('[' :: body)]

/-- No sequence is cut short. -/
def Whole (tokens : List Token) : Prop := ∀ rest, Token.cut rest ∉ tokens

variable {cs ds body : List Char} {final : Char} {token : Token} {tokens more : List Token}
  {text : String}

theorem Whole.rest (h : Whole (token :: tokens)) : Whole tokens :=
  fun rest hrest => h rest (.tail _ hrest)

theorem isFinal_iff {c : Char} : isFinal c = true ↔ Ends c := by
  rw [isFinal, Bool.and_eq_true, decide_eq_true_iff, decide_eq_true_iff]
  rfl

/-- Behind `ESC [` a character ends the sequence, or none does. -/
theorem ends_or_inside (cs : List Char) :
    (∃ body final rest, cs = body ++ final :: rest ∧ (∀ b ∈ body, ¬ Ends b) ∧ Ends final) ∨
      ∀ b ∈ cs, ¬ Ends b := by
  cases h : cs.find? isFinal with
  | none =>
    refine Or.inr fun b hb hends => ?_
    exact List.find?_eq_none.1 h b hb (isFinal_iff.2 hends)
  | some final =>
    obtain ⟨hfinal, body, rest, rfl, hbody⟩ := List.find?_eq_some_iff_append.1 h
    refine Or.inl ⟨body, final, rest, rfl, fun b hb hends => ?_, isFinal_iff.1 hfinal⟩
    simpa [isFinal_iff.2 hends] using hbody b hb

/-- Only one character of a control sequence ends it. -/
theorem ends_unique {body' : List Char} {final' : Char} (inside : ∀ b ∈ body, ¬ Ends b)
    (ends : Ends final) (inside' : ∀ b ∈ body', ¬ Ends b) (ends' : Ends final')
    (h : body ++ final :: cs = body' ++ final' :: ds) :
    body = body' ∧ final = final' ∧ cs = ds := by
  induction body generalizing body' with
  | nil =>
    cases body' with
    | nil => simpa using h
    | cons b body' =>
      obtain ⟨rfl, -⟩ := List.cons.inj h
      exact absurd ends (inside' final (.head _))
  | cons b body ih =>
    cases body' with
    | nil =>
      obtain ⟨rfl, -⟩ := List.cons.inj h
      exact absurd ends' (inside b (.head _))
    | cons b' body' =>
      rw [List.cons_append, List.cons_append, List.cons.injEq] at h
      obtain ⟨rfl, h⟩ := h
      obtain ⟨rfl, hrest⟩ := ih (fun b hb => inside b (.tail _ hb))
        (fun b hb => inside' b (.tail _ hb)) h
      exact ⟨rfl, hrest⟩

/-- **Every text can be read.** -/
theorem exists_reads (cs : List Char) : ∃ tokens, Reads cs tokens := by
  induction hlength : cs.length using Nat.strongRecOn generalizing cs with
  | ind n ih =>
    subst hlength
    match cs with
    | [] => exact ⟨[], .nil⟩
    | c :: cs =>
      by_cases hc : c = esc
      · subst hc
        match cs with
        | [] => exact ⟨_, .cutEscape⟩
        | c :: cs =>
          by_cases hbracket : c = '['
          · subst hbracket
            rcases ends_or_inside cs with ⟨body, final, rest, rfl, hinside, hends⟩ | hinside
            · have hshorter : rest.length < (esc :: '[' :: (body ++ final :: rest)).length := by
                simp only [List.length_cons, List.length_append]
                omega
              obtain ⟨tokens, h⟩ := ih _ hshorter rest rfl
              exact ⟨_, .control hinside hends h⟩
            · exact ⟨_, .cutControl hinside⟩
          · have hshorter : cs.length < (esc :: c :: cs).length := by
              simp only [List.length_cons]
              omega
            obtain ⟨tokens, h⟩ := ih _ hshorter cs rfl
            exact ⟨_, .pair hbracket h⟩
      · obtain ⟨tokens, h⟩ := ih cs.length (by simp) cs rfl
        exact ⟨_, .char hc h⟩

namespace Reads

/-- What `ESC [` opens is ended by a character, or cut short. -/
theorem bracket (h : Reads (esc :: '[' :: cs) tokens) :
    (∃ body final rest later, cs = body ++ final :: rest ∧ (∀ b ∈ body, ¬ Ends b) ∧ Ends final ∧
      Reads rest later ∧ tokens = .control body final :: later) ∨
    ((∀ b ∈ cs, ¬ Ends b) ∧ tokens = [.cut ('[' :: cs)]) := by
  cases h with
  | char plain => exact absurd rfl plain
  | control inside ends rest => exact Or.inl ⟨_, _, _, _, rfl, inside, ends, rest, rfl⟩
  | pair other => exact absurd rfl other
  | cutControl inside => exact Or.inr ⟨inside, rfl⟩

/-- **And in one way only.** -/
theorem unique (h : Reads cs tokens) : ∀ {other : List Token}, Reads cs other → other = tokens := by
  induction h with
  | nil =>
    intro other hother
    cases hother
    rfl
  | char plain rest ih =>
    intro other hother
    cases hother with
    | char _ rest' => rw [ih rest']
    | _ => exact absurd rfl plain
  | control inside ends rest ih =>
    intro other hother
    rcases hother.bracket with ⟨_, _, _, _, hsame, inside', ends', rest', rfl⟩ | ⟨inside', rfl⟩
    · obtain ⟨rfl, rfl, rfl⟩ := ends_unique inside ends inside' ends' hsame
      rw [ih rest']
    · exact absurd ends (inside' _ (by simp))
  | pair other rest ih =>
    intro other' hother
    cases hother with
    | char plain => exact absurd rfl plain
    | control => exact absurd rfl other
    | pair _ rest' => rw [ih rest']
    | cutControl => exact absurd rfl other
  | cutEscape =>
    intro other hother
    cases hother with
    | char plain => exact absurd rfl plain
    | cutEscape => rfl
  | cutControl inside =>
    intro other hother
    rcases hother.bracket with ⟨_, _, _, _, rfl, -, ends', -, -⟩ | ⟨-, rfl⟩
    · exact absurd ends' (inside _ (by simp))
    · rfl

/-- Where no sequence is cut short, the reading goes on with what comes next. -/
theorem append (h : Reads cs tokens) (hwhole : Whole tokens) (hmore : Reads ds more) :
    Reads (cs ++ ds) (tokens ++ more) := by
  induction h with
  | nil => exact hmore
  | char plain rest ih => exact .char plain (ih hwhole.rest)
  | control inside ends rest ih =>
    have hrest := ih hwhole.rest
    simpa using Reads.control inside ends hrest
  | pair other rest ih => exact .pair other (ih hwhole.rest)
  | cutEscape => exact absurd (.head _) (hwhole _)
  | cutControl inside => exact absurd (.head _) (hwhole _)

theorem esc_not_mem (h : Reads cs tokens) : esc ∉ tokens.flatMap Token.plain := by
  induction h with
  | char plain rest ih => simpa [Token.plain, Ne.symm plain] using ih
  | control inside ends rest ih => simpa [Token.plain] using ih
  | pair other rest ih => simpa [Token.plain] using ih
  | _ => simp [Token.plain]

end Reads

/-! ## What is kept -/

theorem stripFrom_of_absent (h : esc ∉ cs) : stripFrom .plain cs = cs := by
  induction cs with
  | nil => rfl
  | cons c cs ih =>
    rw [List.mem_cons, not_or] at h
    rw [stripFrom, if_neg (Ne.symm h.1), ih h.2]

theorem strip_of_absent (h : present text = false) : strip text = text := by
  have habsent : esc ∉ text.toList := by simpa [present] using h
  rw [strip, stripFrom_of_absent habsent, String.ofList_toList]

/-- Nothing is kept inside a control sequence. -/
theorem stripFrom_control (inside : ∀ b ∈ body, ¬ Ends b) (rest : List Char) :
    stripFrom .control (body ++ rest) = stripFrom .control rest := by
  induction body with
  | nil => rfl
  | cons b body ih =>
    have hb : isFinal b = false :=
      Bool.eq_false_iff.2 fun h => inside b (.head _) (isFinal_iff.1 h)
    rw [List.cons_append, stripFrom, State.next, hb, ← ih fun b hb => inside b (.tail _ hb)]
    · rfl
    · simp

/-- **What is kept are the characters of the reading.** -/
theorem Reads.stripFrom_eq (h : Reads cs tokens) :
    stripFrom .plain cs = tokens.flatMap Token.plain := by
  induction h with
  | nil => rfl
  | char plain rest ih => simp [stripFrom, plain, ih, Token.plain]
  | @control body final cs tokens inside ends rest ih =>
    have hopen : ∀ ds, stripFrom .plain (esc :: '[' :: ds) = stripFrom .control ds := fun ds => rfl
    rw [hopen, stripFrom_control inside, stripFrom, State.next, isFinal_iff.2 ends]
    · simpa [Token.plain] using ih
    · simp
  | @pair c cs tokens other rest ih => simpa [stripFrom, State.next, other, Token.plain] using ih
  | cutEscape => rfl
  | @cutControl body inside =>
    have hkept := stripFrom_control inside []
    rw [List.append_nil] at hkept
    exact hkept

/-- **`strip` keeps the characters outside all sequences**, and nothing else. A text reads in one
way; what is kept are the characters of that reading. So no `ESC` is kept, stripping again changes
nothing, and a text is left as it is just in case it holds no `ESC`. Unless a sequence is cut short
at its end, a text is stripped on its own whatever comes next. -/
theorem strip_keeps_chars (text : String) :
    ∃ tokens, (∀ read, Reads text.toList read ↔ read = tokens) ∧
      (strip text).toList = tokens.flatMap Token.plain ∧
      esc ∉ (strip text).toList ∧ strip (strip text) = strip text ∧
      (strip text = text ↔ esc ∉ text.toList) ∧
      (Whole tokens → ∀ next, strip (text ++ next) = strip text ++ strip next) := by
  obtain ⟨tokens, hreads⟩ := exists_reads text.toList
  have hkept : (strip text).toList = tokens.flatMap Token.plain := by
    rw [strip, String.toList_ofList, hreads.stripFrom_eq]
  have hclean : esc ∉ (strip text).toList := hkept ▸ hreads.esc_not_mem
  have hsame : ∀ {text : String}, esc ∉ text.toList → strip text = text := fun h =>
    strip_of_absent (by simpa [present] using h)
  refine ⟨tokens, fun read => ⟨fun h => hreads.unique h, fun h => h ▸ hreads⟩, hkept, hclean,
    hsame hclean, ⟨fun h => h ▸ hclean, hsame⟩, fun hwhole next => ?_⟩
  obtain ⟨more, hmore⟩ := exists_reads next.toList
  rw [← String.toList_inj, String.toList_append, hkept, strip, strip, String.toList_ofList,
    String.toList_ofList, String.toList_append, (hreads.append hwhole hmore).stripFrom_eq,
    hmore.stripFrom_eq, List.flatMap_append]

/-- A bracket ends a control sequence like any letter, and an `ESC` inside one does not. -/
example : strip "a\x1b[[b\x1b[1\x1b[0mc\x1b" = "ab0mc" := by decide

end LogTail.Text.Escape
