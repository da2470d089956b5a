import LogTail.App.Basic
import LogTail.Proofs.Log.Snapshot

/-!
# The store of lines

The view remembers lines by their numbers alone: with their levels, and with the way they are shown
once that was worked out. A number can come to mean another line, a line can grow, and levels can
lose their colors, all while a line is remembered. `lines_never_stale` says that none of it is ever
seen. `Holds` is the invariant: whatever is remembered is true of its own text, in the colors of the
moment; `remember` looks at the text.
-/

namespace LogTail

open Display (Command LogLine View)
open Log (Level)

namespace Display

/-! ## Lines -/

/-- What is remembered of a line is what its text gives. -/
structure LogLine.Faithful (line : LogLine) (theme : Theme) (levelColors : Bool) : Prop where
  level : line.level = Level.ofLine line.raw
  hasAnsi : line.hasAnsi = Text.Escape.present line.raw
  rendered : ∀ shown, line.rendered = some shown → shown = line.styled theme levelColors

namespace LogLine

variable {theme : Theme} {levelColors : Bool}

theorem faithful_ofRaw (text : String) (theme : Theme) (levelColors : Bool) :
    (ofRaw text).Faithful theme levelColors := ⟨rfl, rfl, by simp [ofRaw]⟩

/-- A faithful line is shown as its text is styled. -/
theorem Faithful.render_fst {line : LogLine} (h : line.Faithful theme levelColors) :
    (line.render theme levelColors).1 = (ofRaw line.raw).styled theme levelColors := by
  have hstyled : line.styled theme levelColors = (ofRaw line.raw).styled theme levelColors := by
    unfold styled
    rw [h.level, h.hasAnsi]
    rfl
  unfold render
  split
  · rename_i shown hshown
    exact (h.rendered shown hshown).trans hstyled
  · exact hstyled

theorem Faithful.render_snd {line : LogLine} (h : line.Faithful theme levelColors) :
    (line.render theme levelColors).2.Faithful theme levelColors := by
  unfold render
  split
  · exact h
  · exact ⟨h.level, h.hasAnsi, by rintro _ ⟨⟩; rfl⟩

/-- Once it is forgotten how a line is shown, the colors may be others. -/
theorem Faithful.invalidate {line : LogLine} (h : line.Faithful theme levelColors) (other : Bool) :
    line.invalidate.Faithful theme other := ⟨h.level, h.hasAnsi, by simp [LogLine.invalidate]⟩

end LogLine

/-! ## The view -/

/-- All lines that are remembered are faithful. -/
def View.Holds (v : View) (theme : Theme) (levelColors : Bool) : Prop :=
  ∀ (n : Nat) (line : LogLine), v.lines[n]? = some line → line.Faithful theme levelColors

namespace View

variable {v : View} {theme : Theme} {levelColors : Bool}

theorem Holds.insert (h : v.Holds theme levelColors) {line : LogLine}
    (hline : line.Faithful theme levelColors) (n : Nat) :
    ({ v with lines := v.lines.insert n line } : View).Holds theme levelColors := by
  intro m other hother
  rw [Std.HashMap.getElem?_insert] at hother
  split at hother
  · cases hother
    exact hline
  · exact h m other hother

/-- A text that is shown does not change what is remembered; at most all of it is forgotten. -/
theorem Holds.apply (h : v.Holds theme levelColors) (now : Nat) (cmd : Command) :
    (v.apply now cmd).Holds theme levelColors := by
  cases cmd with
  | render snapshot =>
    intro n line hline
    simp only [View.apply] at hline
    split at hline
    · exact h n line hline
    · simp at hline
  | scroll | badge | results | status => exact h

theorem Holds.invalidate (h : v.Holds theme levelColors) (other : Bool) :
    v.invalidate.Holds theme other := by
  intro n line hline
  simp only [View.invalidate, Std.HashMap.getElem?_map, Option.map_eq_some_iff] at hline
  obtain ⟨old, hold, rfl⟩ := hline
  exact (h n old hold).invalidate other

/-- What is remembered is faithful and is the line of that number, whatever the number meant
before. -/
theorem Holds.remember_spec (h : v.Holds theme levelColors) (n : Nat) :
    v.snapshot.line? n = none ∧ v.remember n = (none, v) ∨
    ∃ text line, v.snapshot.line? n = some text ∧ line.raw = text ∧
      line.Faithful theme levelColors ∧
      v.remember n = (some line, { v with lines := v.lines.insert n line }) := by
  unfold remember
  split
  · rename_i hnone
    exact Or.inl ⟨hnone, rfl⟩
  · rename_i text htext
    refine Or.inr ⟨text, _, htext, ?_, ?_, rfl⟩
    · split
      · split
        · assumption
        · rfl
      · rfl
    · split
      · rename_i old hold
        split
        · exact h n old hold
        · exact LogLine.faithful_ofRaw text theme levelColors
      · exact LogLine.faithful_ofRaw text theme levelColors

theorem Holds.remember (h : v.Holds theme levelColors) (n : Nat) :
    (v.remember n).2.Holds theme levelColors := by
  rcases h.remember_spec n with ⟨-, hremember⟩ | ⟨text, line, -, -, hline, hremember⟩
  · rw [hremember]
    exact h
  · rw [hremember]
    exact h.insert hline n

theorem Holds.showLine (h : v.Holds theme levelColors) (n : Nat) :
    (v.showLine n theme levelColors).2.Holds theme levelColors := by
  have hstored := h.remember n
  rcases h.remember_spec n with ⟨-, hremember⟩ | ⟨text, line, -, -, hline, hremember⟩
  · simp only [View.showLine, hremember]
    exact h
  · simp only [View.showLine, hremember] at hstored ⊢
    exact hstored.insert hline.render_snd n

end View

end Display

/-! ## The application -/

/-- What is done with the view while it is looked at. -/
inductive Look where
  /-- The view carries out a command. -/
  | told (cmd : Command) (now : Nat)
  /-- A line is asked for. -/
  | remembers (n : Nat)
  /-- A line is asked for and shown. -/
  | shows (n : Nat)
  /-- Levels get colors, or lose them. -/
  | toggles

namespace App

variable {ε : Type}

def look (a : App ε) : Look → App ε
  | .told cmd now => { a with view := a.view.apply now cmd }
  | .remembers n => { a with view := (a.view.remember n).2 }
  | .shows n => { a with view := (a.view.showLine n a.theme a.levelColors).2 }
  | .toggles => a.toggleLevelColors

def lookAll (a : App ε) (looks : List Look) : App ε := looks.foldl look a

theorem look_holds {a : App ε} (h : a.view.Holds a.theme a.levelColors) (l : Look) :
    (a.look l).view.Holds (a.look l).theme (a.look l).levelColors := by
  cases l with
  | told cmd now => exact h.apply now cmd
  | remembers n => exact h.remember n
  | shows n => exact h.showLine n
  | toggles => exact h.invalidate _

theorem lookAll_holds (looks : List Look) : ∀ {a : App ε}, a.view.Holds a.theme a.levelColors →
    (a.lookAll looks).view.Holds (a.lookAll looks).theme (a.lookAll looks).levelColors := by
  induction looks with
  | nil => intro a h; exact h
  | cons l looks ih => intro a h; exact ih (look_holds h l)

variable (ε) in
/-- **Nothing stale is shown.** Whatever the view was told, whichever lines were asked for and shown
in between, and however often levels got colors and lost them: a line is remembered exactly if it is
retained now, its text is the one of now, and it is shown as that text is styled now. -/
theorem lines_never_stale [Query.Input ε] (settings : Settings) (session : Session)
    (sources : List Source) (theme : Theme) (looks : List Look) (n : Nat) :
    let a := ({ App.new ε settings session sources with theme := theme } : App ε).lookAll looks
    let fresh (text : String) := (LogLine.ofRaw text).styled a.theme a.levelColors
    ((a.view.remember n).1.isSome ↔
      a.view.snapshot.firstLine ≤ n ∧ n < a.view.snapshot.lineCount) ∧
    (a.view.remember n).1.map (fun line => (line.raw, (line.render a.theme a.levelColors).1)) =
      (a.view.snapshot.line? n).map (fun text => (text, fresh text)) ∧
    (a.view.showLine n a.theme a.levelColors).1.map (fun (line, shown) => (line.raw, shown)) =
      (a.view.snapshot.line? n).map (fun text => (text, fresh text)) := by
  intro a fresh
  have h : a.view.Holds a.theme a.levelColors :=
    lookAll_holds looks fun n line hline => by simp [App.new] at hline
  rw [← Log.Snapshot.line?_isSome]
  rcases h.remember_spec n with ⟨hnone, hremember⟩ | ⟨text, line, hsome, rfl, hline, hremember⟩
  · simp [View.showLine, hremember, hnone]
  · have hraw : (line.render a.theme a.levelColors).2.raw = line.raw := by
      unfold LogLine.render
      split <;> rfl
    simp [View.showLine, hremember, hsome, hraw, hline.render_fst, fresh]

end App

end LogTail
