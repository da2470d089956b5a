import LogTail.Settings.Basic
import Mathlib.Algebra.Group.Nat.Defs

/-!
# The range of the settings

Whole numbers in a settings file are signed and of 64 bits, and the settings that are added to the
positions of lines and matches come from there alone: the environment does not set them. So they are
less than half of the largest word.
-/

namespace LogTail.Settings

/-- The settings that are added to positions are far below the largest word. -/
structure Small (s : Settings) : Prop where
  resultWindow : s.resultWindow < 2 ^ 63
  snippetContext : s.snippetContext < 2 ^ 63
  nearBottom : s.nearBottom < 2 ^ 63

theorem small_default : Small {} := ⟨by decide, by decide, by decide⟩

theorem natural?_lt {entries : Toml.Entries} {key : String} {default n : Nat}
    (h : natural? entries key default = some n) (hdefault : default < 2 ^ 63) : n < 2 ^ 63 := by
  unfold natural? at h
  split at h
  · cases h
    exact hdefault
  · split at h
    · cases h
    · cases h
      exact Int64.toNatClampNeg_lt _
  · cases h

theorem ofEntries?_small {entries : Toml.Entries} {s : Settings} (h : ofEntries? entries = some s) :
    s.Small := by
  simp only [ofEntries?, Option.bind_eq_bind, Option.bind_eq_some_iff, Option.pure_def,
    Option.some.injEq] at h
  obtain ⟨-, -, -, -, -, -, -, -, resultWindow, hwindow, snippetContext, hcontext, -, -,
    nearBottom, hnear, -, -, -, -, -, -, -, -, rfl⟩ := h
  exact ⟨natural?_lt hwindow small_default.resultWindow,
    natural?_lt hcontext small_default.snippetContext, natural?_lt hnear small_default.nearBottom⟩

theorem ofFile_small (file : Option (List UInt8)) : (ofFile file).Small := by
  unfold ofFile
  cases htext : (file.bind Text.Utf8.decode?).bind ofText? with
  | none => exact small_default
  | some s =>
    obtain ⟨text, -, hparsed⟩ := Option.bind_eq_some_iff.1 htext
    obtain ⟨entries, -, hentries⟩ := Option.bind_eq_some_iff.1 hparsed
    exact ofEntries?_small hentries

/-- **No file and no environment brings these settings near the largest word.** -/
theorem load_small (file : Option (List UInt8)) (env : String → Option String) :
    (load file env).Small where
  resultWindow := Nat.max_lt.2 ⟨(ofFile_small file).resultWindow, by decide⟩
  snippetContext := (ofFile_small file).snippetContext
  nearBottom := (ofFile_small file).nearBottom

end LogTail.Settings
