import LogTail.Proofs.Log.Snapshot
import LogTail.Viewport

/-!
# Laws of the viewport

What the operations of the viewport do to the mode and to the snapshot on the screen. `Passes`
lists it for one step, from one latest snapshot to the next. At the tail the screen shows the
latest snapshot or a render is held back, with one exception: a reader who scrolls back to the
bottom under a selection resumes the tail, and no render is remembered (`ResumesSelecting`).
-/

namespace LogTail

open Log (Snapshot)

/-- The same lines under the same numbers, in the same generation. -/
def Log.Snapshot.Alike (s t : Snapshot) : Prop :=
  s.generation = t.generation ∧ s.firstLine = t.firstLine ∧ s.lines = t.lines

instance (s t : Snapshot) : Decidable (s.Alike t) := inferInstanceAs (Decidable (_ ∧ _ ∧ _))

theorem Log.Snapshot.Alike.refl (s : Snapshot) : s.Alike s := ⟨rfl, rfl, rfl⟩

namespace Viewport

/-- What a step can do, when the latest snapshot was `old` before it and is `latest` after it. -/
inductive Passes (old : Snapshot) (v : Viewport) (latest : Snapshot) (w : Viewport) : Prop where
  /-- The latest snapshot is shown, because it is new or was held back, or on the way from or to
  another mode. -/
  | renders (rendered : w.rendered = latest) (held : w.renderHeld = false)
      (why : latest ≠ old ∨ v.mode ≠ .tailing ∨ v.renderHeld = true ∨ w.mode ≠ .tailing)
  /-- A selection holds the render back. -/
  | holds (rendered : w.rendered = v.rendered) (held : w.renderHeld = true)
      (selecting : w.selecting = true) (differs : w.rendered.same latest = false)
      (why : latest ≠ old ∨ v.mode ≠ .tailing)
  /-- The reader's place is held. -/
  | rests (rendered : w.rendered = v.rendered) (held : w.renderHeld = v.renderHeld)
      (mode : w.mode ≠ .tailing)
  /-- Nothing new at the tail. A selection that ends leaves nothing held back. -/
  | stays (same : latest = old) (rendered : w.rendered = v.rendered)
      (held : w.renderHeld = v.renderHeld) (before : v.mode = .tailing)
      (ends : w.selecting = false → v.selecting = false ∨ v.renderHeld = false)
  /-- The tail is resumed, and the screen shows the latest snapshot. -/
  | resumes (same : latest = old) (rendered : w.rendered = v.rendered)
      (held : w.renderHeld = v.renderHeld) (shows : w.rendered.same latest = true)

/-- The reader scrolls back to the bottom under a selection. -/
def ResumesSelecting (v : Viewport) (delta : Int) : Prop :=
  v.mode = .paused ∧ v.selecting = true ∧ 0 < delta ∧
    v.isNearBottom (v.scrolledTop delta) = true

variable {v w : Viewport} {old latest : Snapshot}

/-! ## The operations -/

/-- The tail is resumed without a look at the latest snapshot. -/
theorem scrollBy_of_resumesSelecting {delta : Int} (h : v.ResumesSelecting delta) :
    (v.scrollBy delta latest).1 =
      { v with mode := .tailing, anchor := none, top := v.scrolledTop delta } := by
  obtain ⟨hmode, hselecting, hdelta, hnear⟩ := h
  simp [scrollBy, hmode, hselecting, hdelta, hnear, scrollTo]

/-- Nothing that the reader does not see. -/
theorem passes_of_eq (hmode : w.mode = v.mode) (hrendered : w.rendered = v.rendered)
    (hheld : w.renderHeld = v.renderHeld) (hselecting : w.selecting = v.selecting) :
    Passes latest v latest w := by
  by_cases htail : v.mode = .tailing
  · refine .stays rfl hrendered hheld htail fun hends => Or.inl (hselecting ▸ hends)
  · exact .rests hrendered hheld (hmode ▸ htail)

theorem scrollBy_passes {delta : Int} (h : ¬ v.ResumesSelecting delta) :
    Passes latest v latest (v.scrollBy delta latest).1 := by
  cases hmode : v.mode with
  | jumping target resume =>
    have hjumps : (v.scrollBy delta latest).1 = v := by simp [scrollBy, hmode]
    rw [hjumps]
    exact passes_of_eq rfl rfl rfl rfl
  | tailing =>
    by_cases hnear : v.isNearBottom (v.scrolledTop delta) = true
    · have hstays : (v.scrollBy delta latest).1 = { v with top := v.scrolledTop delta } := by
        simp [scrollBy, hmode, hnear, scrollTo]
      rw [hstays]
      exact passes_of_eq rfl rfl rfl rfl
    · have hpauses : (v.scrollBy delta latest).1 = { v with
          mode := .paused
          anchor := some (v.scrolledTop delta)
          top := v.scrolledTop delta } := by
        simp [scrollBy, hmode, hnear, scrollTo]
      rw [hpauses]
      exact .rests rfl rfl (by simp)
  | paused =>
    have hpaused : v.mode ≠ .tailing := by simp [hmode]
    by_cases hresumes : 0 < delta ∧ v.isNearBottom (v.scrolledTop delta) = true
    · obtain ⟨hdelta, hnear⟩ := hresumes
      have hselecting : v.selecting = false :=
        Bool.eq_false_iff.2 fun hs => h ⟨hmode, hs, hdelta, hnear⟩
      cases hsame : v.rendered.same latest with
      | true =>
        have hfollows : (v.scrollBy delta latest).1 =
            { v with mode := .tailing, anchor := none, top := v.maxTop } := by
          simp [scrollBy, hmode, hnear, hdelta, hselecting, hsame, followBottom, scrollTo, maxTop]
        rw [hfollows]
        exact .resumes rfl rfl rfl hsame
      | false =>
        have hrenders : (v.scrollBy delta latest).1 =
            ({ v with mode := .tailing, anchor := none }.renderBottom latest).1 := by
          simp [scrollBy, hmode, hnear, hdelta, hselecting, hsame]
        rw [hrenders]
        exact .renders rfl rfl (Or.inr (Or.inl hpaused))
    · have hrests : (v.scrollBy delta latest).1 =
          { v with anchor := some (v.scrolledTop delta), top := v.scrolledTop delta } := by
        have hnot : (decide (0 < delta) && v.isNearBottom (v.scrolledTop delta)) = false := by
          simpa using hresumes
        simp [scrollBy, hmode, hnot, scrollTo]
      rw [hrests]
      exact passes_of_eq rfl rfl rfl rfl

theorem update_cases (v : Viewport) (latest : Snapshot) :
    ((v.update latest).1.rendered = latest ∧ (v.update latest).1.renderHeld = false) ∨
    (v.mode = .tailing ∧ v.selecting = true ∧
      (v.update latest).1 = { v with renderHeld := true }) ∨
    (v.mode ≠ .tailing ∧ (v.update latest).1 = v) := by
  by_cases hmode : v.mode = .tailing
  · by_cases hholds : v.selecting = true ∧ v.isReset latest = false
    · exact Or.inr (Or.inl ⟨hmode, hholds.1, by simp [update, hmode, hholds]⟩)
    · have hrenders : (v.update latest).1 =
          ({ v with selecting := false }.renderBottom latest).1 := by
        have hnot : (v.selecting && !v.isReset latest) = false := by simpa using hholds
        simp [update, hmode, hnot]
      rw [hrenders]
      exact Or.inl ⟨rfl, rfl⟩
  · cases hreset : v.isReset latest with
    | true =>
      refine Or.inl ?_
      cases hm : v.mode with
      | tailing => exact absurd hm hmode
      | paused => simp [update, hm, hreset, render, scrollTo]
      | jumping target resume => simp [update, hm, hreset, render, scrollTo]
    | false =>
      refine Or.inr (Or.inr ⟨hmode, ?_⟩)
      cases hm : v.mode with
      | tailing => exact absurd hm hmode
      | paused => simp [update, hm, hreset]
      | jumping target resume => simp [update, hm, hreset]

/-- A new snapshot is shown at the tail or held back for a selection. -/
theorem update_passes (hnew : v.rendered.same latest = false) (hdiffers : latest ≠ old) :
    Passes old v latest (v.update latest).1 := by
  rcases v.update_cases latest with ⟨hrendered, hheld⟩ | ⟨-, hselecting, h⟩ | ⟨hmode, h⟩
  · exact .renders hrendered hheld (Or.inl hdiffers)
  · rw [h]
    exact .holds rfl rfl hselecting hnew (Or.inl hdiffers)
  · rw [h]
    exact .rests rfl rfl hmode

theorem finishJump_passes (v : Viewport) (latest : Snapshot) :
    Passes latest v latest (v.finishJump latest).1 := by
  cases hmode : v.mode with
  | tailing =>
    have hsame : (v.finishJump latest).1 = v := by simp [finishJump, hmode]
    rw [hsame]
    exact passes_of_eq rfl rfl rfl rfl
  | paused =>
    have hsame : (v.finishJump latest).1 = v := by simp [finishJump, hmode]
    rw [hsame]
    exact passes_of_eq rfl rfl rfl rfl
  | jumping target resume =>
    have hjumps : v.mode ≠ .tailing := by simp [hmode]
    cases resume with
    | paused =>
      have hsettles : (v.finishJump latest).1 = { v with mode := .paused } := by
        simp [finishJump, hmode]
      rw [hsettles]
      exact .rests rfl rfl (by simp)
    | tailing =>
      cases hsame : v.rendered.same latest with
      | true =>
        have hsettles : (v.finishJump latest).1 = { v with mode := .tailing } := by
          simp [finishJump, hmode, hsame]
        rw [hsettles]
        exact .resumes rfl rfl rfl hsame
      | false =>
        have hupdates : (v.finishJump latest).1 =
            ({ v with mode := .tailing }.update latest).1 := by
          simp [finishJump, hmode, hsame]
        rw [hupdates]
        rcases update_cases { v with mode := .tailing } latest with
          ⟨hrendered, hheld⟩ | ⟨-, hselecting, h⟩ | ⟨hother, -⟩
        · exact .renders hrendered hheld (Or.inr (Or.inl hjumps))
        · rw [h]
          exact .holds rfl rfl hselecting hsame (Or.inr hjumps)
        · exact absurd rfl hother

theorem scrollToTop_passes (v : Viewport) (latest : Snapshot) :
    Passes latest v latest v.scrollToTop.1 := by
  unfold scrollToTop
  split
  · exact passes_of_eq rfl rfl rfl rfl
  · exact .rests rfl rfl (by simp [scrollTo])

theorem jumpToLatest_passes (v : Viewport) (latest : Snapshot) :
    Passes latest v latest (v.jumpToLatest latest).1 := by
  refine .renders rfl rfl (Or.inr (Or.inr (Or.inr ?_)))
  simp [jumpToLatest, renderBottom, render, followBottom, scrollTo]

theorem jumpToLine_passes (v : Viewport) (line : Nat) (flash : Bool) (latest : Snapshot) :
    Passes latest v latest (v.jumpToLine line flash latest).1 := by
  have hmode : (v.jumpToLine line flash latest).1.mode ≠ .tailing := by
    simp [jumpToLine, scrollTo]
  cases hlacks : v.lacks line latest with
  | true =>
    exact .renders (by simp [jumpToLine, hlacks, render, scrollTo])
      (by simp [jumpToLine, hlacks, render, scrollTo]) (Or.inr (Or.inr (Or.inr hmode)))
  | false =>
    exact .rests (by simp [jumpToLine, hlacks, scrollTo]) (by simp [jumpToLine, hlacks, scrollTo])
      hmode

theorem enterSearch_passes (v : Viewport) (latest : Snapshot) :
    Passes latest v latest v.enterSearch := by
  unfold enterSearch
  split
  · exact .rests rfl rfl (by simp)
  · exact passes_of_eq rfl rfl rfl rfl

/-- The end of a selection at the tail makes up for the render that was held back. -/
theorem setSelecting_eq (v : Viewport) (active : Bool) (latest : Snapshot) :
    (v.setSelecting active latest).1 =
      if active = false ∧ v.renderHeld = true ∧ v.mode = .tailing then
        ({ v with selecting := false }.renderBottom latest).1
      else { v with selecting := active } := by
  cases active with
  | true => simp [setSelecting]
  | false =>
    by_cases hheld : v.renderHeld = true ∧ v.mode = .tailing
    · simp [setSelecting, hheld]
    · have hnot : (v.renderHeld && decide (v.mode = .tailing)) = false := by simpa using hheld
      simp [setSelecting, hnot, hheld]

theorem setSelecting_passes (v : Viewport) (active : Bool) (latest : Snapshot) :
    Passes latest v latest (v.setSelecting active latest).1 := by
  rw [setSelecting_eq]
  split
  · rename_i hflushes
    exact .renders rfl rfl (Or.inr (Or.inr (Or.inl hflushes.2.1)))
  · rename_i hkeeps
    by_cases htail : v.mode = .tailing
    · refine .stays rfl rfl rfl htail fun hends => Or.inr ?_
      exact Bool.eq_false_iff.2 fun hheld => hkeeps ⟨hends, hheld, htail⟩
    · exact .rests rfl rfl htail

theorem setHeight_passes (v : Viewport) (height : Nat) (latest : Snapshot) :
    Passes latest v latest (v.setHeight height).1 := by
  unfold setHeight
  simp only
  split
  · exact passes_of_eq rfl rfl rfl rfl
  · split
    · exact passes_of_eq rfl rfl rfl rfl
    · split
      · exact passes_of_eq rfl rfl rfl rfl
      · exact passes_of_eq rfl rfl rfl rfl

theorem restart_passes (hdiffers : latest ≠ old) : Passes old v latest (v.restart latest).1 :=
  .renders rfl rfl (Or.inl hdiffers)

/-! ## Falling behind -/

/-- A render that is held back is of a newer snapshot, and without a selection none is held back
at the tail. -/
structure Fits (latest : Snapshot) (v : Viewport) : Prop where
  known : latest.Knows v.rendered
  held : v.renderHeld = true → v.rendered.version < latest.version
  settled : v.mode = .tailing → v.selecting = false → v.renderHeld = false

/-- The tail does not show the latest snapshot, and no render is held back. -/
def Behind (latest : Snapshot) (v : Viewport) : Prop :=
  v.mode = .tailing ∧ v.renderHeld = false ∧ ¬ v.rendered.Alike latest

/-- A step that passes keeps the viewport in order. -/
theorem Passes.fits (h : Passes old v latest w) (hfits : Fits old v)
    (hlatest : latest = old ∨ old.version < latest.version) : Fits latest w := by
  have hknown : latest.Knows v.rendered := hfits.known.later hlatest
  have hheld : v.renderHeld = true → v.rendered.version < latest.version := by
    intro hheld
    have := hfits.held hheld
    rcases hlatest with rfl | hnewer
    · exact this
    · exact Nat.lt_trans this hnewer
  cases h with
  | renders rendered held why =>
    exact ⟨rendered ▸ .refl latest, fun h => by simp [held] at h, fun _ _ => held⟩
  | holds rendered held selecting differs why =>
    rw [← rendered] at hknown
    exact ⟨hknown, fun _ => hknown.older differs, fun _ hnone => by simp [selecting] at hnone⟩
  | rests rendered held mode =>
    exact ⟨rendered ▸ hknown, fun h => rendered ▸ hheld (held ▸ h), fun htail => absurd htail mode⟩
  | stays same rendered held before ends =>
    refine ⟨rendered ▸ hknown, fun h => rendered ▸ hheld (held ▸ h), fun _ hnone => ?_⟩
    rw [held]
    rcases ends hnone with hnone | hheld
    · exact hfits.settled before hnone
    · exact hheld
  | resumes same rendered held shows =>
    refine ⟨rendered ▸ hknown, fun h => rendered ▸ hheld (held ▸ h), fun _ _ => ?_⟩
    rw [held]
    refine Bool.eq_false_iff.2 fun h => ?_
    have hnewer := hheld h
    rw [hknown.eq_of_same (rendered ▸ shows)] at hnewer
    exact Nat.lt_irrefl _ hnewer

/-- A tail that is behind was so before, and nothing came since. -/
theorem Passes.behind_iff (h : Passes old v latest w) (hfits : Fits old v) :
    Behind latest w ↔ Behind old v ∧ latest = old ∧ w.mode = .tailing := by
  cases h with
  | renders rendered held why =>
    constructor
    · rintro ⟨-, -, hunlike⟩
      exact absurd (rendered ▸ .refl _) hunlike
    · rintro ⟨⟨htail, hfree, -⟩, rfl, hmode⟩
      rcases why with hne | hne | hheld | hne
      · exact absurd rfl hne
      · exact absurd htail hne
      · simp [hfree] at hheld
      · exact absurd hmode hne
  | holds rendered held selecting differs why =>
    constructor
    · rintro ⟨-, hfree, -⟩
      simp [held] at hfree
    · rintro ⟨⟨htail, -, -⟩, rfl, -⟩
      rcases why with hne | hne
      · exact absurd rfl hne
      · exact absurd htail hne
  | rests rendered held mode =>
    constructor
    · rintro ⟨htail, -, -⟩
      exact absurd htail mode
    · rintro ⟨-, -, htail⟩
      exact absurd htail mode
  | stays same rendered held before ends =>
    subst same
    simp only [Behind, rendered, held, before]
    constructor
    · rintro ⟨htail, hfree, hunlike⟩
      exact ⟨⟨trivial, hfree, hunlike⟩, trivial, htail⟩
    · rintro ⟨⟨-, hfree, hunlike⟩, -, htail⟩
      exact ⟨htail, hfree, hunlike⟩
  | resumes same rendered held shows =>
    subst same
    have hsame : v.rendered = latest := hfits.known.eq_of_same (rendered ▸ shows)
    constructor
    · rintro ⟨-, -, hunlike⟩
      exact absurd (rendered ▸ hsame ▸ .refl _) hunlike
    · rintro ⟨⟨-, -, hunlike⟩, -, -⟩
      exact absurd (hsame ▸ .refl _) hunlike

theorem fits_of_resumesSelecting {delta : Int} (h : v.ResumesSelecting delta)
    (hfits : Fits latest v) : Fits latest (v.scrollBy delta latest).1 := by
  rw [scrollBy_of_resumesSelecting h]
  refine ⟨hfits.known, hfits.held, fun _ hnone => ?_⟩
  exact absurd (h.2.1.symm.trans hnone) (by simp)

/-- The tail that is resumed under a selection is behind, unless a render is held back. -/
theorem behind_of_resumesSelecting {delta : Int} (h : v.ResumesSelecting delta) :
    Behind latest (v.scrollBy delta latest).1 ↔
      v.renderHeld = false ∧ ¬ v.rendered.Alike latest := by
  rw [scrollBy_of_resumesSelecting h]
  simp [Behind]

end Viewport

end LogTail
