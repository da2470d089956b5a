import LogTail.Proofs.Viewport.Screen

/-!
# The bottom of the view

A viewport follows the tail when it is at the tail or a jump leads there, and is away from it
otherwise. `Places` lists what an operation can do to it: go to the bottom, go away from the tail,
leave its place as it was, or move the last page while a jump to the tail waits. Only the last of
these can leave a viewport that follows the tail above the bottom (`Places.atBottom`), and only a
return of the reader leads back to the tail (`Places.away`).
-/

namespace LogTail.Viewport

open Log (Snapshot)

variable {v w : Viewport} {latest : Snapshot} {returns moves : Prop}

/-- The view is near enough to the last page. -/
def AtBottom (v : Viewport) : Prop := v.maxTop ≤ v.top + v.nearBottom

instance (v : Viewport) : Decidable v.AtBottom := inferInstanceAs (Decidable (_ ≤ _))

/-- A jump to the latest line waits for the next frame. -/
def HeadsForTail (v : Viewport) : Prop := ∃ target, v.mode = .jumping target .tailing

/-- The viewport is at the tail or on the way to it. -/
def Follows (v : Viewport) : Prop := v.mode = .tailing ∨ v.HeadsForTail

/-- The viewport has paused or is on the way to a line. -/
def Away (v : Viewport) : Prop := v.mode = .paused ∨ ∃ target, v.mode = .jumping target .paused

theorem follows_or_away (v : Viewport) : v.Follows ∨ v.Away := by
  cases hmode : v.mode with
  | tailing => exact Or.inl (Or.inl hmode)
  | paused => exact Or.inr (Or.inl hmode)
  | jumping target resume =>
    cases resume with
    | tailing => exact Or.inl (Or.inr ⟨target, hmode⟩)
    | paused => exact Or.inr (Or.inr ⟨target, hmode⟩)

theorem Away.not_follows (h : v.Away) : ¬ v.Follows := by
  rintro (htail | ⟨target, hjumps⟩) <;> rcases h with hpaused | ⟨line, hline⟩ <;> simp_all

theorem Away.held (h : v.Away) : v.Held := h.imp_right Or.inl

/-- The reader scrolls back to the bottom. -/
def ScrollsBack (v : Viewport) (delta : Int) : Prop :=
  v.mode = .paused ∧ 0 < delta ∧ v.isNearBottom (v.scrolledTop delta) = true

/-- The same lines at the same place, with the same last page. -/
structure SamePlace (v w : Viewport) : Prop where
  rendered : w.rendered = v.rendered
  top : w.top = v.top
  height : w.height = v.height
  nearBottom : w.nearBottom = v.nearBottom

theorem SamePlace.refl (v : Viewport) : v.SamePlace v := ⟨rfl, rfl, rfl, rfl⟩

theorem SamePlace.trans {u : Viewport} (h₁ : u.SamePlace v) (h₂ : v.SamePlace w) :
    u.SamePlace w where
  rendered := h₂.rendered.trans h₁.rendered
  top := h₂.top.trans h₁.top
  height := h₂.height.trans h₁.height
  nearBottom := h₂.nearBottom.trans h₁.nearBottom

theorem SamePlace.atBottom_iff (h : v.SamePlace w) : w.AtBottom ↔ v.AtBottom := by
  simp only [AtBottom, maxTop, h.rendered, h.top, h.height, h.nearBottom]

/-- What an operation can do to the place of the view, where `returns` says that the reader goes
back to the tail and `moves` that the last page moves. -/
inductive Places (returns moves : Prop) (v w : Viewport) : Prop where
  | reaches (atBottom : w.AtBottom) (why : v.Follows ∨ returns)
  | leaves (away : w.Away)
  | stays (place : v.SamePlace w) (follows : w.Follows → v.Follows)
  /-- The last page moves under a jump that waits. -/
  | waits (moves : moves) (heads : v.HeadsForTail)

/-! ## The operations -/

/-- Whatever is remembered of modes and selections, the place is the same. -/
theorem places_of_eq (hrendered : w.rendered = v.rendered) (htop : w.top = v.top)
    (hheight : w.height = v.height) (hnear : w.nearBottom = v.nearBottom)
    (hmode : w.mode = v.mode) : Places returns moves v w := by
  refine .stays ⟨hrendered, htop, hheight, hnear⟩ fun hfollows => ?_
  rwa [Follows, HeadsForTail, hmode] at hfollows

theorem atBottom_followBottom (v : Viewport) : v.followBottom.1.AtBottom :=
  Nat.le_add_right v.maxTop v.nearBottom

theorem atBottom_renderBottom (v : Viewport) (latest : Snapshot) :
    (v.renderBottom latest).1.AtBottom :=
  atBottom_followBottom _

theorem atBottom_scrollTo {line top : Nat} {flash : Bool} (h : v.isNearBottom top = true) :
    (v.scrollTo line top flash).1.AtBottom := by
  exact of_decide_eq_true h

/-- Only a reset moves the last page under a jump. -/
theorem update_places (h : v.HeadsForTail → v.isReset latest = true → moves) :
    Places returns moves v (v.update latest).1 := by
  cases hreset : v.isReset latest with
  | false =>
    cases hmode : v.mode with
    | tailing =>
      cases hselecting : v.selecting with
      | true =>
        have hholds : (v.update latest).1 = { v with renderHeld := true } := by
          simp [update, hmode, hselecting, hreset]
        rw [hholds]
        exact places_of_eq rfl rfl rfl rfl rfl
      | false =>
        have hrenders : (v.update latest).1 =
            ({ v with selecting := false }.renderBottom latest).1 := by
          simp [update, hmode, hselecting]
        rw [hrenders]
        exact .reaches (atBottom_renderBottom _ _) (Or.inl (Or.inl hmode))
    | paused | jumping target resume =>
      have hcounts : (v.update latest).1 = v := by simp [update, hmode, hreset]
      rw [hcounts]
      exact places_of_eq rfl rfl rfl rfl rfl
  | true =>
    rcases v.follows_or_away with (htail | hheads) | haway
    · have hrenders : (v.update latest).1 =
          ({ v with selecting := false }.renderBottom latest).1 := by
        simp [update, htail, hreset]
      rw [hrenders]
      exact .reaches (atBottom_renderBottom _ _) (Or.inl (Or.inl htail))
    · exact .waits (h hheads hreset) hheads
    · refine .leaves ?_
      rcases haway with hmode | ⟨target, hmode⟩
      · exact Or.inl (by simp [update, hmode, hreset, render, scrollTo])
      · exact Or.inr ⟨target, by simp [update, hmode, hreset, render, scrollTo]⟩

theorem scrollBy_places (v : Viewport) (delta : Int) (latest : Snapshot) :
    Places (v.ScrollsBack delta) moves v (v.scrollBy delta latest).1 := by
  cases hmode : v.mode with
  | jumping target resume =>
    have hignores : (v.scrollBy delta latest).1 = v := by simp [scrollBy, hmode]
    rw [hignores]
    exact places_of_eq rfl rfl rfl rfl rfl
  | tailing =>
    cases hnear : v.isNearBottom (v.scrolledTop delta) with
    | true =>
      have hstays : (v.scrollBy delta latest).1 =
          (v.scrollTo (v.scrolledTop delta) (v.scrolledTop delta) false).1 := by
        simp [scrollBy, hmode, hnear]
      rw [hstays]
      exact .reaches (atBottom_scrollTo hnear) (Or.inl (Or.inl hmode))
    | false => exact .leaves (Or.inl (by simp [scrollBy, hmode, hnear, scrollTo]))
  | paused =>
    by_cases hback : 0 < delta ∧ v.isNearBottom (v.scrolledTop delta) = true
    · have hreturns : v.ScrollsBack delta := ⟨hmode, hback⟩
      refine .reaches ?_ (Or.inr hreturns)
      simp only [scrollBy, hmode, hback, decide_true, Bool.and_self, if_true]
      split
      · exact atBottom_scrollTo hback.2
      · split
        · exact atBottom_followBottom _
        · exact atBottom_renderBottom _ _
    · have hnot : (decide (0 < delta) && v.isNearBottom (v.scrolledTop delta)) = false := by
        simpa using hback
      exact .leaves (Or.inl (by simp [scrollBy, hmode, hnot, scrollTo]))

theorem scrollToTop_places (v : Viewport) : Places returns moves v v.scrollToTop.1 := by
  unfold scrollToTop
  split
  · exact places_of_eq rfl rfl rfl rfl rfl
  · exact .leaves (Or.inl rfl)

theorem jumpToLatest_places (v : Viewport) (latest : Snapshot) (h : returns) :
    Places returns moves v (v.jumpToLatest latest).1 :=
  .reaches (atBottom_renderBottom _ _) (Or.inr h)

theorem jumpToLine_away (v : Viewport) (line : Nat) (flash : Bool) (latest : Snapshot) :
    (v.jumpToLine line flash latest).1.Away :=
  Or.inr ⟨line, by simp [jumpToLine, scrollTo]⟩

/-- The end of a jump to the latest line does not look at the place, unless text came. -/
theorem finishJump_places (v : Viewport) (latest : Snapshot) :
    Places returns moves v (v.finishJump latest).1 := by
  unfold finishJump
  split
  · exact .leaves (Or.inl rfl)
  · rename_i target hmode
    have hheads : v.Follows := Or.inr ⟨target, hmode⟩
    simp only
    split
    · exact .stays ⟨rfl, rfl, rfl, rfl⟩ fun _ => hheads
    · have hupdates : Places returns moves { v with mode := .tailing }
          ({ v with mode := .tailing }.update latest).1 :=
        update_places fun ⟨_, htail⟩ => by cases htail
      cases hupdates with
      | reaches atBottom => exact .reaches atBottom (Or.inl hheads)
      | leaves away => exact .leaves away
      | stays place =>
        exact .stays ⟨place.rendered, place.top, place.height, place.nearBottom⟩ fun _ => hheads
      | waits moves heads =>
        obtain ⟨_, htail⟩ := heads
        cases htail
  · exact places_of_eq rfl rfl rfl rfl rfl

/-- The end of a jump to the latest line is the tail. -/
theorem finishJump_of_headsForTail (h : v.HeadsForTail) (latest : Snapshot) :
    (v.finishJump latest).1.mode = .tailing := by
  obtain ⟨target, hmode⟩ := h
  simp only [finishJump, hmode]
  split
  · rfl
  · simp only [update]
    split <;> rfl

/-- A search stops the tail, but no jump that leads there. -/
theorem enterSearch_away (h : ¬ v.HeadsForTail) : v.enterSearch.Away := by
  unfold enterSearch
  split
  · exact Or.inl rfl
  · rename_i hmode
    exact v.follows_or_away.resolve_left fun hfollows => hfollows.elim hmode h

theorem enterSearch_of_headsForTail (h : v.HeadsForTail) : v.enterSearch = v := by
  obtain ⟨target, hmode⟩ := h
  simp [enterSearch, hmode]

theorem enterSearch_places (v : Viewport) : Places returns moves v v.enterSearch := by
  by_cases h : v.HeadsForTail
  · rw [enterSearch_of_headsForTail h]
    exact places_of_eq rfl rfl rfl rfl rfl
  · exact .leaves (enterSearch_away h)

theorem setSelecting_places (v : Viewport) (active : Bool) (latest : Snapshot) :
    Places returns moves v (v.setSelecting active latest).1 := by
  rw [setSelecting_eq]
  split
  · rename_i hflushes
    exact .reaches (atBottom_renderBottom _ _) (Or.inl (Or.inl hflushes.2.2))
  · exact places_of_eq rfl rfl rfl rfl rfl

theorem setHeight_places {height : Nat} (h : max height 1 ≠ v.height → moves) :
    Places returns moves v (v.setHeight height).1 := by
  unfold setHeight
  simp only
  split
  · exact places_of_eq rfl rfl rfl rfl rfl
  · rename_i hheight
    split
    · rename_i hmode
      exact .reaches (atBottom_followBottom _) (Or.inl (Or.inl hmode))
    · rename_i hmode
      rcases v.follows_or_away with hfollows | haway
      · exact .waits (h hheight) (hfollows.resolve_left hmode)
      · refine .leaves ?_
        split
        · exact haway
        · exact haway

theorem restart_places (v : Viewport) (latest : Snapshot) (h : returns) :
    Places returns moves v (v.restart latest).1 :=
  .reaches (atBottom_renderBottom _ _) (Or.inr h)

/-! ## What a place tells -/

/-- A viewport that follows the tail is at the bottom, if it was so before, unless the last page
moved under a jump. -/
theorem Places.atBottom (h : Places returns moves v w) (hfollows : w.Follows) :
    w.AtBottom ∨ v.Follows ∧ v.SamePlace w ∨ moves ∧ v.HeadsForTail := by
  cases h with
  | reaches atBottom => exact Or.inl atBottom
  | leaves away => exact absurd hfollows away.not_follows
  | stays place follows => exact Or.inr (Or.inl ⟨follows hfollows, place⟩)
  | waits moves heads => exact Or.inr (Or.inr ⟨moves, heads⟩)

/-- A viewport that is away from the tail stays away until the reader returns. -/
theorem Places.away (h : Places returns moves v w) (haway : v.Away) (hstays : ¬ returns) :
    w.Away := by
  cases h with
  | reaches atBottom why => exact absurd (why.resolve_right hstays) haway.not_follows
  | leaves away => exact away
  | stays place follows =>
    exact w.follows_or_away.resolve_left fun hfollows => haway.not_follows (follows hfollows)
  | waits moves heads => exact absurd (Or.inr heads) haway.not_follows

end LogTail.Viewport
