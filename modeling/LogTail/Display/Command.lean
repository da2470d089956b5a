import LogTail.Search.Results

/-!
# What the screen is told

The view of the log changes through these commands alone.
-/

namespace LogTail.Display

/-- A change to what is shown. -/
inductive Command where
  /-- Show this text. -/
  | render (snapshot : Log.Snapshot)
  /-- Bring `line` into view, with `top` as the first line on the screen. -/
  | scroll (line top : Nat) (flash : Bool)
  /-- Tell how many lines are unseen. -/
  | badge (unseen : Nat)
  | results (results : Search.Results)
  | status (status : Search.Status)
  deriving Repr

end LogTail.Display
