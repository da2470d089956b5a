/-!
# Committing a typed query

The raw term follows every edit. It becomes the committed term when no edit has come for `delay`
milliseconds. Clearing needs no wait.
-/

namespace LogTail.Query

/-- The raw and the committed term, and the time of the edit that waits. -/
structure Debouncer where
  delay : Nat
  raw : String := ""
  committed : String := ""
  lastEdit : Option Nat := none
  deriving DecidableEq, Repr, Inhabited

namespace Debouncer

def isPending (d : Debouncer) : Bool := d.lastEdit.isSome

/-- When the waiting edit will be committed. -/
def deadline? (d : Debouncer) : Option Nat := d.lastEdit.map (· + d.delay)

/-- Drop both terms; tells whether there was anything to drop. -/
def clear (d : Debouncer) : Bool × Debouncer :=
  (!d.raw.isEmpty || !d.committed.isEmpty,
    { d with raw := "", committed := "", lastEdit := none })

/-- Take in an edit. An empty term clears at once; tells whether that dropped anything. -/
def edit (d : Debouncer) (raw : String) (now : Nat) : Bool × Debouncer :=
  if raw.isEmpty then d.clear
  else if raw = d.raw ∧ d.lastEdit = none then (false, d)
  else (false, { d with raw := raw, lastEdit := some now })

/-- Commit the raw term if it has been quiet for long enough; tells the term if it is a new one.
A time before the edit counts as no time since. -/
def poll (d : Debouncer) (now : Nat) : Option String × Debouncer :=
  match d.lastEdit with
  | none => (none, d)
  | some at_ =>
    if now - at_ < d.delay then (none, d)
    else if d.raw = d.committed then (none, { d with lastEdit := none })
    else (some d.raw, { d with committed := d.raw, lastEdit := none })

end Debouncer

end LogTail.Query
