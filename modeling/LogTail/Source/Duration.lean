/-!
# Durations as text

A duration is shown in the largest of the units s, ms, µs and ns of which it has one whole, with
the rest as a fraction that has no zero at its end.
-/

namespace LogTail

/-- A length of time in nanoseconds. -/
structure Duration where
  nanos : Nat
  deriving DecidableEq, Repr, Inhabited

namespace Duration

def ofMillis (ms : Nat) : Duration := ⟨ms * 1000000⟩

/-- The decimal digits of `rest / 10 ^ places`, as many as it takes. -/
def fraction (rest : Nat) : Nat → List Char
  | 0 => []
  | places + 1 =>
    if rest = 0 then []
    else
      Nat.digitChar (rest / Nat.pow 10 places) :: fraction (rest % Nat.pow 10 places) places

/-- A number of units, of `10 ^ places` nanoseconds each. -/
def inUnits (nanos places : Nat) (unit : String) : String :=
  let digits := fraction (nanos % Nat.pow 10 places) places
  let dot := if digits.isEmpty then "" else "."
  toString (nanos / Nat.pow 10 places) ++ dot ++ String.ofList digits ++ unit

def text (d : Duration) : String :=
  if 1000000000 ≤ d.nanos then inUnits d.nanos 9 "s"
  else if 1000000 ≤ d.nanos then inUnits d.nanos 6 "ms"
  else if 1000 ≤ d.nanos then inUnits d.nanos 3 "µs"
  else inUnits d.nanos 0 "ns"

end Duration

end LogTail
