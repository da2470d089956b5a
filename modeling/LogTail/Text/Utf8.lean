/-!
# Reading bytes as UTF-8

`decode` reads a byte string of any kind: each longest run of bytes that begins a character but
cannot be finished, and each byte that begins none, becomes one replacement character. `decode?`
refuses such bytes.

The reader stands between two characters or inside one. Inside, it knows how many bytes it still
wants, the range of the next one, and the bits so far.
-/

namespace LogTail.Text.Utf8

inductive State where
  /-- Between two characters. -/
  | start
  /-- Inside a character: bytes still wanted, range of the next byte, value so far. -/
  | inside (wanted : Nat) (low high : UInt8) (value : Nat)
  deriving DecidableEq, Repr

/-- What a character stands for that cannot be read. -/
def replacement : Char := '\uFFFD'

/-- One byte between two characters: what it writes, and where the reader stands then. -/
def first (b : UInt8) : State × Option Char :=
  if b < 0x80 then (.start, some (Char.ofNat b.toNat))
  else if b < 0xC2 then (.start, some replacement)
  else if b < 0xE0 then (.inside 1 0x80 0xBF (b.toNat - 0xC0), none)
  else if b == 0xE0 then (.inside 2 0xA0 0xBF 0, none)
  else if b == 0xED then (.inside 2 0x80 0x9F 0xD, none)
  else if b < 0xF0 then (.inside 2 0x80 0xBF (b.toNat - 0xE0), none)
  else if b == 0xF0 then (.inside 3 0x90 0xBF 0, none)
  else if b < 0xF4 then (.inside 3 0x80 0xBF (b.toNat - 0xF0), none)
  else if b == 0xF4 then (.inside 3 0x80 0x8F 4, none)
  else (.start, some replacement)

/-- Read on. The characters so far are in `done`. -/
def decodeFrom : State → List UInt8 → Array Char → Array Char
  | .start, [], done => done
  | .inside .., [], done => done.push replacement
  | .start, b :: bs, done =>
    match first b with
    | (state, some c) => decodeFrom state bs (done.push c)
    | (state, none) => decodeFrom state bs done
  | .inside wanted low high value, b :: bs, done =>
    if low ≤ b && b ≤ high then
      let value := value * 64 + (b.toNat - 0x80)
      if wanted ≤ 1 then decodeFrom .start bs (done.push (Char.ofNat value))
      else decodeFrom (.inside (wanted - 1) 0x80 0xBF value) bs done
    else
      match first b with
      | (state, some c) => decodeFrom state bs ((done.push replacement).push c)
      | (state, none) => decodeFrom state bs (done.push replacement)

/-- The text of a byte string, with a replacement character for what is not UTF-8. -/
def decode (bytes : List UInt8) : String := String.ofList (decodeFrom .start bytes #[]).toList

/-- Whether the bytes, read from the state on, are UTF-8. -/
def validFrom : State → List UInt8 → Bool
  | .start, [] => true
  | .inside .., [] => false
  | .start, b :: bs =>
    if b < 0x80 then validFrom .start bs
    else match first b with
      | (.start, _) => false
      | (state, _) => validFrom state bs
  | .inside wanted low high value, b :: bs =>
    if low ≤ b && b ≤ high then
      if wanted ≤ 1 then validFrom .start bs
      else validFrom (.inside (wanted - 1) 0x80 0xBF value) bs
    else false

/-- The text of a byte string, if it is UTF-8. -/
def decode? (bytes : List UInt8) : Option String :=
  if validFrom .start bytes then some (decode bytes) else none

end LogTail.Text.Utf8
