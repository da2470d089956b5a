import LogTail.Toml.Value

/-!
# TOML blanks, strings and numbers

Each reader takes the characters in front of it and gives what it read and the rest, or nothing
if they are not of its kind.
-/

namespace LogTail.Toml

def isSpace (c : Char) : Bool := c == ' ' || c == '\t'

def skipSpaces (cs : List Char) : List Char := cs.dropWhile isSpace

/-- The rest after a line feed, with or without a carriage return before it. -/
def newline? : List Char → Option (List Char)
  | '\n' :: cs => some cs
  | '\r' :: '\n' :: cs => some cs
  | _ => none

def isCommentChar (c : Char) : Bool := c == '\t' || (0x20 ≤ c.toNat && c.toNat != 0x7F)

def skipComment : List Char → List Char
  | '#' :: cs => cs.dropWhile isCommentChar
  | cs => cs

/-- The rest after blanks and a comment up to the end of the line. -/
def endLine? (cs : List Char) : Option (List Char) :=
  let cs := skipComment (skipSpaces cs)
  if cs.isEmpty then some [] else newline? cs

/-- The rest after blanks, comments and ends of lines. -/
def skipLines : Nat → List Char → List Char
  | 0, cs => cs
  | fuel + 1, cs =>
    match skipComment (skipSpaces cs) with
    | [] => []
    | c :: rest =>
      match newline? (c :: rest) with
      | some rest => skipLines fuel rest
      | none => skipSpaces cs

/-- Whether a character may stand in a basic string as it is. -/
def isBasicChar (c : Char) : Bool := isCommentChar c && c != '"' && c != '\\'

def isLiteralChar (c : Char) : Bool := isCommentChar c && c != '\''

def hexValue? (c : Char) : Option Nat :=
  if '0' ≤ c ∧ c ≤ '9' then some (c.toNat - '0'.toNat)
  else if 'a' ≤ c ∧ c ≤ 'f' then some (c.toNat - 'a'.toNat + 10)
  else if 'A' ≤ c ∧ c ≤ 'F' then some (c.toNat - 'A'.toNat + 10)
  else none

/-- The character with a number of so many hexadecimal digits. -/
def hexChar? (digits : Nat) (cs : List Char) : Option (Char × List Char) := do
  let values ← (cs.take digits).mapM hexValue?
  guard (values.length = digits)
  let n := values.foldl (fun n v => n * 16 + v) 0
  guard n.isValidChar
  return (Char.ofNat n, cs.drop digits)

/-- The character that an escape stands for, after its backslash. -/
def escape? : List Char → Option (Char × List Char)
  | 'b' :: cs => some ('\x08', cs)
  | 't' :: cs => some ('\t', cs)
  | 'n' :: cs => some ('\n', cs)
  | 'f' :: cs => some ('\x0c', cs)
  | 'r' :: cs => some ('\r', cs)
  | '"' :: cs => some ('"', cs)
  | '\\' :: cs => some ('\\', cs)
  | 'u' :: cs => hexChar? 4 cs
  | 'U' :: cs => hexChar? 8 cs
  | _ => none

/-- The rest of a basic string after its opening quote; `done` is read already, backwards. -/
def basicString? : Nat → List Char → List Char → Option (String × List Char)
  | 0, _, _ => none
  | fuel + 1, cs, done =>
    match cs with
    | '"' :: cs => some (String.ofList done.reverse, cs)
    | '\\' :: cs => do
      let (c, cs) ← escape? cs
      basicString? fuel cs (c :: done)
    | c :: cs => if isBasicChar c then basicString? fuel cs (c :: done) else none
    | [] => none

/-- A literal string after its opening quote. -/
def literalString? (cs : List Char) : Option (String × List Char) :=
  match cs.dropWhile isLiteralChar with
  | '\'' :: rest => some (String.ofList (cs.takeWhile isLiteralChar), rest)
  | _ => none

/-- The end of a string of several lines, at a run of quotes: with three to five of them the
string ends, and those before the last three belong to it. -/
def closing? (quote : Char) (cs : List Char) : Option (List Char × Option (List Char)) :=
  let quotes := cs.takeWhile (· == quote)
  let rest := cs.drop quotes.length
  if quotes.length < 3 then some (quotes, none)
  else if quotes.length ≤ 5 then some (quotes.drop 3, some rest)
  else none

/-- The rest of a string of several lines; `basic` ones have escapes. A backslash at the end of a
line takes away the blanks and ends of lines up to the next other character. -/
def longString? (quote : Char) (basic : Bool) :
    Nat → List Char → List Char → Option (String × List Char)
  | 0, _, _ => none
  | fuel + 1, cs, done =>
    match cs with
    | [] => none
    | c :: rest =>
      if c = quote then do
        let (kept, ended) ← closing? quote (c :: rest)
        match ended with
        | some rest => return (String.ofList (kept ++ done).reverse, rest)
        | none => longString? quote basic fuel (rest.drop (kept.length - 1)) (kept ++ done)
      else if basic && c = '\\' then
        match newline? (skipSpaces rest) with
        | some rest =>
          let blank (c : Char) : Bool := isSpace c || c == '\n' || c == '\r'
          let skipped := rest.takeWhile blank
          if loneReturn skipped then none
          else longString? quote basic fuel (rest.drop skipped.length) done
        | none => do
          let (c, rest) ← escape? rest
          longString? quote basic fuel rest (c :: done)
      else
        match newline? (c :: rest) with
        | some rest => longString? quote basic fuel rest ('\n' :: done)
        | none =>
          if isCommentChar c then longString? quote basic fuel rest (c :: done) else none
where
  /-- Whether a carriage return stands without a line feed behind it. -/
  loneReturn : List Char → Bool
    | [] => false
    | '\r' :: '\n' :: cs => loneReturn cs
    | '\r' :: _ => true
    | _ :: cs => loneReturn cs

/-- A string in any of the four spellings. -/
def string? (cs : List Char) : Option (String × List Char) :=
  let opened (cs : List Char) := (newline? cs).getD cs
  match cs with
  | '"' :: '"' :: '"' :: cs => longString? '"' true (cs.length + 1) (opened cs) []
  | '"' :: cs => basicString? (cs.length + 1) cs []
  | '\'' :: '\'' :: '\'' :: cs => longString? '\'' false (cs.length + 1) (opened cs) []
  | '\'' :: cs => literalString? cs
  | _ => none

def isBareKeyChar (c : Char) : Bool := c.isAlphanum || c == '-' || c == '_'

def simpleKey? (cs : List Char) : Option (String × List Char) :=
  match cs with
  | '"' :: cs => basicString? (cs.length + 1) cs []
  | '\'' :: cs => literalString? cs
  | cs =>
    let bare := cs.takeWhile isBareKeyChar
    if bare.isEmpty then none else some (String.ofList bare, cs.drop bare.length)

/-- How deep tables and arrays may lie in each other, and how many parts a key may have. -/
def maxDepth : Nat := 79

/-- A key of at most so many parts, with blanks around each: the parts before the last, and the
last. -/
def keyParts? : Nat → List Char → Option ((List String × String) × List Char)
  | 0, _ => none
  | parts + 1, cs => do
    let (part, rest) ← simpleKey? (skipSpaces cs)
    match skipSpaces rest with
    | '.' :: rest =>
      let ((path, last), rest) ← keyParts? parts rest
      return ((part :: path, last), rest)
    | rest => return (([], part), rest)

def key? (cs : List Char) : Option ((List String × String) × List Char) := keyParts? maxDepth cs

/-! ## Numbers and times -/

/-- Digits of a class with single underscores between them. -/
def digits? (isDigit : Char → Bool) : List Char → Option (List Char × List Char)
  | c :: cs => if isDigit c then some (more c cs) else none
  | [] => none
where
  /-- What follows a digit. -/
  more (first : Char) : List Char → List Char × List Char
    | '_' :: c :: cs =>
      if isDigit c then
        let (ds, rest) := more c cs
        (first :: ds, rest)
      else ([first], '_' :: c :: cs)
    | c :: cs =>
      if isDigit c then
        let (ds, rest) := more c cs
        (first :: ds, rest)
      else ([first], c :: cs)
    | [] => ([first], [])

def sign : List Char → List Char × List Char
  | '+' :: cs => (['+'], cs)
  | '-' :: cs => (['-'], cs)
  | cs => ([], cs)

/-- The digits of a decimal integer without its sign; a leading zero stands alone. -/
def decimal? : List Char → Option (List Char × List Char)
  | '0' :: cs => some (['0'], cs)
  | cs => digits? Char.isDigit cs

def ofDigits (base : Nat) (ds : List Char) : Nat :=
  ds.foldl (fun n d => n * base + (hexValue? d).getD 0) 0

/-- Integers take 64 bits with their sign. -/
def integerInRange (n : Int) : Bool := -0x8000000000000000 ≤ n && n < 0x8000000000000000

/-- An integer in a base other than ten, after its mark. -/
def based? (base : Nat) (cs : List Char) : Option (Value × List Char) := do
  let (ds, rest) ← digits? (fun c => (hexValue? c).any (· < base)) cs
  let n : Int := ofDigits base ds
  guard (integerInRange n)
  return (.integer (Int64.ofInt n), rest)

def integer? : List Char → Option (Value × List Char)
  | '0' :: 'x' :: cs => based? 16 cs
  | '0' :: 'o' :: cs => based? 8 cs
  | '0' :: 'b' :: cs => based? 2 cs
  | cs => do
    let (mark, cs) := sign cs
    let (ds, rest) ← decimal? cs
    let n : Int := ofDigits 10 ds
    let n := if mark = ['-'] then -n else n
    guard (integerInRange n)
    return (.integer (Int64.ofInt n), rest)

/-- The number of an exponent. -/
def exponent? : List Char → Option (Int × List Char)
  | c :: cs =>
    if c = 'e' ∨ c = 'E' then do
      let (mark, cs) := sign cs
      let (ds, rest) ← digits? Char.isDigit cs
      let n : Int := ofDigits 10 ds
      return (if mark = ['-'] then -n else n, rest)
    else none
  | [] => none

/-- The text after a sign that is one of the special fractions. -/
def specialFloat? : List Char → Option (List Char × List Char)
  | 'i' :: 'n' :: 'f' :: cs => some ("inf".toList, cs)
  | 'n' :: 'a' :: 'n' :: cs => some ("nan".toList, cs)
  | _ => none

/-- The digits after the point, and the exponent; one of the two must be there. -/
def fractionPart? (cs : List Char) : Option ((List Char × Int) × List Char) :=
  match cs with
  | '.' :: cs => do
    let (ds, rest) ← digits? Char.isDigit cs
    match exponent? rest with
    | some (e, rest) => return ((ds, e), rest)
    | none => return ((ds, 0), rest)
  | cs => (exponent? cs).map fun (e, rest) => (([], e), rest)

/-- Whether the fraction `whole.part` times `10 ^ e` rounds to a finite number of 64 bits. -/
def roundsFinite (whole part : List Char) (e : Int) : Bool :=
  let ds := (whole ++ part).dropWhile (· == '0')
  let shift := e - part.length
  let size : Int := ds.length + shift
  let bound := Nat.pow 2 1024 - Nat.pow 2 970
  if ds.isEmpty || size < 309 then true
  else if 309 < size then false
  else if 0 ≤ shift then ofDigits 10 ds * Nat.pow 10 shift.toNat < bound
  else ofDigits 10 ds < bound * Nat.pow 10 (-shift).toNat

/-- A fraction. One that is too large is refused, unless it is below zero. -/
def float? (cs : List Char) : Option (Value × List Char) := do
  let (mark, rest) := sign cs
  match specialFloat? rest with
  | some (word, rest) => return (.float (String.ofList (mark ++ word)), rest)
  | none =>
    let (whole, rest) ← decimal? rest
    let ((part, e), rest) ← fractionPart? rest
    guard (mark = ['-'] ∨ roundsFinite whole part e)
    return (.float (String.ofList (cs.take (cs.length - rest.length))), rest)

/-- A number of exactly so many digits. -/
def fixed? (count : Nat) (cs : List Char) : Option (Nat × List Char) := do
  let ds := cs.take count
  guard (ds.length = count ∧ ds.all Char.isDigit)
  return (ofDigits 10 ds, cs.drop count)

/-- The rest after a character. -/
def expect? (c : Char) : List Char → Option (List Char)
  | d :: cs => if c = d then some cs else none
  | [] => none

def daysIn (year month : Nat) : Nat :=
  if month = 2 then
    if year % 4 = 0 ∧ (year % 100 ≠ 0 ∨ year % 400 = 0) then 29 else 28
  else if month = 4 ∨ month = 6 ∨ month = 9 ∨ month = 11 then 30
  else 31

def date? (cs : List Char) : Option (List Char) := do
  let (year, cs) ← fixed? 4 cs
  let (month, cs) ← fixed? 2 (← expect? '-' cs)
  let (day, cs) ← fixed? 2 (← expect? '-' cs)
  guard (1 ≤ month ∧ month ≤ 12 ∧ 1 ≤ day ∧ day ≤ daysIn year month)
  return cs

def clock? (cs : List Char) : Option (List Char) := do
  let (hour, cs) ← fixed? 2 cs
  let (minute, cs) ← fixed? 2 (← expect? ':' cs)
  let (second, cs) ← fixed? 2 (← expect? ':' cs)
  guard (hour ≤ 23 ∧ minute ≤ 59 ∧ second ≤ 60)
  match cs with
  | '.' :: c :: rest => if c.isDigit then return rest.dropWhile Char.isDigit else return cs
  | cs => return cs

/-- The rest after an offset from universal time, if there is one. -/
def skipOffset (cs : List Char) : Option (List Char) :=
  match cs with
  | 'Z' :: cs => some cs
  | 'z' :: cs => some cs
  | c :: rest =>
    if c = '+' ∨ c = '-' then do
      let (hour, rest) ← fixed? 2 rest
      let (minute, rest) ← fixed? 2 (← expect? ':' rest)
      guard (hour ≤ 23 ∧ minute ≤ 59)
      return rest
    else some cs
  | [] => some []

/-- Whether digits and a dash or colon follow as at the start of a date or time. -/
def looksLikeTime (cs : List Char) : Bool :=
  ((fixed? 4 cs).bind fun (_, rest) => expect? '-' rest).isSome ||
    ((fixed? 2 cs).bind fun (_, rest) => expect? ':' rest).isSome

/-- A date, a time of day, or both. -/
def time? (cs : List Char) : Option (Value × List Char) := do
  let rest ← match date? cs with
    | none => clock? cs
    | some rest =>
      match rest with
      | c :: more =>
        if (c = 'T' ∨ c = 't' ∨ c = ' ') ∧ looksLikeTime more then (clock? more).bind skipOffset
        else some rest
      | [] => some []
  return (.time (String.ofList (cs.take (cs.length - rest.length))), rest)

end LogTail.Toml
