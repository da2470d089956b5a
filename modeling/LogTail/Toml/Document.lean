import LogTail.Toml.Token

/-!
# TOML documents

A document is read line by line: blank lines and comments, headers, and keys with values. A value
may span lines. `parse?` gives the entries of a document, or nothing for a text that is none.
-/

namespace LogTail.Toml

mutual

/-- A value; tables and arrays in it may lie `depth` deep. -/
def value? : Nat → Nat → List Char → Option (Value × List Char)
  | 0, _, _ => none
  | fuel + 1, depth, cs =>
    match cs with
    | '"' :: _ | '\'' :: _ => (string? cs).map fun (s, rest) => (.string s, rest)
    | '[' :: cs => do
      guard (0 < depth)
      let (items, rest) ← items? fuel (depth - 1) (skipLines cs.length cs) []
      return (.array items, rest)
    | '{' :: cs => do
      guard (0 < depth)
      match skipSpaces cs with
      | '}' :: rest => return (.table .closed [], rest)
      | cs =>
        let (entries, rest) ← pairs? fuel (depth - 1) cs []
        return (.table .closed entries, rest)
    | 't' :: 'r' :: 'u' :: 'e' :: rest => some (.boolean true, rest)
    | 'f' :: 'a' :: 'l' :: 's' :: 'e' :: rest => some (.boolean false, rest)
    | cs =>
      if looksLikeTime cs then time? cs
      else
        match float? cs with
        | some read => some read
        | none => integer? cs

/-- The items of an array after its bracket or a comma, and blanks; `done` come before them,
backwards. -/
def items? : Nat → Nat → List Char → List Value → Option ((List Value) × List Char)
  | 0, _, _, _ => none
  | fuel + 1, depth, cs, done =>
    match cs with
    | ']' :: rest => some (done.reverse, rest)
    | cs => do
      let (item, rest) ← value? fuel depth cs
      match skipLines rest.length rest with
      | ',' :: rest => items? fuel depth (skipLines rest.length rest) (item :: done)
      | ']' :: rest => return ((item :: done).reverse, rest)
      | _ => none

/-- The keys of a table written as a value, after its brace or a comma. -/
def pairs? : Nat → Nat → List Char → Entries → Option (Entries × List Char)
  | 0, _, _, _ => none
  | fuel + 1, depth, cs, done => do
    let ((path, key), rest) ← key? cs
    let rest ← expect? '=' rest
    let (value, rest) ← value? fuel depth (skipSpaces rest)
    let done ← done.addDotted? path key value
    match skipSpaces rest with
    | ',' :: rest => pairs? fuel depth rest done
    | '}' :: rest => return (done, rest)
    | _ => none

end

/-- A header, given the number of its brackets: the parts of its key. -/
def header? (brackets : List Char) (cs : List Char) :
    Option ((List String × String) × List Char) := do
  let (key, rest) ← key? cs
  guard (brackets.isPrefixOf rest)
  let rest ← endLine? (rest.drop brackets.length)
  return (key, rest)

/-- The lines of a document. `current` is the key of the header above them. -/
def lines? : Nat → List Char → List String → Entries → Option Entries
  | 0, _, _, _ => none
  | fuel + 1, cs, current, entries =>
    match skipSpaces cs with
    | [] => some entries
    | '#' :: cs => do
      let rest ← endLine? ('#' :: cs)
      lines? fuel rest current entries
    | '\n' :: rest => lines? fuel rest current entries
    | '\r' :: cs => do
      let rest ← newline? ('\r' :: cs)
      lines? fuel rest current entries
    | '[' :: '[' :: cs => do
      let ((path, key), rest) ← header? [']', ']'] cs
      let entries ← entries.openNext? path key
      lines? fuel rest (path ++ [key]) entries
    | '[' :: cs => do
      let ((path, key), rest) ← header? [']'] cs
      let entries ← entries.openTable? path key
      lines? fuel rest (path ++ [key]) entries
    | cs => do
      let ((path, key), rest) ← key? cs
      let rest ← expect? '=' rest
      let rest := skipSpaces rest
      let (value, rest) ← value? (2 * rest.length + 2) maxDepth rest
      let rest ← endLine? rest
      let entries ← entries.addUnder? current path key value
      lines? fuel rest current entries

/-- The entries of a document. A mark of the byte order in front does not count. -/
def parse? (text : String) : Option Entries :=
  let cs := match text.toList with
    | '\uFEFF' :: cs => cs
    | cs => cs
  lines? (cs.length + 1) cs [] []

end LogTail.Toml
