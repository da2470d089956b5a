/-!
# TOML values

A document is a table. Tables come about in several ways, which decide where more keys may be
added: a table written with its own header, one that only stands on the way to a header, one that
only stands on the way to a dotted key, and one written as a value, which is closed.
-/

namespace LogTail.Toml

/-- How a table came about. -/
inductive Origin where
  /-- It has a header of its own (or is the document). -/
  | header
  /-- It stands on the way to a header. -/
  | implied
  /-- It stands on the way to a dotted key. -/
  | dotted
  /-- It is written as a value. -/
  | closed
  deriving DecidableEq, Repr, Inhabited

/-- A value. Integers have 64 bits; of fractions and of times only the text is kept. -/
inductive Value where
  | string (text : String)
  | integer (n : Int64)
  | float (text : String)
  | boolean (b : Bool)
  | time (text : String)
  | array (items : List Value)
  | table (origin : Origin) (entries : List (String × Value))
  /-- Tables under one repeated header, the last one first. -/
  | tables (items : List (List (String × Value)))
  deriving Repr, Inhabited

/-- The keys of a table with their values. -/
abbrev Entries := List (String × Value)

namespace Entries

def get? (entries : Entries) (key : String) : Option Value := entries.lookup key

/-- Give a key a value, in its old place if it has one. -/
def put (entries : Entries) (key : String) (value : Value) : Entries :=
  match entries with
  | [] => [(key, value)]
  | (k, v) :: rest => if k = key then (k, value) :: rest else (k, v) :: put rest key value

/-- Add a key that must be new. -/
def add? (entries : Entries) (key : String) (value : Value) : Option Entries :=
  if (entries.get? key).isSome then none else some (entries.put key value)

/-- Change the table that a path of keys leads to from here. Tables that are missing on the way
are made; of repeated tables the last is meant. On the way to a dotted key no table with its own
header may be entered. -/
def change? (dotted : Bool) (change : Origin → Entries → Option Entries) :
    List String → Origin → Entries → Option Entries
  | [], origin, entries => change origin entries
  | key :: path, _, entries =>
    let made : Origin := if dotted then .dotted else .implied
    match entries.get? key with
    | none => do
      let sub ← change? dotted change path made []
      return entries.put key (.table made sub)
    | some (.table .closed _) => none
    | some (.table origin sub) =>
      if dotted && origin == .header then none
      else do
        let sub ← change? dotted change path origin sub
        return entries.put key (.table origin sub)
    | some (.tables (last :: earlier)) => do
      let last ← change? dotted change path .header last
      return entries.put key (.tables (last :: earlier))
    | some _ => none

/-- Add a key, possibly dotted: `path` leads to its table. A table on the way may hold dotted
keys only. -/
def addDotted? (entries : Entries) (path : List String) (key : String) (value : Value) :
    Option Entries :=
  change? true (fun origin entries =>
    if !path.isEmpty && origin != .dotted then none else entries.add? key value)
    path .header entries

/-- Open the table of a header. It must be new, or only implied so far. -/
def openTable? (entries : Entries) (path : List String) (key : String) : Option Entries :=
  change? false (fun _ entries =>
    match entries.get? key with
    | none => some (entries.put key (.table .header []))
    | some (.table .implied sub) => some (entries.put key (.table .header sub))
    | some _ => none) path .header entries

/-- Open one more table of a repeated header. -/
def openNext? (entries : Entries) (path : List String) (key : String) : Option Entries :=
  change? false (fun _ entries =>
    match entries.get? key with
    | none => some (entries.put key (.tables [[]]))
    | some (.tables items) => some (entries.put key (.tables ([] :: items)))
    | some _ => none) path .header entries

/-- Add a key to the table that a header opened. -/
def addUnder? (entries : Entries) (header path : List String) (key : String) (value : Value) :
    Option Entries :=
  change? false (fun _ entries => entries.addDotted? path key value) header .header entries

end Entries

end LogTail.Toml
