import LineGreeting.Toml.Value

/-! # Tables in the making

A table may be declared once, but its parts may be given in several places:
headers may name tables inside it, and keys with points reach into it. A draft
remembers how each table came about, because that decides who may add to it.
-/

namespace LineGreeting.Toml

/-- How a table came about. -/
inductive Origin where
  /-- By its own header or braces. -/
  | declared
  /-- By the header of a table inside it. -/
  | implied
  /-- By a key with points. -/
  | dotted
deriving DecidableEq, Repr

/-- What stands under a key of a draft. -/
inductive Item where
  | value (value : Value)
  | table (origin : Origin) (entries : List (String × Item))
  /-- Tables that each have a header of their own. -/
  | tables (elements : List (List (String × Item)))

/-- The entries of a draft, in order. -/
abbrev Entries := List (String × Item)

namespace Entries

/-- Puts another item under a key. -/
def replace (entries : Entries) (key : String) (item : Item) : Entries :=
  entries.map fun entry => if entry.1 = key then (key, item) else entry

/-- Changes the table at the end of a path, and makes the tables on the path
that are missing. A key with points cannot reach into a declared table. Of
several tables with headers, a path goes through the last. -/
def alter (byPoints : Bool) (change : Origin → Entries → Option Entries) :
    List String → Origin → Entries → Option Entries
  | [], origin, entries => change origin entries
  | key :: path, _, entries =>
    match entries.lookup key with
    | none => do
      let made := if byPoints then .dotted else .implied
      let inner ← alter byPoints change path made []
      return entries ++ [(key, .table made inner)]
    | some (.value _) => none
    | some (.table origin inner) =>
      if byPoints ∧ origin = .declared then none
      else do
        let inner ← alter byPoints change path origin inner
        return entries.replace key (.table origin inner)
    | some (.tables elements) => do
      let inner ← alter byPoints change path .declared (← elements.getLast?)
      return entries.replace key (.tables (elements.dropLast ++ [inner]))

/-- Adds an entry, unless its key is there already. -/
def add (entries : Entries) (key : String) (item : Item) : Option Entries :=
  match entries.lookup key with
  | none => some (entries ++ [(key, item)])
  | some _ => none

/-- Adds a value under a key that may have points. -/
def insert (entries : Entries) (path : List String) (key : String) (value : Value) :
    Option Entries :=
  match path with
  | [] => entries.add key (.value value)
  | path =>
    entries.alter true (fun origin inner =>
      if origin = .dotted then inner.add key (.value value) else none) path .declared

/-- Declares a table with a header, and fills it. Tables that headers named
inside it before stay in it; it takes its place behind all others. -/
def declare (entries : Entries) (path : List String) (key : String)
    (fill : Entries → Option Entries) : Option Entries :=
  entries.alter false (fun _ inner => do
    let start ← match inner.lookup key with
      | none => some []
      | some (.table .implied start) => some start
      | some _ => none
    let filled ← fill start
    return inner.filter (·.1 ≠ key) ++ [(key, .table .declared filled)]) path .declared

/-- Appends a table with a header to those of the same name, and fills it. -/
def append (entries : Entries) (path : List String) (key : String)
    (fill : Entries → Option Entries) : Option Entries :=
  entries.alter false (fun _ inner => do
    match inner.lookup key with
    | none => return inner ++ [(key, .tables [← fill []])]
    | some (.tables elements) =>
      return inner.replace key (.tables (elements ++ [← fill []]))
    | some _ => none) path .declared

end Entries

mutual

/-- A finished item as a value. -/
def Item.finish : Item → Value
  | .value value => value
  | .table _ entries => .table (finishEntries entries)
  | .tables elements => .tables (finishElements elements)

/-- Finished entries as a table. -/
def finishEntries : List (String × Item) → Table
  | [] => []
  | (key, item) :: rest => (key, item.finish) :: finishEntries rest

/-- Finished tables as values. -/
def finishElements : List (List (String × Item)) → List Value
  | [] => []
  | entries :: rest => .table (finishEntries entries) :: finishElements rest

end

end LineGreeting.Toml
