/-!
# TOML values

A TOML document is a table of values.  A table remembers where it comes from,
because that decides what may still be added to it.

* An *implicit* table is the parent of a table with a header.  It may still get a
  header of its own.
* A *dotted* table comes from a key with dots.  More such keys may add to it.
* A table with a *header* is complete once another header follows, except for
  tables below it.
* An *inline* table is complete.

`Toml.addKey`, `Toml.openTable` and `Toml.openItem` add to a document, or refuse.
-/

namespace ShellQuery

/-- Where a table comes from. -/
inductive TableOrigin where
  /-- It is the parent of a table with a header. -/
  | implicit
  /-- It comes from a key with dots. -/
  | dotted
  /-- It has a header. -/
  | header
  /-- It is written as a value. -/
  | inline
  deriving DecidableEq, Repr

/-- A TOML value. -/
inductive Toml where
  /-- A string. -/
  | string (s : String)
  /-- An integer. -/
  | integer (n : Int)
  /-- A number that is no integer. -/
  | float
  /-- A boolean. -/
  | boolean (b : Bool)
  /-- A date or a time. -/
  | date
  /-- An array that is written as a value. -/
  | array (items : List Toml)
  /-- An array whose items are tables with headers. -/
  | tables (items : List Toml)
  /-- A table: its keys in order. -/
  | table (origin : TableOrigin) (entries : List (String × Toml))
  deriving Inhabited

/-- The keys of a table with their values. -/
abbrev TomlEntries := List (String × Toml)

namespace Toml

/-- The value of a key. -/
def lookup (key : String) : TomlEntries → Option Toml
  | [] => none
  | (k, v) :: rest => if k = key then some v else lookup key rest

/-- The entries with the value of a key replaced, or added at the end. -/
def replace (key : String) (value : Toml) : TomlEntries → TomlEntries
  | [] => [(key, value)]
  | (k, v) :: rest => if k = key then (k, value) :: rest else (k, v) :: replace key value rest

/-- A change of the entries of a table, which may be refused. -/
abbrev Change := TableOrigin → TomlEntries → Option TomlEntries

/-- Changes the last table of an array of tables. -/
def changeLast (change : Change) : List Toml → Option (List Toml)
  | [] => none
  | [table origin entries] => (change origin entries).map fun es => [table origin es]
  | [_] => none
  | item :: rest => (changeLast change rest).map (item :: ·)

/-- Changes the table at a path below a table.  Missing tables are added, as dotted
tables or as implicit ones. -/
def changeAt (dotted : Bool) (change : Change) : List String → Change
  | [], origin, entries => change origin entries
  | key :: path, _, entries =>
      match lookup key entries with
      | none =>
          let origin := if dotted then TableOrigin.dotted else .implicit
          (changeAt dotted change path origin []).map fun es =>
            entries ++ [(key, table origin es)]
      | some (table .inline _) => none
      | some (table origin inner) =>
          if dotted && origin == .header then none
          else
            (changeAt dotted change path origin inner).map fun es =>
              replace key (table origin es) entries
      | some (tables items) =>
          (changeLast (changeAt dotted change path) items).map fun items =>
            replace key (tables items) entries
      | some _ => none

/-- Adds a key with a path in front of it to a table. -/
def addKey (path : List String) (key : String) (value : Toml) : Change :=
  changeAt true
    (fun origin entries =>
      if path.isEmpty == (origin == .dotted) then none
      else if (lookup key entries).isSome then none
      else some (entries ++ [(key, value)]))
    path

/-- Opens a table with a header. -/
def openTable (path : List String) (key : String) : Change :=
  changeAt false
    (fun _ entries =>
      match lookup key entries with
      | none => some (entries ++ [(key, table .header [])])
      | some (table .implicit inner) => some (replace key (table .header inner) entries)
      | some _ => none)
    path

/-- Opens a new table at the end of an array of tables. -/
def openItem (path : List String) (key : String) : Change :=
  changeAt false
    (fun _ entries =>
      match lookup key entries with
      | none => some (entries ++ [(key, tables [table .header []])])
      | some (tables items) =>
          some (replace key (tables (items ++ [table .header []])) entries)
      | some _ => none)
    path

/-- Adds a key to the table whose header has the given path. -/
def addBelow (header path : List String) (key : String) (value : Toml)
    (entries : TomlEntries) : Option TomlEntries :=
  changeAt false (addKey path key value) header .header entries

end Toml

end ShellQuery
