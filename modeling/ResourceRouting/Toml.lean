import ResourceRouting.Text

/-!
# TOML values

The values of the data format, and how tables grow while a document is read.  A table may be
written in parts, and where it came from decides which further parts are allowed.
-/

namespace ResourceRouting

/-- Where a table comes from. -/
inductive TableOrigin
  /-- The header of the table itself, or the document. -/
  | header
  /-- The header of a table below it. -/
  | path
  /-- A key with dots. -/
  | dotted
  /-- A table in one line, which is complete. -/
  | inline
  deriving DecidableEq, Repr

/-- A value.  Of floating-point numbers and dates it is only kept that they are there. -/
inductive Toml
  /-- A string. -/
  | string (text : Text)
  /-- An integer of 64 bits. -/
  | integer (value : Int)
  /-- A floating-point number. -/
  | float
  /-- A truth value. -/
  | bool (value : Bool)
  /-- A date, a time of day, or both. -/
  | date
  /-- An array. -/
  | array (elements : List Toml)
  /-- A table. -/
  | table (origin : TableOrigin) (entries : List (Text × Toml))
  /-- An array of tables that are written with headers of their own. -/
  | tables (elements : List Toml)
  deriving Repr

namespace Toml

/-- The keys and values of a table. -/
abbrev Entries := List (Text × Toml)

/-- Puts a value in the place of that of a key, or at the end. -/
def setEntry (key : Text) (value : Toml) : Entries → Entries
  | [] => [(key, value)]
  | (other, held) :: rest =>
      if other = key then (key, value) :: rest else (other, held) :: setEntry key value rest

/-- The table that a value is, or the last of an array of tables, unless it is complete. -/
def openTable? : Toml → Option (TableOrigin × Entries)
  | table .inline _ => none
  | table origin entries => some (origin, entries)
  | tables elements =>
      match elements.getLast? with
      | some (table origin entries) => some (origin, entries)
      | _ => none
  | _ => none

/-- The value with other entries in the table that it is, or in the last of an array of tables. -/
def withEntries (entries : Entries) : Toml → Toml
  | table origin _ => table origin entries
  | tables elements =>
      match elements.getLast? with
      | some (table origin _) => tables (elements.dropLast ++ [table origin entries])
      | _ => tables elements
  | value => value

/-- Whether a key with dots may go through a value: not through a table with a header of its own. -/
def admitsDots : Toml → Bool
  | table .header _ => false
  | _ => true

/--
Changes the table at the end of a path from a table.  Tables that are missing on the way are made;
`dotted` says that the path is written in a key and not in a header.
-/
def changeAt
    (dotted : Bool)
    (change : TableOrigin → Entries → Option Entries) :
    List Text → TableOrigin → Entries → Option Entries
  | [], origin, entries => change origin entries
  | key :: path, _, entries =>
      match entries.lookup key with
      | none =>
          let origin := if dotted then TableOrigin.dotted else .path
          (changeAt dotted change path origin []).map fun inner =>
            setEntry key (table origin inner) entries
      | some held =>
          if dotted && !held.admitsDots then
            none
          else
            held.openTable?.bind fun (origin, inner) =>
              (changeAt dotted change path origin inner).map fun changed =>
                setEntry key (held.withEntries changed) entries

/-- Adds a key with its value to a table; a key may occur once. -/
def addEntry (key : Text) (value : Toml) (entries : Entries) : Option Entries :=
  if (entries.lookup key).isSome then none else some (entries ++ [(key, value)])

/--
Adds a value under a key with dots: all but the last part of it lead to a table that keys with
dots have made.
-/
def addValue (path : List Text) (key : Text) (value : Toml) (entries : Entries) :
    Option Entries :=
  changeAt true (fun origin inner =>
    if (origin == .dotted) == path.isEmpty then none else addEntry key value inner)
    path .header entries

/-- Opens the table of a header in the table that its path leads to. -/
def openHeader (key : Text) (entries : Entries) : Option Entries :=
  match entries.lookup key with
  | none => some (setEntry key (table .header []) entries)
  | some (table .path inner) => some (setEntry key (table .header inner) entries)
  | some _ => none

/--
Opens a further table of an array of tables in the table that the path of its header leads to.
-/
def openElement (key : Text) (entries : Entries) : Option Entries :=
  match entries.lookup key with
  | none => some (setEntry key (tables [table .header []]) entries)
  | some (tables elements) =>
      some (setEntry key (tables (elements ++ [table .header []])) entries)
  | some _ => none

/-- A document as it is read. -/
structure Draft where
  /-- The entries of the document. -/
  entries : Entries := []
  /-- The path of the table that keys are added to. -/
  current : List Text := []

namespace Draft

/-- Adds a value under a key with dots to the current table. -/
def add (draft : Draft) (path : List Text) (key : Text) (value : Toml) : Option Draft :=
  (changeAt false (fun _ inner => addValue path key value inner) draft.current .header
    draft.entries).map fun entries => { draft with entries := entries }

/-- Makes the table of a header the current one. -/
def openTable (draft : Draft) (path : List Text) (key : Text) : Option Draft :=
  (changeAt false (fun _ inner => openHeader key inner) path .header draft.entries).map
    fun entries => ⟨entries, path ++ [key]⟩

/-- Makes a further table of an array of tables the current one. -/
def openTables (draft : Draft) (path : List Text) (key : Text) : Option Draft :=
  (changeAt false (fun _ inner => openElement key inner) path .header draft.entries).map
    fun entries => ⟨entries, path ++ [key]⟩

end Draft
end Toml
end ResourceRouting
