/-
This file represents TOML documents as tables of values.
-/

namespace CommandShell.Toml

/-- Where a table comes from decides whether later lines may add to it. -/
inductive Origin where
  /-- The header of another table lies below it. -/
  | implied
  | header
  /-- A dotted key leads through it. -/
  | dotted
  | inline
  deriving Repr, DecidableEq

inductive Value where
  | string (text : String)
  | integer (value : Int)
  /-- This has the form of a whole number, but its digits do not make one. -/
  | numeral (text : String)
  | float (text : String)
  | boolean (value : Bool)
  /-- This is a date, a time or both. -/
  | moment (text : String)
  | array (items : List Value)
  | table (origin : Origin) (entries : List (String × Value))
  /-- This is an array of tables, each with a header of its own. -/
  | tables (items : List (List (String × Value)))
  deriving Repr

/-- Keys are unique and keep the order of the document. -/
abbrev Table := List (String × Value)

namespace Table

/-- This changes the entry of a key, which may be missing before. -/
def alter (key : String) (change : Option Value → Option Value) : Table → Option Table
  | [] => (change none).map fun value => [(key, value)]
  | entry :: rest =>
      if entry.1 = key then
        (change (some entry.2)).map fun value => (key, value) :: rest
      else
        (alter key change rest).map (entry :: ·)

/-- This changes the table behind a path. Headers lead through tables that are not inline, and into
the last table of an array; dotted keys lead only through tables without a header. -/
def enter (dotted : Bool) (change : Origin → Table → Option Table) (origin : Origin) :
    List String → Table → Option Table
  | [], table => change origin table
  | key :: path, table =>
      table.alter key fun
        | none =>
            let origin := if dotted then Origin.dotted else Origin.implied
            (enter dotted change origin path []).map (Value.table origin)
        | some (.table origin inner) =>
            if origin = .inline || (dotted && origin = .header) then none
            else (enter dotted change origin path inner).map (Value.table origin)
        | some (.tables items) =>
            match items.getLast? with
            | some last =>
                (enter dotted change .header path last).map fun changed =>
                  Value.tables (items.dropLast ++ [changed])
            | none => none
        | some _ => none

/-- This changes the table that a header names. -/
def under (header : List String) (change : Origin → Table → Option Table) (document : Table) :
    Option Table :=
  document.enter false change .header header

/-- This gives a table its header. A table has one header at most. -/
def open? (path : List String) (key : String) (document : Table) : Option Table :=
  document.under path fun _ table =>
    table.alter key fun
      | none => some (.table .header [])
      | some (.table .implied inner) => some (.table .header inner)
      | some _ => none

/-- This adds a table to an array. -/
def append? (path : List String) (key : String) (document : Table) : Option Table :=
  document.under path fun _ table =>
    table.alter key fun
      | none => some (.tables [[]])
      | some (.tables items) => some (.tables (items ++ [[]]))
      | some _ => none

/-- This adds a value behind a path. The last table that a dotted key leads to has no header. -/
def insert? (path : List String) (key : String) (value : Value) (origin : Origin)
    (table : Table) : Option Table :=
  table.enter true (fun origin table =>
    if (origin == .dotted) == path.isEmpty then none
    else
      table.alter key fun
        | none => some value
        | some _ => none) origin path

end Table

/-- A line of a document opens a table, adds one to an array or gives a value to a key. The key of
each stands behind a path. -/
inductive Line where
  | header (path : List String) (key : String)
  | element (path : List String) (key : String)
  | entry (path : List String) (key : String) (value : Value)
  deriving Repr

/-- The header names the table to which values are added. -/
structure Document where
  table : Table
  header : List String
  deriving Repr

namespace Document

def empty : Document := ⟨[], []⟩

def add? (document : Document) : Line → Option Document
  | .header path key =>
      (document.table.open? path key).map fun table => ⟨table, path ++ [key]⟩
  | .element path key =>
      (document.table.append? path key).map fun table => ⟨table, path ++ [key]⟩
  | .entry path key value =>
      (document.table.under document.header (Table.insert? path key value)).map fun table =>
        { document with table }

def ofLines? (lines : List Line) : Option Document :=
  lines.foldlM add? empty

end Document

end CommandShell.Toml
