/-!
# TOML data

What a TOML document holds. Numbers with a fraction, and dates and times, carry no
value: nothing reads them. A table remembers how it came to be, because that
decides what may still be added to it.
-/

namespace CommandShell.Toml

/-- How a table came to be. -/
inductive Origin : Type where
  /-- It has a header of its own, or is the whole document. -/
  | header
  /-- A longer header passes through it. -/
  | implied
  /-- A dotted key passes through it. -/
  | dotted
  deriving DecidableEq

/-- A value or a table. -/
inductive Node : Type where
  | text (value : String)
  | integer (value : Int)
  | float
  | boolean (value : Bool)
  | moment
  | array (items : List Node)
  /-- A table between braces; nothing can be added to it. -/
  | inline (entries : List (String × Node))
  | table (origin : Origin) (entries : List (String × Node))
  /-- An array of tables, each begun by a header in double brackets. -/
  | tables (items : List (List (String × Node)))

/-- The entries of a table, in the order of their first mention. -/
abbrev Entries : Type := List (String × Node)

namespace Entries

/-- The node under a key. -/
def find? (entries : Entries) (key : String) : Option Node :=
  entries.lookup key

/-- Set the node under a key by what is there now; `none` refuses. -/
def update (key : String) (change : Option Node → Option Node) : Entries → Option Entries
  | [] => (change none).map fun node => [(key, node)]
  | (name, node) :: rest =>
    if name = key then
      (change (some node)).map fun node => (name, node) :: rest
    else
      (update key change rest).map ((name, node) :: ·)

/-- Change the table at the end of a path, given how it came to be; `none` refuses.

Missing tables on the way are made, and are of the given origin. The way goes through tables and
through the last table of an array of tables; by dotted keys it does not go through a table that
has a header. -/
def within (made : Origin) (change : Origin → Entries → Option Entries) :
    List String → Origin → Entries → Option Entries
  | [], origin, entries => change origin entries
  | key :: rest, _, entries =>
    update key
      (fun
        | none => (within made change rest made []).map (.table made)
        | some (.table origin inner) =>
          if made = .dotted ∧ origin = .header then none
          else (within made change rest origin inner).map (.table origin)
        | some (.tables items) =>
          items.getLast?.bind fun last =>
            (within made change rest .header last).map fun last =>
              .tables (items.dropLast ++ [last])
        | some _ => none)
      entries

/-- Put a value at a dotted key; the key must be new, and a table that it is put into by more than
its own name must have been made by dotted keys. -/
def assign (path : List String) (key : String) (value : Node) (origin : Origin)
    (entries : Entries) : Option Entries :=
  within .dotted
    (fun reached inner =>
      if path ≠ [] ∧ reached ≠ .dotted then none
      else
        update key
          (fun
            | none => some value
            | some _ => none)
          inner)
    path origin entries

/-- Begin the table of a header in single brackets: it must be new, or only implied so far. -/
def openTable (parents : List String) (key : String) (entries : Entries) : Option Entries :=
  within .implied
    (fun _ => update key
      (fun
        | none => some (.table .header [])
        | some (.table .implied inner) => some (.table .header inner)
        | some _ => none))
    parents .header entries

/-- Begin one more table of an array of tables. -/
def openTables (parents : List String) (key : String) (entries : Entries) : Option Entries :=
  within .implied
    (fun _ => update key
      (fun
        | none => some (.tables [[]])
        | some (.tables items) => some (.tables (items ++ [[]]))
        | some _ => none))
    parents .header entries

end Entries

end CommandShell.Toml
