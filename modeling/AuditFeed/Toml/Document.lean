import AuditFeed.Toml.Value

/-!
# Building a document

A document is built line by line: a header opens a table, and a key puts a value into the table that
is open. Each step fails where the document says one thing twice.

## Rules

* A header opens a table that is new or was only implied. A repeated header adds a row to rows.
* The names in front of a header's last one lead through tables of any kind but those in braces,
  and through the latest of several rows; what is missing is implied.
* A dotted key leads through tables that dotted keys have made, and makes what is missing. It may
  pass through an implied table or through rows, but not end in one.
-/

namespace AuditFeed.Toml

namespace Entries

/-- Puts a value where a dotted key leads: through the tables `path` to the new name `name`. -/
def assign (entries : Entries) (path : List String) (name : String) (v : Value) : Option Entries :=
  match path with
  | [] => if (entries.lookup name).isSome then none else some (entries ++ [(name, v)])
  | first :: path =>
    match entries.lookup first with
    | none =>
      (assign [] path name v).map fun inner ↦ entries ++ [(first, .table .dotted inner)]
    | some (.table .dotted inner) =>
      (assign inner path name v).map fun inner ↦ entries.replace first (.table .dotted inner)
    | some (.table .implied inner) =>
      if path = [] then none
      else (assign inner path name v).map fun inner ↦ entries.replace first (.table .implied inner)
    | some (.rows earlier latest) =>
      if path = [] then none
      else (assign latest path name v).map fun latest ↦ entries.replace first (.rows earlier latest)
    | some _ => none

/-- Changes the table that the names of a header lead to. -/
def within (f : Entries → Option Entries) (entries : Entries) (path : List String) :
    Option Entries :=
  match path with
  | [] => f entries
  | first :: path =>
    match entries.lookup first with
    | none => (within f [] path).map fun inner ↦ entries ++ [(first, .table .implied inner)]
    | some (.table .braces _) => none
    | some (.table origin inner) =>
      (within f inner path).map fun inner ↦ entries.replace first (.table origin inner)
    | some (.rows earlier latest) =>
      (within f latest path).map fun latest ↦ entries.replace first (.rows earlier latest)
    | some _ => none

/-- Opens a table by a header. -/
def openTable (name : String) (entries : Entries) : Option Entries :=
  match entries.lookup name with
  | none => some (entries ++ [(name, .table .header [])])
  | some (.table .implied inner) => some (entries.replace name (.table .header inner))
  | some _ => none

/-- Opens a row by a repeated header. -/
def openRow (name : String) (entries : Entries) : Option Entries :=
  match entries.lookup name with
  | none => some (entries ++ [(name, .rows [] [])])
  | some (.rows earlier latest) => some (entries.replace name (.rows (earlier ++ [latest]) []))
  | some _ => none

end Entries

/-- A document up to some line. -/
structure Document where
  /-- Its entries. -/
  entries : Entries
  /-- The names that lead to the open table. -/
  current : List String

namespace Document

/-- A document without lines. -/
def empty : Document := ⟨[], []⟩

/-- The names in front of the last one, and the last one. -/
def splitLast : List String → Option (List String × String)
  | [] => none
  | [name] => some ([], name)
  | first :: rest => (splitLast rest).map fun (path, name) ↦ (first :: path, name)

/-- A line with a header; `row` says whether it is a repeated one. -/
def header (d : Document) (row : Bool) (names : List String) : Option Document := do
  let (path, name) ← splitLast names
  let step := if row then Entries.openRow name else Entries.openTable name
  return ⟨← d.entries.within step path, names⟩

/-- A line with a key and a value. -/
def assign (d : Document) (names : List String) (v : Value) : Option Document := do
  let (path, name) ← splitLast names
  return { d with entries := ← d.entries.within (·.assign path name v) d.current }

end Document

end AuditFeed.Toml
