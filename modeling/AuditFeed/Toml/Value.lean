/-!
# TOML values

A document is a table, and so is much of what is in it. What may be added to a table depends on how
it came about, so a table remembers that: only the tables that a longer name has implied may still
be given a header, and only those that dotted keys have made may grow by dotted keys.

Numbers with a point and moments in time keep their text, since no reader here asks for more.
-/

namespace AuditFeed.Toml

/-- How a table came about. -/
inductive Origin where
  /-- By the header of a table inside it. -/
  | implied
  /-- By its own header. -/
  | header
  /-- By dotted keys. -/
  | dotted
  /-- In braces, and complete. -/
  | braces
deriving DecidableEq

/-- A value. -/
inductive Value where
  | text (s : String)
  | integer (n : Int)
  | boolean (b : Bool)
  /-- A number with a point or an exponent, or one of the words for what is no number. -/
  | decimal (numeral : String)
  /-- A date, a time or both. -/
  | moment (reading : String)
  | array (items : List Value)
  | table (origin : Origin) (entries : List (String × Value))
  /-- The tables of one repeated header: those that are complete, and the one that may grow. -/
  | rows (earlier : List (List (String × Value))) (latest : List (String × Value))

/-- The entries of a table, in order. -/
abbrev Entries := List (String × Value)

/-- Puts a value in the place of the one of the same name. -/
def Entries.replace (entries : Entries) (name : String) (v : Value) : Entries :=
  entries.map fun e ↦ if e.1 = name then (name, v) else e

/-! ### Reading values -/

namespace Value

/-- A text. -/
def text? : Value → Option String
  | text s => some s
  | _ => none

/-- A natural number below a bound. -/
def natBelow? (bound : Nat) : Value → Option Nat
  | integer n => if 0 ≤ n ∧ n < bound then some n.toNat else none
  | _ => none

/-- The fields of these names, each if it is there: the entries of a table, or the items of an array
in the order of the names. Further ones do not matter. A moment is a record as well, of which no
name is known. -/
def fields? (names : List String) : Value → Option (List (Option Value))
  | table _ entries => some (names.map fun name ↦ entries.lookup name)
  | array items => some ((List.range names.length).map (items[·]?))
  | rows earlier latest =>
    let items := earlier ++ [latest]
    some ((List.range names.length).map fun i ↦ (items[i]?).map (table .header))
  | moment _ => some (names.map fun _ ↦ none)
  | _ => none

end Value

end AuditFeed.Toml
