import AuditFeed.Json.Printer

/-!
# Writing JSON over lines

The form for people: each item and each member on a line of its own, two blanks further in than what
holds it. An empty array or object stays on its line.
-/

namespace AuditFeed.Json

/-- A new line at a depth. -/
def newLine (depth : Nat) : List Char :=
  '\n' :: List.replicate (2 * depth) ' '

mutual

/-- The text of a value at a depth. -/
def Value.prettyChars (depth : Nat) : Value → List Char
  | .arr [] => ['[', ']']
  | .obj [] => ['\x7b', '\x7d']
  | .arr (v :: vs) => '[' :: itemsPretty (depth + 1) (v :: vs) ++ newLine depth ++ [']']
  | .obj (m :: ms) => '\x7b' :: membersPretty (depth + 1) (m :: ms) ++ newLine depth ++ ['\x7d']
  | .null => Value.null.chars
  | .bool b => (Value.bool b).chars
  | .num n => n.chars
  | .str s => quoteOrLone s

/-- The texts of the items of an array at a depth. -/
def itemsPretty (depth : Nat) : List Value → List Char
  | [] => []
  | [v] => newLine depth ++ v.prettyChars depth
  | v :: vs => newLine depth ++ v.prettyChars depth ++ ',' :: itemsPretty depth vs

/-- The texts of the members of an object at a depth. -/
def membersPretty (depth : Nat) : List (Option String × Value) → List Char
  | [] => []
  | [(k, v)] => newLine depth ++ quoteOrLone k ++ ':' :: ' ' :: v.prettyChars depth
  | (k, v) :: ms =>
    newLine depth ++ quoteOrLone k ++ ':' :: ' ' :: v.prettyChars depth ++
      ',' :: membersPretty depth ms

end

/-- The text of a value over lines. -/
def Value.pretty (v : Value) : String :=
  String.ofList (v.prettyChars 0)

end AuditFeed.Json
