/-!
# Scripts

The other side as a list of answers, for where a whole course of events is to be fixed in advance:
each key has answers that are used one after the other, the last of them for ever. A key without
answers takes those of the key `*`.
-/

namespace AuditFeed

/-- Answers by key. -/
abbrev Script (α : Type) := List (String × List α)

namespace Script

variable {α : Type}

/-- The answers of a key after one of them is used. -/
def used : List α → List α
  | [] => []
  | [a] => [a]
  | _ :: rest => rest

/-- The key whose answers a key takes. -/
def source (s : Script α) (key : String) : String :=
  if (s.lookup key).isSome then key else "*"

/-- The answer for a key, and the script after it. -/
def next (s : Script α) (key : String) : Option α × Script α :=
  let key := s.source key
  ((s.lookup key).bind List.head?, s.map fun (k, as) ↦ (k, if k = key then used as else as))

end Script

end AuditFeed
