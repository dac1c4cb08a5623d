import AuditFeed.Text.Blank

/-!
# Headers

The headers of a response, in order. Names are kept in lower case. A header may occur more than
once; its first value is the one that is read.
-/

namespace AuditFeed.Http

/-- Headers, names in lower case. -/
abbrev Headers := List (String × String)

namespace Headers

/-- The first value of a header. -/
def first? (h : Headers) (name : String) : Option String :=
  (h.find? fun p ↦ p.1 == name).map (·.2)

/-- Is this a character that a header can hold as text: visible ASCII, a space or a tab? -/
def isVisible (c : Char) : Bool :=
  (0x20 ≤ c.toNat && c.toNat < 0x7F) || c == '\t'

/-- The first value of a header without blanks around it, if it is text. -/
def text? (h : Headers) (name : String) : Option (List Char) := do
  let value ← h.first? name
  if value.toList.all isVisible then some (Text.trimChars value.toList) else none

end Headers

end AuditFeed.Http
