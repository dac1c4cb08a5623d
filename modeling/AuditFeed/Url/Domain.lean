import AuditFeed.Text.Composition
import AuditFeed.Url.Domain.Direction
import AuditFeed.Url.Domain.Joining
import AuditFeed.Url.Domain.Mapping
import AuditFeed.Url.Punycode

/-!
# Domain names

A domain name is written in ASCII: its characters are mapped and composed, and a label that goes
beyond ASCII is written in Punycode behind a mark. A label that comes with the mark has to be what
this would write.

The characters, their joiners and their directions are checked as Unicode lays down for names that
people type. Hyphens may stand anywhere and labels may be empty.
-/

namespace AuditFeed.Url.Domain

/-- Is this a character of ASCII? -/
def isAscii (c : Char) : Bool := c.toNat < 128

/-- Is this an ASCII character that no domain name may hold? -/
def isForbidden (c : Char) : Bool :=
  c.toNat ≤ 0x20 || c.toNat == 0x7F || "#%/:<>?@[\\]^|".toList.contains c

/-- What a label in Punycode starts with. -/
def encodedMark : List Char := "xn--".toList

/-- The greatest length of a label that is written in Punycode. -/
def maxPlainLength : Nat := 1000

/-- The greatest length of a label that is read from Punycode. -/
def maxEncodedLength : Nat := 2000

/-- The label behind the mark of Punycode. -/
def decodeLabel (encoded : List Char) : Option (List Char) := do
  guard (encoded.all isAscii && encoded.length ≤ maxEncodedLength)
  let label ← Punycode.decode encoded
  guard (!label.all isAscii && !encodedMark.isPrefixOf label)
  guard (label.all isPlain && Text.composed label == label)
  return label

/-- A label as people read it. -/
def plainLabel (label : List Char) : Option (List Char) :=
  if encodedMark.isPrefixOf label then decodeLabel (label.drop encodedMark.length) else some label

/-- May a label be written? -/
def isWritable (label : List Char) : Bool :=
  label.all isAscii ||
    label.length ≤ maxPlainLength && !label.head?.any Text.isMark && joinersFit [] label

/-- A label in ASCII. -/
def asciiLabel (label : List Char) : List Char :=
  if label.all isAscii then label else encodedMark ++ Punycode.encode label

/-- The labels of a domain name as people read them. -/
def plainLabels (s : List Char) : Option (List (List Char)) := do
  let mapped ← s.mapM map?
  ((Text.composed mapped.flatten).splitOn '.').mapM plainLabel

/-- A domain name in ASCII. -/
def toAscii (s : List Char) : Option (List Char) := do
  let labels ← plainLabels s
  guard (labels.all isWritable && isOrderly labels)
  let name := List.intercalate ['.'] (labels.map asciiLabel)
  guard (!name.any isForbidden)
  return name

end AuditFeed.Url.Domain
