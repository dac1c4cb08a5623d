import AuditFeed.Base64
import AuditFeed.Text.Blank
import AuditFeed.Text.Utf8

/-!
# PEM

A binary document as text: Base64 in lines, between a line that begins it and one that ends it. Both
name what it is and have to agree. Text before and after does not count. Lines of a header may stand
in front of the Base64, with an empty line after them, and each of them has to have a name and a
colon.

A mark is searched for without going back: where it fails in the middle, the search goes on behind
the character that did not fit. So a mark directly behind a dash too many is not seen.
-/

namespace AuditFeed.Pem

/-- The text before and after the first occurrence of a mark, of which `found` characters have just
been read, the last one first. -/
def splitFrom (mark found : List Char) : List Char → List Char → Option (List Char × List Char)
  | [], s => some ([], s)
  | _ :: _, [] => none
  | m :: left, c :: s =>
    if c = m then splitFrom mark (c :: found) left s
    else (splitFrom mark [] mark s).map fun (before, after) ↦
      (found.reverse ++ c :: before, after)

/-- The text before and after the first occurrence of a mark. -/
def splitAt (mark : String) (s : List Char) : Option (List Char × List Char) :=
  splitFrom mark.toList [] mark.toList s

/-- Is this a blank between lines? -/
def isBreak (c : Char) : Bool :=
  c == ' ' || c == '\t' || c == '\n' || c == '\r'

/-- The header and what follows it. -/
def splitHeader (body : List Char) : List Char × List Char :=
  (splitAt "\n\n" body <|> splitAt "\r\n\r\n" body).getD ([], body)

/-- A line without the return in front of its line feed. -/
def withoutReturn (line : List Char) : List Char :=
  if line.getLast? = some '\r' then line.dropLast else line

/-- The lines of a header. The last of them has no line feed. -/
def headerLines (header : List Char) : List (List Char) :=
  let lines := header.splitOn '\n'
  lines.dropLast.map withoutReturn ++ lines.drop (lines.length - 1)

/-- Is this a line of a header? -/
def isHeaderLine (line : List Char) : Bool :=
  line.isEmpty || line.contains ':'

/-- The name and the bytes of the first document in a text. -/
def parse (text : List Char) : Option (String × List UInt8) := do
  let (_, rest) ← splitAt "-----BEGIN " text
  let (name, rest) ← splitAt "-----" rest
  let (body, rest) ← splitAt "-----END " (rest.dropWhile isBreak)
  let (ending, _) ← splitAt "-----" rest
  guard (!name.isEmpty && name == ending)
  let (header, data) := splitHeader body
  guard ((headerLines header).all isHeaderLine)
  let bytes ← (Base64.decode (Text.utf8 (data.filter (!Text.isBlank ·)))).toOption
  return (String.ofList name, bytes)

end AuditFeed.Pem
