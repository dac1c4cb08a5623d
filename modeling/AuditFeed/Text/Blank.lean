/-!
# Blanks

Every field a user or a service can pad is read without the padding. What counts as padding is
Unicode's `White_Space` property, so a text copied from a spreadsheet with an ideographic space
around it reads as well as one padded with ASCII blanks. The zero width no-break space is not a
blank.

Functions work on `List Char`; `trim` is the form for `String`.
-/

namespace AuditFeed.Text

/-- The characters with Unicode's `White_Space` property. -/
def isBlank (c : Char) : Bool :=
  let n := c.toNat
  (9 ≤ n && n ≤ 13) || n == 0x20 || n == 0x85 || n == 0xA0 || n == 0x1680 ||
    (0x2000 ≤ n && n ≤ 0x200A) || n == 0x2028 || n == 0x2029 || n == 0x202F || n == 0x205F ||
    n == 0x3000

/-- Core's white space is blank. -/
theorem isBlank_of_isWhitespace {c : Char} (h : c.isWhitespace = true) : isBlank c = true := by
  simp only [Char.isWhitespace, Bool.or_eq_true, decide_eq_true_eq] at h
  rcases h with ((h | h) | h) | h <;> subst h <;> rfl

/-- The text after its leading blanks. -/
def dropBlanks (s : List Char) : List Char :=
  s.dropWhile isBlank

/-- The text between its leading and its trailing blanks. -/
def trimChars (s : List Char) : List Char :=
  (dropBlanks (dropBlanks s).reverse).reverse

/-- The text between its leading and its trailing blanks. -/
def trim (s : String) : String :=
  String.ofList (trimChars s.toList)

end AuditFeed.Text
