import AuditFeed.Text.Utf8

/-!
# Texts for terminals

Some characters do not show on a terminal but steer it: an escape character with what belongs to it,
and other controls. Where a text goes somewhere else than to a terminal, they are left out. Line
feeds, returns, form feeds and tabs stay.

An escape starts a sequence of one of several kinds, and each kind has its own end. A sequence that
never ends takes the rest of the text with it. `shownFrom` says of each character whether it stays.
-/

namespace AuditFeed.Text.Terminal

/-- Where a terminal stands in a text. -/
inductive Mode where
  /-- Outside of all sequences. -/
  | ground
  /-- Behind an escape character. -/
  | escape
  /-- Behind an escape character and a sign that leaves its sequence open. -/
  | openEscape
  /-- In a sequence of parameters, which a letter ends. -/
  | control
  /-- In the parameters in front of a text for the device. -/
  | device
  /-- In a text that only the mark of its end ends. -/
  | string
  /-- In a text that the bell ends. -/
  | command
deriving DecidableEq

/-- A control character that stays in a text. -/
def isLayout (c : Char) : Bool :=
  c == '\t' || c == '\n' || c == '\x0c' || c == '\r'

/-- Is there the mark that ends a string among the bytes of a character? -/
def holdsEndMark (c : Char) : Bool :=
  (utf8 [c]).contains 0x9C

/-- The mode behind a character that follows an escape. -/
def Mode.escaped (c : Char) : Mode :=
  if c.toNat ≤ 0x2F then .openEscape
  else if c == '[' then .control
  else if c == ']' then .command
  else if c == 'P' then .device
  else if c == 'X' || c == '^' || c == '_' then .string
  else .ground

/-- The mode behind a character, and whether the character stays. A layout character inside a
sequence ends it, except in the texts for the device. -/
def Mode.step (m : Mode) (c : Char) : Mode × Bool :=
  let n := c.toNat
  if n = 0x1B then (.escape, false)
  else if n = 0x18 ∨ n = 0x1A then (.ground, false)
  else if n < 0x20 then
    match m with
    | .ground | .escape | .openEscape | .control =>
      if isLayout c then (.ground, true) else (m, false)
    | .command => (if n = 7 then .ground else m, false)
    | .device | .string => (m, false)
  else if n = 0x7F then (m, false)
  else if n < 0x7F then
    match m with
    | .ground => (.ground, true)
    | .escape => (.escaped c, false)
    | .openEscape => (if n ≤ 0x2F then m else .ground, false)
    | .control => (if n ≤ 0x3F then m else .ground, false)
    | .device => (if n ≤ 0x3B then m else .string, false)
    | .string | .command => (m, false)
  else
    match m with
    | .ground => (.ground, true)
    | .string => (if holdsEndMark c then .ground else m, false)
    | m => (m, false)

/-- Which characters of a text stay. -/
def shownFrom : Mode → List Char → List (Char × Bool)
  | _, [] => []
  | m, c :: s =>
    let (next, shown) := m.step c
    (c, shown) :: shownFrom next s

/-- The text without what only steers a terminal. -/
def plain (s : String) : String :=
  String.ofList <|
    (shownFrom .ground s.toList).filterMap fun (c, shown) ↦ if shown then some c else none

end AuditFeed.Text.Terminal
