import AuditFeed.Text.Composition.CombiningClass
import AuditFeed.Text.Composition.Pairs

/-!
# Composed text

A text can often be written in several ways that mean the same: with composite characters or with
their parts, and with marks in any order that keeps those of one class in order. `composed` brings a
text into one form: parts, marks in the order of their classes, and then composites wherever they
fit.

Characters that stand for a single other one, and composites that are never to be written, do not
get here: what uses this form maps them away first.
-/

namespace AuditFeed.Text

/-! ### Korean syllables -/

namespace Hangul

/-- Where the syllables start. -/
def syllable : Nat := 0xAC00

/-- Where the letters that start a syllable start. -/
def first : Nat := 0x1100

/-- Where the letters in the middle of a syllable start. -/
def middle : Nat := 0x1161

/-- What stands right before the letters that end a syllable. -/
def last : Nat := 0x11A7

/-- The letters of a syllable. -/
def parts? (c : Char) : Option (List Char) :=
  let i := c.toNat - syllable
  if syllable ≤ c.toNat ∧ i < 11172 then
    let start := [Char.ofNat (first + i / 588), Char.ofNat (middle + i % 588 / 28)]
    some (if i % 28 = 0 then start else start ++ [Char.ofNat (last + i % 28)])
  else none

/-- The syllable of a first and a middle letter, or of a syllable without a last letter and one. -/
def compose? (a b : Char) : Option Char :=
  let i := a.toNat - syllable
  if first ≤ a.toNat ∧ a.toNat < first + 19 ∧ middle ≤ b.toNat ∧ b.toNat < middle + 21 then
    some (Char.ofNat (syllable + ((a.toNat - first) * 21 + (b.toNat - middle)) * 28))
  else if syllable ≤ a.toNat ∧ i < 11172 ∧ i % 28 = 0 ∧ last < b.toNat ∧ b.toNat < last + 28 then
    some (Char.ofNat (a.toNat + (b.toNat - last)))
  else none

end Hangul

/-! ### Parts -/

/-- The composite of a pair. -/
def compose? (a b : Char) : Option Char :=
  Hangul.compose? a b <|>
    (composites.find? fun c ↦ c.first == a && c.second == b).map (·.whole)

/-- The parts of a character. The first part of a composite can be a composite again, up to `depth`
times. -/
def partsOf (depth : Nat) (c : Char) : List Char :=
  match depth, composites.find? (·.whole == c) with
  | depth + 1, some pair => partsOf depth pair.first ++ [pair.second]
  | _, _ => [c]

/-- No composite has more than four parts. -/
def maxParts : Nat := 4

/-- The parts of a text. -/
def decomposed (s : List Char) : List Char :=
  s.flatMap fun c ↦ (Hangul.parts? c).getD (partsOf maxParts c)

/-! ### Order -/

/-- Puts a character behind others, which are in reverse: in front of the marks right before it that
are of a greater class. -/
def placeMark (c : Char) : List Char → List Char
  | [] => [c]
  | d :: rest =>
    if 0 < combiningClass c ∧ combiningClass c < combiningClass d then d :: placeMark c rest
    else c :: d :: rest

/-- The characters of a text with their marks in the order of their classes. -/
def ordered (s : List Char) : List Char :=
  (s.foldl (fun placed c ↦ placeMark c placed) []).reverse

/-! ### Composites -/

/-- Goes on behind a character and the marks that stayed apart from it, the last of them of class
`last`. A mark joins the character unless one of its class or a greater one stands between them. -/
def composeFrom (base : Char) (marks : List Char) (last : Nat) : List Char → List Char
  | [] => base :: marks
  | c :: rest =>
    let k := combiningClass c
    match if marks.isEmpty || last < k then compose? base c else none with
    | some whole => composeFrom whole marks last rest
    | none =>
      if k = 0 then base :: marks ++ composeFrom c [] 0 rest
      else composeFrom base (marks ++ [c]) k rest

/-- Joins what can be joined. Marks in front of all other characters stay as they are. -/
def joined : List Char → List Char
  | [] => []
  | c :: rest => if combiningClass c = 0 then composeFrom c [] 0 rest else c :: joined rest

/-- A text in its composed form. -/
def composed (s : List Char) : List Char :=
  joined (ordered (decomposed s))

end AuditFeed.Text
