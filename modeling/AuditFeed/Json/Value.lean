import AuditFeed.Decimal.Binary64
import AuditFeed.Decimal.Digits
import AuditFeed.Text.Scan
import AuditFeed.Word

/-!
# JSON values

A value as it was written, before anything is made of it:

* objects keep the order and the **repetition** of their members, since a repeated known member is
  an error and a repeated unknown one is not;
* numbers keep their digits, since a number that no reader asks for may be of any size;
* a string that denotes no text, because it escapes half of a surrogate pair, is held as `none` for
  the same reason.
-/

namespace AuditFeed.Json

/-- A number as it was written. -/
structure Numeral where
  /-- Was there a minus? -/
  negative : Bool
  /-- The digits before the point. -/
  whole : List Char
  /-- The digits after the point, none if there was no point. -/
  fraction : List Char
  /-- The exponent's sign (`true` for a minus) and digits. -/
  exponent : Option (Bool × List Char)
deriving DecidableEq

/-- A JSON value. -/
inductive Value where
  | null
  | bool (b : Bool)
  | num (n : Numeral)
  /-- A string; `none` if it denotes no text. -/
  | str (s : Option String)
  | arr (items : List Value)
  /-- An object, with its members in order. -/
  | obj (members : List (Option String × Value))

namespace Value

/-- A string value. -/
def text (s : String) : Value := .str (some s)

/-- A number value. -/
def int (n : Int) : Value :=
  .num ⟨n < 0, Decimal.digits n.natAbs, [], none⟩

/-- A number value. -/
def nat (n : Nat) : Value := int n

/-- An object. -/
def object (members : List (String × Value)) : Value :=
  .obj (members.map fun (k, v) ↦ (some k, v))

/-- A value or null. -/
def ofOption (f : α → Value) : Option α → Value
  | some a => f a
  | none => .null

instance : Inhabited Value := ⟨.null⟩

end Value

/-! ### The number behind a numeral -/

/-- A number in one of the three forms that readers tell apart. -/
inductive Number where
  /-- A natural number below `2 ^ 64`. -/
  | unsigned (n : Nat)
  /-- A negative integer from `-2 ^ 63`. -/
  | signed (n : Int)
  /-- A double. -/
  | float (negative : Bool) (magnitude : Decimal.Binary64)
deriving DecidableEq

namespace Numeral

/-- The greatest significand that is collected before further digits are dropped. -/
def significandLimit : Nat := Word.limit64 - 1

/-- Collects leading digits into the significand while it stays within the limit. Answers the
significand and how many digits are left over. -/
def collect : Nat → List Char → Nat × Nat
  | sig, [] => (sig, 0)
  | sig, d :: ds =>
    let next := sig * 10 + Text.digitValue d
    if next ≤ significandLimit then collect next ds else (sig, ds.length + 1)

/-- `significand · 10 ^ exponent` as a double, rounded after the conversion of the significand and
after each scaling by a power of ten up to the 308th; `none` where it is infinite. -/
def scale (steps : Nat) (x : Decimal.Binary64) (exponent : Int) : Option Decimal.Binary64 :=
  if exponent.natAbs ≤ 308 then do
    let p ← Decimal.Binary64.powerOfTen? exponent.natAbs
    if 0 ≤ exponent then x.mul? p else x.div? p
  else if x.mantissa = 0 then some x
  else if 0 ≤ exponent then none
  else
    match steps with
    | 0 => some .zero
    | steps + 1 => do
      let p ← Decimal.Binary64.powerOfTen? 308
      scale steps (← x.div? p) (exponent + 308)

/-- The double that a significand and a decimal exponent write. Two scalings by `10 ^ 308` bring any
significand to zero. -/
def toDouble (significand : Nat) (exponent : Int) : Option Decimal.Binary64 := do
  scale 3 (← Decimal.Binary64.ofRatio? significand 1) exponent

/-- The greatest exponent that is told apart from greater ones. -/
def exponentLimit : Int := 0x7FFFFFFF

/-- The number that a numeral writes; `none` where it is beyond every double.

An integer stays exact where it fits. All else is a double, a negative zero included. -/
def value? (n : Numeral) : Option Number := do
  let (sig, dropped) := collect 0 n.whole
  if dropped = 0 ∧ n.fraction = [] ∧ n.exponent = none then
    if n.negative = false then return .unsigned sig
    if 0 < sig ∧ sig ≤ Word.limit63 then return .signed (-(sig : Int))
    return .float true (← toDouble sig 0)
  let (sig, rest) := collect sig n.fraction
  let shift : Int := dropped - (n.fraction.length - rest : Nat)
  match n.exponent with
  | none => return .float n.negative (← toDouble sig shift)
  | some (minus, ds) =>
    let e : Int := Text.digitsValue 0 ds
    if exponentLimit < e then
      if sig ≠ 0 ∧ minus = false then none
      else return .float n.negative .zero
    else return .float n.negative (← toDouble sig (shift + if minus then -e else e))

end Numeral

/-- The text of a number: integers as they are, doubles by their shortest positional decimal. -/
def Number.text : Number → String
  | .unsigned n => Decimal.text n
  | .signed n => Decimal.text n
  | .float negative x => String.ofList (x.text negative)

end AuditFeed.Json
