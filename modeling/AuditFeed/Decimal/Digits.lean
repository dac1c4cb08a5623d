/-!
# Decimal numerals

How numbers are written: without a sign or with a minus, without leading zeros, or padded with
zeros to a width.
-/

namespace AuditFeed.Decimal

/-- The digits of a number, without leading zeros. -/
def digits (n : Nat) : List Char :=
  Nat.toDigits 10 n

/-- The digits of a number, padded with leading zeros to at least `width`. -/
def padded (width n : Nat) : List Char :=
  let ds := digits n
  List.replicate (width - ds.length) '0' ++ ds

/-- The numeral of an integer: a minus where it is negative, and its digits. -/
def numeral (n : Int) : List Char :=
  if n < 0 then '-' :: digits n.natAbs else digits n.natAbs

/-- The numeral of a number as a text. -/
def text (n : Int) : String :=
  String.ofList (numeral n)

end AuditFeed.Decimal
