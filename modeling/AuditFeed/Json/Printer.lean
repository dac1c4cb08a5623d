import AuditFeed.Json.Value

/-!
# Writing JSON

The compact form: no blanks, the short escapes where there is one, `\u` and four lower case
hexadecimal digits for the other control characters, and all else as it is.
-/

namespace AuditFeed.Json

/-- The lower case hexadecimal digit of a number below 16. -/
def hexDigit (n : Nat) : Char :=
  if n < 10 then Char.ofNat (48 + n) else Char.ofNat (87 + n)

/-- A character inside a string. -/
def escapeChar (c : Char) : List Char :=
  if c = '"' then ['\\', '"']
  else if c = '\\' then ['\\', '\\']
  else if c = '\x08' then ['\\', 'b']
  else if c = '\x0c' then ['\\', 'f']
  else if c = '\n' then ['\\', 'n']
  else if c = '\r' then ['\\', 'r']
  else if c = '\t' then ['\\', 't']
  else if c.toNat < 0x20 then
    ['\\', 'u', '0', '0', hexDigit (c.toNat / 16), hexDigit (c.toNat % 16)]
  else [c]

/-- A string with its quotes. -/
def quote (s : String) : List Char :=
  '"' :: s.toList.flatMap escapeChar ++ ['"']

/-- A string that may denote no text, which the escape of a lone surrogate writes. -/
def quoteOrLone : Option String → List Char
  | some s => quote s
  | none => "\"\\udc00\"".toList

/-- A number as it was written. -/
def Numeral.chars (n : Numeral) : List Char :=
  (if n.negative then ['-'] else []) ++ n.whole ++
    (if n.fraction = [] then [] else '.' :: n.fraction) ++
    match n.exponent with
    | none => []
    | some (minus, ds) => 'e' :: (if minus then ['-'] else []) ++ ds

mutual

/-- The text of a value. -/
def Value.chars : Value → List Char
  | .null => ['n', 'u', 'l', 'l']
  | .bool true => ['t', 'r', 'u', 'e']
  | .bool false => ['f', 'a', 'l', 's', 'e']
  | .num n => n.chars
  | .str s => quoteOrLone s
  | .arr items => '[' :: itemsChars items ++ [']']
  | .obj members => '\x7b' :: membersChars members ++ ['\x7d']

/-- The texts of the items of an array, with commas between them. -/
def itemsChars : List Value → List Char
  | [] => []
  | [v] => v.chars
  | v :: vs => v.chars ++ ',' :: itemsChars vs

/-- The texts of the members of an object, with commas between them. -/
def membersChars : List (Option String × Value) → List Char
  | [] => []
  | [(k, v)] => quoteOrLone k ++ ':' :: v.chars
  | (k, v) :: ms => quoteOrLone k ++ ':' :: v.chars ++ ',' :: membersChars ms

end

/-- The text of a value. -/
def Value.print (v : Value) : String :=
  String.ofList v.chars

end AuditFeed.Json
