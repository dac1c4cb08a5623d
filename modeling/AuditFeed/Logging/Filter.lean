import AuditFeed.Logging.Pattern
import AuditFeed.Overflow
import AuditFeed.Text.Utf8

/-!
# Filters

What is logged, part by part of a program. A filter is a list of directives with commas between
them. A directive is a level, or a target with a span and a level behind an equals sign, each of
which may be left out. A span stands in brackets and may name one field in braces, with a number or
a pattern for its value. An empty directive says nothing.

Blanks around a directive do not count where its form is told, but its parts are cut from the whole
text, at the numbers of the bytes that they have without the blanks. So blanks in front of a
directive shift its parts: a level is none then, and a part whose ends fall inside of characters
stops the program.
-/

namespace AuditFeed.LogFilter

/-- Why a text is no filter. -/
inductive Error where
  /-- A level is neither a name nor a number. -/
  | level
  /-- A directive has another form. -/
  | directive
  /-- The value of a field is neither a number nor a pattern. -/
  | field (e : Pattern.Error)
deriving DecidableEq

/-- What a failure says. -/
def Error.message : Error → String
  | level =>
    "error parsing level filter: expected one of \"off\", \"error\", \"warn\", \"info\", " ++
      "\"debug\", \"trace\", or a number 0-5"
  | directive => "invalid filter directive"
  | field e => s!"invalid field filter: {e.message}"

/-- A check of a filter, which may stop the program. -/
abbrev Check := ExceptT Error (Except Overflow)

/-! ### Parts -/

/-- The names of levels. -/
def levelNames : List String := ["off", "error", "warn", "info", "debug", "trace"]

/-- Is this a level, by name in either case or by number? -/
def isLevel (s : List Char) : Bool :=
  levelNames.contains (String.ofList (s.map Char.toLower)) || (Text.numberBelow? 6 s).isSome

/-- Checks the level behind an equals sign; none is fine. -/
def checkLevel (s : List Char) : Except Error Unit :=
  if s.isEmpty || isLevel s then .ok () else .error .level

/-- The text behind an optional sign. -/
def unsigned : List Char → List Char
  | '+' :: s | '-' :: s => s
  | s => s

/-- Is this a number that may have a fraction and an exponent, or one of the names of those that are
none? -/
def isNumber (s : List Char) : Bool :=
  let s := unsigned s
  let whole := s.takeWhile Text.isDigit
  let rest := s.drop whole.length
  let fraction := if rest.head? = some '.' then (rest.drop 1).takeWhile Text.isDigit else []
  let rest := if rest.head? = some '.' then rest.drop (fraction.length + 1) else rest
  let isEnd := match rest with
    | [] => true
    | e :: exponent => (e == 'e' || e == 'E') && (Text.number? (unsigned exponent)).isSome
  ["inf", "infinity", "nan"].contains (String.ofList (s.map Char.toLower)) ||
    (isEnd && (!whole.isEmpty || !fraction.isEmpty))

/-- Checks a field: a name, and perhaps a number or a pattern behind an equals sign. -/
def checkField (s : List Char) : Except Error Unit :=
  match s.splitOn '=' with
  | _ :: value :: _ => if isNumber value then .ok () else (Pattern.check value).mapError .field
  | _ => if s.isEmpty then .error .directive else .ok ()

/-! ### Cuts -/

/-- The text from the byte of a number on, if a character starts there. -/
def dropBytes : Nat → List Char → Option (List Char)
  | 0, s => some s
  | _ + 1, [] => none
  | n + 1, c :: s => if c.utf8Size ≤ n + 1 then dropBytes (n + 1 - c.utf8Size) s else none

/-- The text in front of the byte of a number, if a character starts there. -/
def takeBytes : Nat → List Char → Option (List Char)
  | 0, _ => some []
  | _ + 1, [] => none
  | n + 1, c :: s =>
    if c.utf8Size ≤ n + 1 then (takeBytes (n + 1 - c.utf8Size) s).map (c :: ·) else none

/-- The part of a text between two numbers of bytes. -/
def cut (s : List Char) (start stop : Nat) : Check (List Char) :=
  ExceptT.lift (Overflow.inText ((dropBytes start s).bind (takeBytes (stop - start))))

/-! ### Directives -/

/-- Where the reading of a directive stands; parts that are not complete have the number of their
first byte. -/
inductive Place where
  | start
  /-- In a target, or in a level without one. -/
  | target
  /-- In a span. -/
  | span (start : Nat)
  /-- In a field of a span. -/
  | field (start : Nat)
  /-- Behind the field of a span. -/
  | fieldEnd
  /-- Behind a span. -/
  | spanEnd
  /-- In a level behind an equals sign. -/
  | level (start : Nat)

/-- May a target start with this character: a letter, a numeral, or one of three signs? -/
def startsTarget (c : Char) : Bool :=
  Text.isAlphanumeric c || c == '-' || c == ':' || c == '_'

/-- The place behind a character, whose first byte has the number `i`, of the directive in `s`. -/
def Place.step (s : List Char) (i : Nat) (c : Char) : Place → Check Place
  | start =>
    if c = '[' then return span (i + 1)
    else if startsTarget c then return target
    else throw .directive
  | target => do
    if c = '=' then
      discard (cut s 0 i)
      return level (i + 1)
    else if c = '[' then
      discard (cut s 0 i)
      return span (i + 1)
    else return target
  | span first => do
    if c = ']' then
      discard (cut s first i)
      return spanEnd
    else if c = '\x7b' then
      discard (cut s first i)
      return field (i + 1)
    else return span first
  | field first => do
    if c = '\x7d' then
      ExceptT.mk (pure (checkField (← cut s first i)))
      return fieldEnd
    else return field first
  | fieldEnd => if c = ']' then return spanEnd else throw .directive
  | spanEnd => if c = '=' then return level (i + 1) else throw .directive
  | level first => return level first

/-- The place at the end of a text behind a place. -/
def Place.run (s : List Char) : Nat → Place → List Char → Check Place
  | _, p, [] => return p
  | i, p, c :: rest => do run s (i + c.utf8Size) (← p.step s i c) rest

/-- Checks a directive. -/
def checkDirective (s : List Char) : Check Unit := do
  match ← Place.run s 0 .start (Text.trimChars s) with
  | .target | .spanEnd => return
  | .level first =>
    let level ← cut s first (Text.utf8 s).length
    ExceptT.mk (pure (checkLevel level))
  | _ => throw .directive

/-- Checks a filter. -/
def check (s : String) : Check Unit :=
  ((s.toList.splitOn ',').filter (!·.isEmpty)).forM checkDirective

end AuditFeed.LogFilter
