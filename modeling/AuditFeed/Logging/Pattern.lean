import AuditFeed.Text.Blank
import AuditFeed.Text.Letters
import AuditFeed.Text.Scan

/-!
# Patterns

Regular expressions, as far as it takes to say whether a text is one that can be searched for. A
reader keeps no tree of what it reads but only its `Shape`: how deep it nests, and whether it asks
for the edge of a word.

## Rules

* A repetition needs something to repeat, also at the start of a group and behind a bar. Flags by
  themselves cannot be repeated.
* Groups are closed, and only groups that are open. A group may have a name, which no other group
  has, or flags; flags in parentheses by themselves hold up to the end of the group around them.
* Sets of characters are closed, hold at least one character and may hold sets. A range in a set
  has characters at both ends and does not run backwards.
* A backslash stands before a sign, or before a letter that it gives a meaning to.
* Where a flag says that a pattern is spread out, blanks and comments do not count.
* Where a flag says that characters beyond ASCII have no meaning, nothing may stand for parts of
  them.
* A pattern nests no deeper than 250 levels.
* The edge of a word is where characters of all scripts decide, and that is more than the search can
  do.

A brace could only open a count or a name, and a filter's directive ends at the brace that closes
one. So there are none here.
-/

namespace AuditFeed.LogFilter.Pattern

/-! ### Shapes -/

/-- What matters of a part of a pattern. -/
structure Shape where
  /-- How many levels it nests. -/
  depth : Nat
  /-- Does it ask for the edge of a word? -/
  hasWordEdge : Bool

namespace Shape

/-- A part without parts. -/
def leaf : Shape := ⟨0, false⟩

/-- A part around another. -/
def around (s : Shape) : Shape := { s with depth := s.depth + 1 }

/-- Parts side by side. One part stands for itself. -/
def join : List Shape → Shape
  | [] => leaf
  | [s] => s
  | ss => around ⟨(ss.map depth).foldl max 0, ss.any hasWordEdge⟩

end Shape

/-- How a pattern is read. -/
structure Modes where
  /-- Do blanks and comments not count? -/
  isSpread : Bool
  /-- Have characters beyond ASCII a meaning? -/
  isUnicode : Bool

/-! ### Blanks -/

/-- The text behind blanks and comments, from within a comment or not. -/
def skipFrom : Bool → List Char → List Char
  | _, [] => []
  | true, c :: s => skipFrom (c != '\n') s
  | false, c :: s =>
    if Text.isBlank c then skipFrom false s
    else if c == '#' then skipFrom true s
    else c :: s

/-- The text behind what does not count. -/
def Modes.skip (m : Modes) (s : List Char) : List Char :=
  if m.isSpread then skipFrom false s else s

/-- The first character of a text that is no blank and does not open a comment. -/
def peekFrom : Bool → List Char → Option Char
  | _, [] => none
  | inComment, c :: s =>
    if Text.isBlank c then peekFrom inComment s
    else if c == '#' && !inComment then peekFrom true s
    else some c

/-- The next character that counts, as a range looks for it. -/
def Modes.peek (m : Modes) (s : List Char) : Option Char :=
  if m.isSpread then peekFrom false s else s.head?

/-! ### Backslashes -/

/-- What a backslash makes of the characters behind it. -/
inductive Escape where
  /-- One character. -/
  | literal (c : Char)
  /-- Any of several characters. -/
  | several
  /-- A place between characters; that of the edge of a word, or another. -/
  | place (isWordEdge : Bool)

/-- The characters that a letter behind a backslash stands for. -/
def controls : List (Char × Char) :=
  [('a', '\x07'), ('f', '\x0c'), ('t', '\t'), ('n', '\n'), ('r', '\r'), ('v', '\x0b')]

/-- Reads hexadecimal digits, the first of which is the next character. -/
def hexDigits (m : Modes) : Nat → List Char → Option (List Nat × List Char)
  | 0, s => some ([], m.skip s)
  | count + 1, s =>
    match m.skip s with
    | [] => none
    | c :: s => do
      let d ← Text.hexValue? c
      let (ds, rest) ← hexDigits m count s
      return (d :: ds, rest)

/-- Reads a character by its number. Two digits stand for a byte, which alone is no character
beyond ASCII. -/
def numbered (m : Modes) (count : Nat) (s : List Char) : Option (Escape × List Char) := do
  let (ds, rest) ← hexDigits m count s
  let n := ds.foldl (fun n d ↦ n * 16 + d) 0
  guard (n.isValidChar && (m.isUnicode || 2 < count || n < 0x80))
  return (.literal (Char.ofNat n), rest)

/-- Reads the letter of a class of characters of all scripts. -/
def category (m : Modes) (s : List Char) : Option (Escape × List Char) :=
  match m.skip s with
  | [] => none
  | c :: s =>
    if m.isUnicode && "CLMNPSZ".toList.contains c.toUpper then some (.several, m.skip s) else none

/-- Reads what stands behind a backslash. -/
def escape (m : Modes) : List Char → Option (Escape × List Char)
  | [] => none
  | 'x' :: s => numbered m 2 s
  | 'u' :: s => numbered m 4 s
  | 'U' :: s => numbered m 8 s
  | c :: s =>
    if c = 'p' ∨ c = 'P' then category m s
    else if "dsw".toList.contains c then some (.several, s)
    else if "DSW".toList.contains c then if m.isUnicode then some (.several, s) else none
    else if "bB<>".toList.contains c then some (.place m.isUnicode, s)
    else if c = 'A' ∨ c = 'z' then some (.place false, s)
    else
      match controls.lookup c with
      | some d => some (.literal d, s)
      | none => if c.isAlphanum || 0x80 ≤ c.toNat then none else some (.literal c, s)

/-! ### Sets -/

/-- The names of classes of ASCII characters. -/
def asciiClasses : List String :=
  ["alnum", "alpha", "ascii", "blank", "cntrl", "digit", "graph", "lower", "print", "punct",
    "space", "upper", "word", "xdigit"]

/-- Reads a named class behind its bracket: whether it is turned round, and the rest. -/
def asciiClass? : List Char → Option (Bool × List Char)
  | ':' :: s =>
    let isNegated := s.head? == some '^'
    let s := if isNegated then s.drop 1 else s
    let name := s.takeWhile (· != ':')
    match s.drop name.length with
    | ':' :: ']' :: rest =>
      if asciiClasses.contains (String.ofList name) then some (isNegated, rest) else none
    | _ => none
  | _ => none

/-- Reads a member of a set: the character it is, or `none` for several. -/
def member (m : Modes) : List Char → Option (Option Char × List Char)
  | [] => none
  | '\\' :: s =>
    match escape m s with
    | some (.literal c, rest) => if m.isUnicode || c.toNat < 0x80 then some (c, rest) else none
    | some (.several, rest) => some (none, rest)
    | _ => none
  | c :: s => if m.isUnicode || c.toNat < 0x80 then some (c, s) else none

/-- Reads a member of a set or a range of them. -/
def members (m : Modes) (s : List Char) : Option (List Char) := do
  let (low, rest) ← member m s
  match m.skip rest with
  | [] => none
  | '-' :: s =>
    if m.peek s = some ']' ∨ m.peek s = some '-' then return '-' :: s
    else
      let (high, rest) ← member m (m.skip s)
      guard ((← low) ≤ (← high))
      return rest
  | rest => return rest

/-- Reads the hyphens at the start of a set, which stand for themselves, in at most `fuel` steps. -/
def hyphens (m : Modes) : Nat → List Char → List Shape × List Char
  | fuel + 1, '-' :: s =>
    let (ss, rest) := hyphens m fuel (m.skip s)
    (.leaf :: ss, rest)
  | _, s => ([], s)

/-- Reads the start of a set: what it holds so far, and the rest. Some sets are turned round. -/
def setStart (m : Modes) (s : List Char) : Option (List Shape × List Char) := do
  let s := m.skip s
  let isNegated := s.head? == some '^'
  guard (m.isUnicode || !isNegated)
  let s := if isNegated then m.skip (s.drop 1) else s
  let (start, rest) := hyphens m s.length s
  match start, rest with
  | [], ']' :: rest => return ([.leaf], m.skip rest)
  | start, rest => return (start, rest)

/-- Does a set go on behind an operator? -/
def operator? : List Char → Option (List Char)
  | '&' :: '&' :: s | '-' :: '-' :: s | '~' :: '~' :: s => some s
  | _ => none

/-- The members of a set behind an operation. -/
def operation (left : Option Shape) (right : List Shape) : Shape :=
  match left with
  | none => .join right
  | some l => .join [l, .join right]

/-- Reads the rest of a set, in at most `fuel` steps: behind an operator with what stands before it,
and behind members. -/
def setRest (m : Modes) : Nat → Option Shape → List Shape → List Char → Option (Shape × List Char)
  | 0, _, _, _ => none
  | fuel + 1, left, done, s =>
    match m.skip s with
    | [] => none
    | ']' :: rest => some ((operation left done).around, rest)
    | '[' :: s =>
      match asciiClass? s with
      | some (isNegated, rest) =>
        if m.isUnicode || !isNegated then setRest m fuel left (.leaf :: done) rest else none
      | none => do
        let (start, rest) ← setStart m s
        let (inner, rest) ← setRest m fuel none start rest
        setRest m fuel left (inner :: done) rest
    | s =>
      match operator? s with
      | some rest => setRest m fuel (some (operation left done)) [] rest
      | none => do setRest m fuel left (.leaf :: done) (← members m s)

/-! ### Groups -/

/-- How a group starts. -/
inductive Opening where
  /-- Flags that hold behind it; there is no group. -/
  | flags (m : Modes)
  /-- A group with its own modes and perhaps a name. -/
  | group (m : Modes) (name : Option (List Char))

/-- Reads the name of a group. -/
def groupName (s : List Char) : Option (List Char × List Char) := do
  let name := s.takeWhile (· != '>')
  let (first, others) ← match name with
    | [] => none
    | c :: cs => some (c, cs)
  guard (first == '_' || Text.isAlphabetic first)
  guard (others.all fun c ↦ c == '_' || c == '.' || c == '[' || c == ']' || Text.isAlphanumeric c)
  match s.drop name.length with
  | '>' :: rest => return (name, rest)
  | _ => none

/-- Are these flags: each at most once, and something behind a minus? -/
def areFlags (flags : List Char) : Bool :=
  flags.all ("imsUuxR-".toList.contains ·) && flags.eraseDups.length == flags.length &&
    flags.getLast? != some '-'

/-- The modes that flags set. -/
def Modes.set (m : Modes) (flags : List Char) : Modes :=
  let on := flags.takeWhile (· != '-')
  { isSpread := on.contains 'x' || (m.isSpread && !flags.contains 'x')
    isUnicode := on.contains 'u' || (m.isUnicode && !flags.contains 'u') }

/-- Reads the start of a group behind its parenthesis. Nothing can look around. -/
def opening (m : Modes) (s : List Char) : Option (Opening × List Char) :=
  match m.skip s with
  | '?' :: '=' :: _ | '?' :: '!' :: _ | '?' :: '<' :: '=' :: _ | '?' :: '<' :: '!' :: _ => none
  | '?' :: 'P' :: '<' :: s | '?' :: '<' :: s =>
    (groupName s).map fun (name, rest) ↦ (.group m name, rest)
  | '?' :: s =>
    let flags := s.takeWhile fun c ↦ c != ':' && c != ')'
    match areFlags flags, s.drop flags.length with
    | true, ':' :: rest => some (.group (m.set flags) none, rest)
    | true, ')' :: rest => if flags.isEmpty then none else some (.flags (m.set flags), rest)
    | _, _ => none
  | s => some (.group m none, s)

/-! ### Items -/

/-- An item of a pattern; flags cannot be repeated. -/
structure Item where
  /-- Its shape. -/
  shape : Shape
  /-- Can it be repeated? -/
  isRepeatable : Bool

/-- What is read of a pattern or of a group. -/
structure Body where
  /-- The modes at this place. -/
  modes : Modes
  /-- The names of all groups so far. -/
  names : List (List Char)
  /-- The alternatives before the last bar, the last one first. -/
  done : List Shape
  /-- The items behind the last bar, the last one first. -/
  items : List Item

namespace Body

/-- The shape of the items behind the last bar. -/
def last (b : Body) : Shape := .join (b.items.map Item.shape)

/-- The shape of all that is read. -/
def shape (b : Body) : Shape :=
  if b.done.isEmpty then b.last else .join (b.last :: b.done)

/-- With one more item. -/
def add (b : Body) (s : Shape) : Body := { b with items := ⟨s, true⟩ :: b.items }

/-- Behind a bar. -/
def bar (b : Body) : Body := { b with done := b.last :: b.done, items := [] }

/-- With the last item repeated. -/
def repeated (b : Body) : Option Body :=
  match b.items with
  | ⟨s, true⟩ :: items => some { b with items := ⟨s.around, true⟩ :: items }
  | _ => none

/-- Behind flags. -/
def withModes (b : Body) (m : Modes) : Body :=
  { b with modes := m, items := ⟨.leaf, false⟩ :: b.items }

/-- At the start of a group, unless its name is taken. -/
def enter (b : Body) (m : Modes) (name : Option (List Char)) : Option Body :=
  if (name.map b.names.contains).getD false then none
  else some ⟨m, name.toList ++ b.names, [], []⟩

end Body

/-- Reads a character that is neither a parenthesis nor a bar, a bracket or a repetition. -/
def single (m : Modes) : List Char → Option (Shape × List Char)
  | [] => none
  | '\x7b' :: _ => none
  | '.' :: s => if m.isUnicode then some (.leaf, s) else none
  | '\\' :: s =>
    match escape m s with
    | some (.place true, rest) => some (⟨0, true⟩, rest)
    | some (_, rest) => some (.leaf, rest)
    | none => none
  | _ :: s => some (.leaf, s)

/-- Reads items up to the end or to a parenthesis that closes, in at most `fuel` steps. -/
def read : Nat → Body → List Char → Option (Body × List Char)
  | 0, _, _ => none
  | fuel + 1, b, s =>
    match b.modes.skip s with
    | [] => some (b, [])
    | ')' :: s => some (b, ')' :: s)
    | '|' :: s => read fuel b.bar s
    | '(' :: s => do
      match ← opening b.modes s with
      | (.flags m, rest) => read fuel (b.withModes m) rest
      | (.group m name, rest) =>
        let (inner, rest) ← read fuel (← b.enter m name) rest
        match rest with
        | ')' :: rest => read fuel ({ b with names := inner.names }.add inner.shape.around) rest
        | _ => none
    | '[' :: s => do
      let (start, rest) ← setStart b.modes s
      let (shape, rest) ← setRest b.modes fuel none start rest
      read fuel (b.add shape) rest
    | c :: s =>
      if c = '*' ∨ c = '+' ∨ c = '?' then do
        read fuel (← b.repeated) (if s.head? = some '?' then s.drop 1 else s)
      else do
        let (shape, rest) ← single b.modes (c :: s)
        read fuel (b.add shape) rest

/-- The most levels of a pattern. -/
def depthLimit : Nat := 250

/-- Why a text is no pattern to search for. -/
inductive Error where
  /-- It is no pattern. -/
  | malformed
  /-- It asks for the edge of a word. -/
  | wordEdge
deriving DecidableEq

/-- What a failure says. -/
def Error.message : Error → String
  | malformed => "error building NFA"
  | wordEdge =>
    "unsupported regex feature for DFAs: cannot build DFAs for regexes with Unicode word " ++
      "boundaries; switch to ASCII word boundaries, or heuristically enable Unicode word " ++
      "boundaries or use a different regex engine"

/-- Checks a pattern. -/
def check (s : List Char) : Except Error Unit :=
  match read (s.length + 1) ⟨⟨false, true⟩, [], [], []⟩ s with
  | some (b, []) =>
    if depthLimit < b.shape.depth then .error .malformed
    else if b.shape.hasWordEdge then .error .wordEdge
    else .ok ()
  | _ => .error .malformed

end AuditFeed.LogFilter.Pattern
