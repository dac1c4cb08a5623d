import AuditFeed.Json.Decode

/-!
# Shapes of documents

What is looked at in a document, and where a document that is refused goes wrong.

A decoder says what a document denotes; whether it denotes anything is settled there. When it does
not, the **first fault** in reading order is told, and that depends on what is looked at: a value of
another kind is one as soon as it is read, so nothing behind it matters, while the inside of a
member that nobody asks for only has to be JSON.

## Order

* a scalar of the wrong kind is refused behind it, so a fault inside of it comes first;
* an array or an object in place of another kind is refused at its bracket, as is one too many
  levels down;
* a name given twice is refused right behind the name.
-/

namespace AuditFeed.Json

open Text

/-- What a value has to be. -/
inductive Shape where
  /-- Anything that is JSON. -/
  | ignored
  /-- Anything that can be held. -/
  | held
  /-- A string. -/
  | string
  /-- An array of values of one shape. -/
  | list (item : Shape)
  /-- A record of fields: name, shape, and may an array stop before this field? -/
  | record (fields : List (String × Shape × Bool))
  /-- Null, or a value of a shape. -/
  | orNull (shape : Shape)

/-- Checks something at the front of a text and answers the text behind it. -/
abbrev Check := List Char → Except Error (List Char)

/-! ### Strings that are looked at -/

/-- A character in front of the characters after it. -/
def consText (c : Char) (rest : Except Error (List Char × List Char)) :
    Except Error (List Char × List Char) :=
  rest.map fun (cs, s) ↦ (c :: cs, s)

/-- The fault of a text that should go on with the second half of a surrogate pair. -/
def pairFault : List Char → Error
  | [] | ['\\'] => .truncated
  | '\\' :: 'u' :: s => unitFault s
  | _ => .malformed

/-- Reads a string after its opening quote. Half of a surrogate pair is a fault. -/
def readString : Reader (List Char)
  | [] => .error .truncated
  | '"' :: rest => .ok ([], rest)
  | '\\' :: 'u' :: a :: b :: c :: d :: rest =>
    match Piece.ofHex? a b c d with
    | none => .error .malformed
    | some (.char x) => consText x (readString rest)
    | some (.half h) =>
      if 0xDC00 ≤ h then .error .malformed
      else
        match rest with
        | '\\' :: 'u' :: a :: b :: c :: d :: rest =>
          match Piece.ofHex? a b c d with
          | some (.half l) =>
            if 0xDC00 ≤ l then consText (surrogatePair h l) (readString rest)
            else .error .malformed
          | _ => .error .malformed
        | rest => .error (pairFault rest)
  | ['\\'] => .error .truncated
  | '\\' :: e :: rest =>
    if e = 'u' then .error (unitFault rest)
    else
      match shortEscape? e with
      | some c => consText c (readString rest)
      | none => .error .malformed
  | c :: rest => if c.toNat < 0x20 then .error .malformed else consText c (readString rest)

/-! ### Scalars -/

namespace Shape

/-- May a null stand here? -/
def hasNull : Shape → Bool
  | ignored | held | orNull _ => true
  | _ => false

/-- May a truth value or a number stand here? -/
def hasScalar : Shape → Bool
  | ignored | held => true
  | orNull s => s.hasScalar
  | _ => false

/-- May a string stand here? -/
def hasString : Shape → Bool
  | ignored | held | string => true
  | orNull s => s.hasString
  | _ => false

/-- Is the inside not looked at? -/
def isIgnored : Shape → Bool
  | ignored => true
  | orNull s => s.isIgnored
  | _ => false

/-- Checks the rest of a word. -/
def checkWord (fits : Bool) (word : List Char) : Check := fun s ↦ do
  let rest ← readWord word s
  if fits then return rest else throw (.mismatch none)

/-- Checks a number after its sign. One that is not looked at may not stop early, and may be of any
size. -/
def checkNumber (shape : Shape) (negative : Bool) : Check := fun s ↦
  match readNumeral negative s with
  | .error e => .error (if shape.isIgnored then .malformed else e)
  | .ok (n, rest) =>
    if shape.isIgnored then .ok rest
    else if n.value?.isNone then .error .malformed
    else if shape.hasScalar then .ok rest
    else .error (.mismatch none)

/-- Checks a string after its opening quote. -/
def checkString (shape : Shape) : Check := fun s ↦ do
  if shape.isIgnored then return (← readPieces s).2
  let (cs, rest) ← readString s
  if shape.hasString then return rest else throw (.mismatch (some (String.ofList cs)))

/-! ### Insides -/

/-- The shape of the items of an array, if an array of any length may stand here. -/
def item? : Shape → Option Shape
  | ignored => some ignored
  | held => some held
  | list s => some s
  | orNull s => s.item?
  | _ => none

/-- The fields of a record, if one may stand here. -/
def fields? : Shape → Option (List (String × Shape × Bool))
  | record fields => some fields
  | orNull s => s.fields?
  | _ => none

/-- The shape of a member, if an object may stand here. -/
def member? (shape : Shape) (name : String) : Option Shape :=
  match shape with
  | ignored => some ignored
  | held => some held
  | record fields => some (((fields.find? (·.1 == name)).map (·.2.1)).getD ignored)
  | orNull s => s.member? name
  | _ => none

/-- Is this the name of a field? -/
def hasField (shape : Shape) (name : String) : Bool :=
  (shape.fields?.getD []).any (·.1 == name)

/-- The room inside of an array or an object, if it may stand here. -/
def enter (shape : Shape) (fits : Bool) (room : Nat) : Except Error Nat :=
  if shape.isIgnored then .ok room
  else if !fits then .error (.mismatch none)
  else if room = 0 then .error .malformed
  else .ok (room - 1)

/-- Goes on behind a comma. -/
def comma : Check := fun s ↦
  match skipGap s with
  | ',' :: rest => .ok (skipGap rest)
  | rest => refuse rest

/-- Checks the end of an array that was given all its fields. -/
def checkEnd : Check := fun s ↦
  match skipGap s with
  | ']' :: rest => .ok rest
  | rest => refuse rest

mutual

/-- Checks a value. Each step inwards or onwards spends one unit of `fuel`. -/
def check : Nat → Shape → Nat → Check
  | 0, _, _, s => refuse s
  | fuel + 1, shape, room, s =>
    match s with
    | 'n' :: rest => checkWord shape.hasNull ['u', 'l', 'l'] rest
    | 't' :: rest => checkWord shape.hasScalar ['r', 'u', 'e'] rest
    | 'f' :: rest => checkWord shape.hasScalar ['a', 'l', 's', 'e'] rest
    | '"' :: rest => shape.checkString rest
    | '[' :: rest => do
      let inside ← shape.enter (shape.item?.isSome || shape.fields?.isSome) room
      match shape.fields?, skipGap rest with
      | some fields, rest => checkFields fuel fields true inside rest
      | none, ']' :: rest => return rest
      | none, rest => checkItems fuel (shape.item?.getD ignored) inside rest
    | '\x7b' :: rest => do
      let inside ← shape.enter (shape.member? "").isSome room
      match skipGap rest with
      | '\x7d' :: rest => return rest
      | rest => checkMembers fuel shape [] inside rest
    | '-' :: rest => shape.checkNumber true rest
    | _ => shape.checkNumber false s

/-- Checks the items of an array up to its closing bracket. -/
def checkItems : Nat → Shape → Nat → Check
  | 0, _, _, s => refuse s
  | fuel + 1, shape, room, s => do
    let rest ← check fuel shape room s
    match skipGap rest with
    | ']' :: rest => return rest
    | rest => checkItems fuel shape room (← comma rest)

/-- Checks fields by position up to the closing bracket. Only a field after the `first` one has a
comma in front of it. -/
def checkFields : Nat → List (String × Shape × Bool) → Bool → Nat → Check
  | 0, _, _, _, s => refuse s
  | _ + 1, [], _, _, s => checkEnd s
  | fuel + 1, (_, shape, mayStop) :: fields, first, room, s =>
    match skipGap s with
    | ']' :: rest =>
      if mayStop && fields.all (·.2.2) then .ok rest else .error (.mismatch none)
    | s => do
      let s ← if first then pure s else comma s
      checkFields fuel fields false room (← check fuel shape room s)

/-- Checks the members of an object up to its closing brace, after members of the names `seen`. -/
def checkMembers : Nat → Shape → List String → Nat → Check
  | 0, _, _, _, s => refuse s
  | fuel + 1, shape, seen, room, s => do
    let '"' :: rest := s | refuse s
    let (name, rest) ←
      if shape.isIgnored then (readPieces rest).map fun (_, rest) ↦ ("", rest)
      else (readString rest).map fun (cs, rest) ↦ (String.ofList cs, rest)
    if shape.hasField name && seen.contains name then throw (.mismatch none)
    let ':' :: rest := skipGap rest | refuse (skipGap rest)
    let rest ← check fuel ((shape.member? name).getD ignored) room (skipGap rest)
    match skipGap rest with
    | '\x7d' :: rest => return rest
    | rest => checkMembers fuel shape (name :: seen) room (← comma rest)

end

/-- Checks a document. -/
def checkDocument (shape : Shape) (s : List Char) : Except Error Unit := do
  let rest ← check (3 * s.length + 3) shape maxDepth (skipGap s)
  if (skipGap rest).isEmpty then return else throw .malformed

/-- The first fault of a document that is refused. Where each part fits by itself, the document is
of another shape as a whole. -/
def fault (shape : Shape) (s : String) : Error :=
  match shape.checkDocument s.toList with
  | .error e => e
  | .ok () => .mismatch none

end Shape

/-! ### Documents -/

/-- A kind of documents. -/
structure Document (α : Type) where
  /-- What is looked at. -/
  shape : Shape
  /-- What a document denotes. -/
  decoder : Decoder α

/-- What a document denotes, or its first fault. -/
def Document.parse (d : Document α) (s : String) : Except Error α :=
  match d.decoder.parse s with
  | .ok a => .ok a
  | .error _ => .error (d.shape.fault s)

end AuditFeed.Json
