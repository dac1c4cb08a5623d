import AuditFeed.Json.Reader
import AuditFeed.Word

/-!
# Decoding

From a JSON value to a value of the program. A decoder only says whether a value fits, not
which of two misfits comes first.

## Room

A value may nest 127 levels deep where its inside is looked at. A decoder carries the **room** that
is left and passes one less to what it finds inside an array or an object. Members that nobody asks
for are not looked at, so they may be of any depth, with numbers of any size and strings that denote
no text.

## Records

A record is an object or, by position, an array. An object may leave out a field and have fields of
its own, but may not repeat a known one. An array may stop early and may not go on.
-/

namespace AuditFeed.Json

/-- Makes a value of the program of a JSON value, with the room that is left. -/
abbrev Decoder (α : Type) := Nat → Value → Option α

/-- The levels of nesting that a document may use. -/
def maxDepth : Nat := 127

/-- Decodes a document's value. -/
def Decoder.run (d : Decoder α) (v : Value) : Except Error α :=
  match d maxDepth v with
  | some a => .ok a
  | none => .error (.mismatch none)

/-- Decodes a text. -/
def Decoder.parse (d : Decoder α) (s : String) : Except Error α := do
  d.run (← Json.parse s)

/-- Decodes bytes. -/
def Decoder.parseBytes (d : Decoder α) (bs : List UInt8) : Except Error α := do
  d.run (← Json.parseBytes bs)

/-! ### Leaves -/

/-- A string. -/
def string : Decoder String
  | _, .str s => s
  | _, _ => none

/-- A natural number below a bound, written without point or exponent. -/
def natBelow (bound : Nat) : Decoder Nat
  | _, .num n =>
    match n.value? with
    | some (.unsigned k) => if k < bound then some k else none
    | _ => none
  | _, _ => none

/-- An integer of 64 bits, written without point or exponent. -/
def int64 : Decoder Int
  | _, .num n =>
    match n.value? with
    | some (.unsigned k) => if k < Word.limit63 then some (k : Int) else none
    | some (.signed k) => some k
    | _ => none
  | _, _ => none

/-- A decoded value, changed. -/
def mapped (f : α → β) (d : Decoder α) : Decoder β :=
  fun room v ↦ (d room v).map f

/-! ### Options, lists and records -/

/-- Null, or a value. -/
def option (d : Decoder α) : Decoder (Option α)
  | _, .null => some none
  | room, v => (d room v).map some

/-- A value, or for null a default. -/
def orDefault (d : Decoder α) (a : α) : Decoder α
  | _, .null => some a
  | room, v => d room v

/-- An array of values. -/
def list (d : Decoder α) : Decoder (List α)
  | room + 1, .arr vs => vs.mapM (d room)
  | _, _ => none

/-- The fields of a record: the value of each that is there. -/
structure Record where
  /-- The values of the fields, in the order of declaration. -/
  values : List (Option Value)
  /-- Were the fields given by position? -/
  positional : Bool

/-- The value of the only member of this name; fails where the name is repeated. -/
def uniqueMember (name : String) (members : List (Option String × Value)) : Option (Option Value) :=
  match members.filter fun m ↦ m.1 == some name with
  | [] => some none
  | [(_, v)] => some (some v)
  | _ => none

/-- The fields of these names. Every name of an object has to be a text. -/
def record (names : List String) : Value → Option Record
  | .obj members => do
    guard (members.all fun m ↦ m.1.isSome)
    return ⟨← names.mapM fun name ↦ uniqueMember name members, false⟩
  | .arr vs =>
    if vs.length ≤ names.length then
      some ⟨vs.map some ++ List.replicate (names.length - vs.length) none, true⟩
    else none
  | _ => none

namespace Record

/-- The value at a position, if it is there. -/
def value (r : Record) (i : Nat) : Option Value :=
  (r.values[i]?).join

/-- A field that has to be there. -/
def required (r : Record) (room i : Nat) (d : Decoder α) : Option α := do
  d room (← r.value i)

/-- A field that may be left out for a default. -/
def defaulted (r : Record) (room i : Nat) (d : Decoder α) (a : α) : Option α :=
  match r.value i with
  | some v => d room v
  | none => some a

/-- A field that an object may leave out, but not an array. -/
def optional (r : Record) (room i : Nat) (d : Decoder α) : Option (Option α) :=
  match r.value i with
  | some v => option d room v
  | none => if r.positional then none else some none

end Record

/-- Decodes a record with these fields. -/
def ofRecord (names : List String) (f : Nat → Record → Option α) : Decoder α
  | room + 1, v => do f room (← record names v)
  | 0, _ => none

/-! ### Values that are held before they are read -/

mutual

/-- Can this value be held: is it within the room, with texts for strings and numbers within
range? -/
def isHoldable : Nat → Value → Bool
  | _, .null => true
  | _, .bool _ => true
  | _, .num n => n.value?.isSome
  | _, .str s => s.isSome
  | 0, .arr _ => false
  | room + 1, .arr vs => areHoldable room vs
  | 0, .obj _ => false
  | room + 1, .obj ms => membersHoldable room ms

/-- Can all these values be held? -/
def areHoldable : Nat → List Value → Bool
  | _, [] => true
  | room, v :: vs => isHoldable room v && areHoldable room vs

/-- Can all these members be held? -/
def membersHoldable : Nat → List (Option String × Value) → Bool
  | _, [] => true
  | room, (k, v) :: ms => k.isSome && isHoldable room v && membersHoldable room ms

end

end AuditFeed.Json
