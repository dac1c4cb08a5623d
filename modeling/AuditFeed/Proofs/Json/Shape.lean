import AuditFeed.Json.Shape
import Mathlib.Data.List.Forall2

/-!
# What fits a shape

A shape lists what is looked at in a document, and a decoder makes something of it.
`Json.Shape.Fits` says what a shape asks of a value, without either of them, and
`Json.Decoder.Takes` that a decoder makes something of exactly the values that fit.

## Putting decoders together

There is one rule for each way in which decoders are put together, so that a decoder takes its shape
is read off its definition, field by field. A decoder takes a list only if it takes every item of
it, and a record only if it takes every field that is there. So one misfit deep inside is one of the
whole, unless a decoder on the way asks nothing of it.

## Records

An object may leave out any field, but names none of them twice; an array gives them by position,
and may only stop in front of fields that have a default. Both are turned into a `Json.Record`
first, and `Json.Record.FieldsFit` says in the same words for both what a record has to have. The
fields are read one after the other, so what is asked is asked along the list of fields
(`Json.Record.isSome_bind_field`).

## Main statements

* `Json.takes_ofRecord`: a decoder of a record takes its shape.
* `Json.Document.parse_eq_ok_iff`: what a text denotes.
-/

namespace AuditFeed.Json

variable {α β : Type}

/-- Does a value fit a shape, with the room that is left? -/
inductive Shape.Fits : Shape → Nat → Value → Prop
  | ignored {room : Nat} {v : Value} : Fits .ignored room v
  | held {room : Nat} {v : Value} (h : isHoldable room v = true) : Fits .held room v
  | string {room : Nat} {s : String} : Fits .string room (.str (some s))
  | null {shape : Shape} {room : Nat} : Fits (.orNull shape) room .null
  | some {shape : Shape} {room : Nat} {v : Value} (h : Fits shape room v) :
      Fits (.orNull shape) room v
  /-- All items of an array fit. -/
  | list {item : Shape} {room : Nat} {vs : List Value} (h : ∀ v ∈ vs, Fits item room v) :
      Fits (.list item) (room + 1) (.arr vs)
  /-- All names of an object are texts, no field is repeated, and those that are there fit. -/
  | object {fields : List (String × Shape × Bool)} {room : Nat}
      {ms : List (Option String × Value)} (htext : ∀ m ∈ ms, m.1.isSome = true)
      (honce : ∀ field ∈ fields, (ms.filter (·.1 == Option.some field.1)).length ≤ 1)
      (h : ∀ field ∈ fields, ∀ v, (Option.some field.1, v) ∈ ms → Fits field.2.1 room v) :
      Fits (.record fields) (room + 1) (.obj ms)
  /-- An array has no more items than there are fields, and stops only where it may; what it has
  fits by position. -/
  | array {fields : List (String × Shape × Bool)} {room : Nat} {vs : List Value}
      (hlength : vs.length ≤ fields.length)
      (hstop : ∀ field ∈ fields.drop vs.length, field.2.2 = true)
      (h : ∀ p ∈ fields.zip vs, Fits p.1.2.1 room p.2) :
      Fits (.record fields) (room + 1) (.arr vs)

/-- Does a decoder make something of exactly the values that fit a shape? -/
def Decoder.Takes (d : Decoder α) (shape : Shape) : Prop :=
  ∀ room v, (d room v).isSome = true ↔ shape.Fits room v

/-! ### Lists of results -/

/-- What is made of a list is what is made of each of its items. -/
theorem mapM_eq_some_iff {f : α → Option β} {as : List α} {bs : List β} :
    as.mapM f = some bs ↔ List.Forall₂ (fun a b ↦ f a = some b) as bs := by
  induction as generalizing bs with
  | nil => cases bs <;> simp
  | cons a as ih =>
    rw [List.mapM_cons, List.forall₂_cons_left_iff]
    constructor
    · intro h
      obtain ⟨b, hb, h⟩ := Option.bind_eq_some_iff.1 h
      obtain ⟨rest, hrest, h⟩ := Option.bind_eq_some_iff.1 h
      exact ⟨b, rest, hb, ih.1 hrest, (Option.some.inj h).symm⟩
    · rintro ⟨b, rest, hb, hrest, rfl⟩
      rw [hb, ih.2 hrest]
      rfl

/-- Something is made of a list if something is made of each of its items. -/
theorem isSome_mapM_iff {f : α → Option β} {as : List α} :
    (as.mapM f).isSome = true ↔ ∀ a ∈ as, (f a).isSome = true := by
  induction as with
  | nil => simp
  | cons a as ih =>
    rw [List.mapM_cons, List.forall_mem_cons, ← ih]
    cases f a with
    | none => simp
    | some b => cases as.mapM f <;> simp

/-! ### Leaves, options and lists -/

/-- A string is read from a text alone. -/
theorem takes_string : string.Takes .string := by
  intro room v
  constructor
  · intro h
    rcases v with _ | _ | _ | s | _ | _
    case str =>
      cases s with
      | none => cases h
      | some s => exact .string
    all_goals cases h
  · rintro ⟨⟩
    rfl

section

variable {d : Decoder α} {shape : Shape}

/-- An option is read from null too. -/
theorem Decoder.Takes.option (h : d.Takes shape) : (option d).Takes (.orNull shape) := by
  intro room v
  by_cases hv : v = .null
  · subst hv
    exact ⟨fun _ ↦ .null, fun _ ↦ rfl⟩
  · rw [Json.option.eq_def]
    split
    · exact absurd rfl hv
    · rw [Option.isSome_map, h]
      refine ⟨.some, fun hfits ↦ ?_⟩
      cases hfits with
      | null => exact absurd rfl hv
      | some hfits => exact hfits

theorem Decoder.Takes.orDefault (h : d.Takes shape) (a : α) :
    (orDefault d a).Takes (.orNull shape) := by
  intro room v
  have hsome : (Json.orDefault d a room v).isSome = (Json.option d room v).isSome := by
    rw [Json.option.eq_def, Json.orDefault.eq_def]
    split
    · rfl
    · rw [Option.isSome_map]
  rw [hsome, h.option]

/-- A list is read if all its items are. -/
theorem Decoder.Takes.list (h : d.Takes shape) : (list d).Takes (.list shape) := by
  intro room v
  constructor
  · intro hsome
    rw [Json.list.eq_def] at hsome
    split at hsome
    · rename_i room vs
      exact .list fun v hv ↦ (h room v).1 (isSome_mapM_iff.1 hsome v hv)
    · cases hsome
  · intro hfits
    cases hfits with
    | list hfits => exact isSome_mapM_iff.2 fun v hv ↦ (h _ v).2 (hfits v hv)

end

/-! ### Records -/

namespace Record

/-- Does what a record has of a field fit? An object may leave out any field, and an array those
that it may stop before. -/
def FieldFits (r : Record) (room i : Nat) (field : String × Shape × Bool) : Prop :=
  match r.value i with
  | some v => field.2.1.Fits room v
  | none => r.positional = true → field.2.2 = true

/-- Does what a record has of these fields fit, the first of which is its field at `i`? -/
def FieldsFit (r : Record) (room : Nat) : Nat → List (String × Shape × Bool) → Prop
  | _, [] => True
  | i, field :: fields => r.FieldFits room i field ∧ r.FieldsFit room (i + 1) fields

/-- Fields fit if each of them does, at its place. -/
theorem fieldsFit_iff {r : Record} {room i : Nat} {fields : List (String × Shape × Bool)} :
    r.FieldsFit room i fields ↔
      ∀ j field, fields[j]? = some field → r.FieldFits room (i + j) field := by
  induction fields generalizing i with
  | nil => simp [FieldsFit]
  | cons field fields ih =>
    rw [FieldsFit, ih]
    constructor
    · rintro ⟨hfirst, hrest⟩ (_ | j) other hother
      · cases hother
        exact hfirst
      · rw [Nat.add_comm j, ← Nat.add_assoc]
        exact hrest j other hother
    · intro h
      refine ⟨h 0 field rfl, fun j other hother ↦ ?_⟩
      rw [Nat.add_assoc, Nat.add_comm 1]
      exact h (j + 1) other hother

variable {d : Decoder α} {shape : Shape} {r : Record} {room i : Nat} {name : String}

/-- A field with a default is read if it fits, or if there is none. -/
theorem isSome_defaulted (h : d.Takes shape) (a : α) :
    (r.defaulted room i d a).isSome = true ↔ r.FieldFits room i (name, shape, true) := by
  rw [defaulted, FieldFits]
  cases r.value i with
  | some v => exact h room v
  | none => simp

/-- A field that may be null is read if it fits; an array may not stop in front of it. -/
theorem isSome_optional (h : d.Takes shape) :
    (r.optional room i d).isSome = true ↔ r.FieldFits room i (name, .orNull shape, false) := by
  rw [optional, FieldFits]
  cases r.value i with
  | some v => exact h.option room v
  | none => cases r.positional <;> simp

/-- The fields of a record are read one after the other, and one that does not fit is enough. -/
theorem isSome_bind_field {field : String × Shape × Bool}
    {fields : List (String × Shape × Bool)} {x : Option α} {f : α → Option β}
    (hx : x.isSome = true ↔ r.FieldFits room i field)
    (hf : ∀ a, (f a).isSome = true ↔ r.FieldsFit room (i + 1) fields) :
    (x >>= f).isSome = true ↔ r.FieldsFit room i (field :: fields) := by
  rw [FieldsFit, ← hx]
  cases x with
  | none => simp
  | some a => simp [hf a]

theorem isSome_pure_fields {a : α} :
    (pure a : Option α).isSome = true ↔ r.FieldsFit room i [] := by
  simp [FieldsFit]

end Record

/-- An object has at most one member of a name if it does not repeat it. -/
theorem isSome_uniqueMember {name : String} {ms : List (Option String × Value)} :
    (uniqueMember name ms).isSome = true ↔ (ms.filter (·.1 == some name)).length ≤ 1 := by
  rw [uniqueMember]
  generalize ms.filter (·.1 == some name) = found
  rcases found with _ | ⟨⟨k, v⟩, _ | ⟨m, rest⟩⟩ <;> simp

/-- What an object has of a name that it does not repeat is the value of its member. -/
theorem mem_iff_of_uniqueMember {name : String} {ms : List (Option String × Value)}
    {o : Option Value} (h : uniqueMember name ms = some o) (v : Value) :
    (some name, v) ∈ ms ↔ o = some v := by
  have hmem : (some name, v) ∈ ms ↔ (some name, v) ∈ ms.filter (·.1 == some name) := by
    simp [List.mem_filter]
  have hname : ∀ m ∈ ms.filter (·.1 == some name), m.1 = some name :=
    fun m hm ↦ beq_iff_eq.1 (List.mem_filter.1 hm).2
  -- Only the members of the name are looked at, and of those there is at most one.
  rw [hmem]
  rw [uniqueMember] at h
  generalize ms.filter (·.1 == some name) = found at hname h ⊢
  rcases found with _ | ⟨⟨k, w⟩, _ | ⟨m, rest⟩⟩
  · cases h
    simp
  · obtain rfl : k = some name := hname (k, w) (List.mem_singleton.2 rfl)
    cases h
    simp [eq_comm]
  · cases h

/-- An object is a record of its members, unless a name is no text or is repeated. -/
theorem record_obj (names : List String) (ms : List (Option String × Value)) :
    record names (.obj ms) =
      if ms.all (·.1.isSome) then
        (names.mapM fun name ↦ uniqueMember name ms).map fun values ↦ ⟨values, false⟩
      else none := by
  rw [record]
  cases ms.all (·.1.isSome) <;> cases names.mapM fun name ↦ uniqueMember name ms <;> rfl

/-- An object is a record if all its names are texts and it repeats none of the fields. -/
theorem isSome_record_obj {names : List String} {ms : List (Option String × Value)} :
    (record names (.obj ms)).isSome = true ↔ (∀ m ∈ ms, m.1.isSome = true) ∧
      ∀ name ∈ names, (ms.filter (·.1 == some name)).length ≤ 1 := by
  rw [record_obj]
  split
  · rename_i htext
    rw [List.all_eq_true] at htext
    rw [Option.isSome_map, isSome_mapM_iff]
    simp only [isSome_uniqueMember]
    exact ⟨fun honce ↦ ⟨htext, honce⟩, fun h ↦ h.2⟩
  · rename_i htext
    rw [List.all_eq_true] at htext
    refine ⟨fun hsome ↦ ?_, fun h ↦ absurd h.1 htext⟩
    cases hsome

/-- The fields of an object are its members of these names, in the order of the names. -/
theorem value_of_record_obj {names : List String} {ms : List (Option String × Value)} {r : Record}
    (h : record names (.obj ms) = some r) :
    r.positional = false ∧
      ∀ i name, names[i]? = some name → uniqueMember name ms = some (r.value i) := by
  rw [record_obj] at h
  split at h
  · obtain ⟨values, hvalues, rfl⟩ := Option.map_eq_some_iff.1 h
    refine ⟨rfl, fun i name hname ↦ ?_⟩
    have hall := mapM_eq_some_iff.1 hvalues
    obtain ⟨hi, rfl⟩ := List.getElem?_eq_some_iff.1 hname
    have hi' : i < values.length := hall.length_eq ▸ hi
    rw [Record.value, List.getElem?_eq_getElem hi']
    exact hall.get hi hi'
  · cases h

/-- The fields of an array are its items, by position. -/
theorem value_of_record_arr {names : List String} {vs : List Value} {r : Record}
    (h : record names (.arr vs) = some r) :
    vs.length ≤ names.length ∧ r.positional = true ∧ ∀ i : Nat, r.value i = vs[i]? := by
  rw [record] at h
  split at h
  · rename_i hlength
    cases h
    refine ⟨hlength, rfl, fun i ↦ ?_⟩
    rw [Record.value, List.getElem?_append, List.getElem?_map, List.length_map,
      List.getElem?_replicate]
    by_cases hi : i < vs.length
    · rw [if_pos hi]
      cases vs[i]? <;> rfl
    · rw [if_neg hi, List.getElem?_eq_none (Nat.not_lt.1 hi)]
      split <;> rfl
  · cases h

variable {fields : List (String × Shape × Bool)} {room : Nat}

/-- What an object has of the fields fits if the object does. -/
theorem fits_obj_iff {ms : List (Option String × Value)} :
    (Shape.record fields).Fits (room + 1) (.obj ms) ↔
      ∃ r, record (fields.map (·.1)) (.obj ms) = some r ∧ r.FieldsFit room 0 fields := by
  constructor
  · intro hfits
    cases hfits with
    | object htext honce h =>
      obtain ⟨r, hr⟩ := Option.isSome_iff_exists.1 (isSome_record_obj.2
        ⟨htext, List.forall_mem_map.2 honce⟩)
      obtain ⟨hpositional, hvalue⟩ := value_of_record_obj hr
      refine ⟨r, hr, Record.fieldsFit_iff.2 fun i field hi ↦ ?_⟩
      have hunique := hvalue i field.1 (by rw [List.getElem?_map, hi]; rfl)
      rw [Nat.zero_add, Record.FieldFits]
      split
      · rename_i v hv
        -- What is found is a member of the object, the only one of its name.
        exact h field (List.mem_of_getElem? hi) v ((mem_iff_of_uniqueMember hunique v).2 hv)
      · rw [hpositional]
        exact fun hfalse ↦ by cases hfalse
  · rintro ⟨r, hr, hfits⟩
    obtain ⟨htext, honce⟩ := isSome_record_obj.1 (Option.isSome_iff_exists.2 ⟨r, hr⟩)
    obtain ⟨-, hvalue⟩ := value_of_record_obj hr
    refine .object htext (List.forall_mem_map.1 honce) fun field hfield v hv ↦ ?_
    obtain ⟨i, hi⟩ := List.getElem?_of_mem hfield
    have hunique := hvalue i field.1 (by rw [List.getElem?_map, hi]; rfl)
    have hfit := Record.fieldsFit_iff.1 hfits i field hi
    rw [Nat.zero_add, Record.FieldFits, (mem_iff_of_uniqueMember hunique v).1 hv] at hfit
    exact hfit

/-- What an array has of the fields fits if the array does. -/
theorem fits_arr_iff {vs : List Value} :
    (Shape.record fields).Fits (room + 1) (.arr vs) ↔
      ∃ r, record (fields.map (·.1)) (.arr vs) = some r ∧ r.FieldsFit room 0 fields := by
  constructor
  · intro hfits
    cases hfits with
    | array hlength hstop h =>
      obtain ⟨r, hr⟩ : ∃ r, record (fields.map (·.1)) (.arr vs) = some r := by
        rw [record, List.length_map, if_pos hlength]
        exact ⟨_, rfl⟩
      obtain ⟨-, -, hvalue⟩ := value_of_record_arr hr
      refine ⟨r, hr, Record.fieldsFit_iff.2 fun i field hi ↦ ?_⟩
      rw [Nat.zero_add, Record.FieldFits, hvalue]
      split
      · rename_i v hv
        exact h (field, v) (List.mem_of_getElem? (List.getElem?_zip_eq_some.2 ⟨hi, hv⟩))
      -- The array stops before this field, which it may.
      · rename_i hnone
        have hle : vs.length ≤ i := List.getElem?_eq_none_iff.1 hnone
        refine fun _ ↦ hstop field (List.mem_of_getElem? (i := i - vs.length) ?_)
        rw [List.getElem?_drop, Nat.add_sub_cancel' hle, hi]
  · rintro ⟨r, hr, hfits⟩
    obtain ⟨hlength, hpositional, hvalue⟩ := value_of_record_arr hr
    rw [List.length_map] at hlength
    have hfield : ∀ (i : Nat) (field : String × Shape × Bool), fields[i]? = some field →
        match vs[i]? with
        | some v => field.2.1.Fits room v
        | none => field.2.2 = true := by
      intro i field hi
      have hfit := Record.fieldsFit_iff.1 hfits i field hi
      rw [Nat.zero_add, Record.FieldFits, hvalue, hpositional] at hfit
      cases hv : vs[i]? with
      | some v => rwa [hv] at hfit
      | none =>
        rw [hv] at hfit
        exact hfit rfl
    refine .array hlength (fun field hmem ↦ ?_) fun p hmem ↦ ?_
    · obtain ⟨i, hi⟩ := List.getElem?_of_mem hmem
      rw [List.getElem?_drop] at hi
      have hfit := hfield _ field hi
      rwa [List.getElem?_eq_none (Nat.le_add_right vs.length i)] at hfit
    · obtain ⟨i, hi⟩ := List.getElem?_of_mem hmem
      obtain ⟨hi, hv⟩ := List.getElem?_zip_eq_some.1 hi
      have hfit := hfield i p.1 hi
      rwa [hv] at hfit

/-- **A decoder of a record takes the record's shape**, if it takes what the record has of each
field. -/
theorem takes_ofRecord {names : List String} {f : Nat → Record → Option α}
    (hnames : names = fields.map (·.1))
    (h : ∀ room r, (f room r).isSome = true ↔ r.FieldsFit room 0 fields) :
    (ofRecord names f).Takes (.record fields) := by
  subst hnames
  intro room v
  cases room with
  -- Without room nothing is a record, for the decoder and for the shape.
  | zero =>
    refine ⟨fun hsome ↦ ?_, fun hfits ↦ ?_⟩
    · cases hsome
    · cases hfits
  | succ room =>
    -- What is left to show is of the shape only: how the fields are found does not depend on `f`.
    have hread : (ofRecord (fields.map (·.1)) f (room + 1) v).isSome = true ↔
        ∃ r, record (fields.map (·.1)) v = some r ∧ r.FieldsFit room 0 fields := by
      show ((record (fields.map (·.1)) v).bind (f room)).isSome = true ↔ _
      cases record (fields.map (·.1)) v with
      | none => simp
      | some r => simp [h]
    rw [hread]
    cases v with
    | obj ms => exact fits_obj_iff.symm
    | arr vs => exact fits_arr_iff.symm
    | _ =>
      refine ⟨fun hsome ↦ ?_, fun hfits ↦ ?_⟩
      · obtain ⟨r, hr, -⟩ := hsome
        cases hr
      · cases hfits

/-! ### Documents -/

/-- A text that is JSON denotes what the decoder makes of its value. -/
theorem Document.parse_eq_ok_iff {d : Document α} {text : String} {v : Value}
    (hread : Json.parse text = .ok v) {a : α} :
    d.parse text = .ok a ↔ d.decoder maxDepth v = some a := by
  have hparse : d.decoder.parse text = d.decoder.run v := by
    rw [Decoder.parse, hread]
    rfl
  rw [Document.parse, hparse, Decoder.run]
  cases d.decoder maxDepth v with
  | none => simp
  | some b => simp

end AuditFeed.Json
