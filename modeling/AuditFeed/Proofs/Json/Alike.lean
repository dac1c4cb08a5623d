import AuditFeed.Proofs.Json.Shape

/-!
# Numbers in the place of their numerals

Two values are alike under a shape if they differ in numbers for their decimal numerals alone, and
only where the shape asks for nothing but what can be held (`Json.Shape.Alike`). A decoder respects
a shape if it cannot tell such values apart (`Json.Decoder.Respects`).

## Putting decoders together

As with the values that a decoder takes, there is one rule for each way in which decoders are put
together, so that only the decoders at the leaves have to be looked at. A shape says where a number
may stand for a text; everywhere else alike values are the same, and a decoder of strings has
nothing to respect.

## Records

A record is taken out of an object by the names of its members, and out of an array by position. In
both cases alike values are no records, or alike ones (`Json.rel_record`), which is stated with the
relation of options: the two sides are read or not together. What no field asks for may differ in
any way.

## One place at a time

Values that differ in one place are alike if what stands there is (`Json.Shape.Alike.item`,
`Json.Shape.Alike.member`). That is how concrete texts are compared.

## Main statements

* `Json.rel_record`: records of alike values.
* `Json.respects_ofRecord`: a decoder of a record respects its shape.
-/

namespace AuditFeed.Json

variable {α : Type}

/-- Is this an integer of 64 bits, with a sign or without one? -/
def IsWordSized (n : Int) : Prop :=
  -(Word.limit63 : Int) ≤ n ∧ n < Word.limit64

instance (n : Int) : Decidable (IsWordSized n) :=
  inferInstanceAs (Decidable (_ ∧ _))

/-- Do two values differ in numbers for their numerals alone, where a shape asks for what can be
held? What no field of a record asks for may differ in any way. -/
inductive Shape.Alike : Shape → Value → Value → Prop
  | refl {shape : Shape} {v : Value} : Alike shape v v
  /-- A number for its numeral. -/
  | number {n : Int} (hn : IsWordSized n) : Alike .held (.text (Decimal.text n)) (.int n)
  /-- The numeral for its number. -/
  | numeral {n : Int} (hn : IsWordSized n) : Alike .held (.int n) (.text (Decimal.text n))
  | orNull {shape : Shape} {v w : Value} (h : Alike shape v w) : Alike (.orNull shape) v w
  /-- Arrays are alike item by item. -/
  | list {item : Shape} {vs ws : List Value} (hlength : vs.length = ws.length)
      (h : ∀ p ∈ vs.zip ws, Alike item p.1 p.2) : Alike (.list item) (.arr vs) (.arr ws)
  /-- Objects have the same names in the same order, and are alike in the fields. -/
  | object {fields : List (String × Shape × Bool)} {ms ns : List (Option String × Value)}
      (hlength : ms.length = ns.length) (hnames : ∀ p ∈ ms.zip ns, p.1.1 = p.2.1)
      (h : ∀ field ∈ fields, ∀ p ∈ ms.zip ns, p.1.1 = some field.1 →
        Alike field.2.1 p.1.2 p.2.2) : Alike (.record fields) (.obj ms) (.obj ns)
  /-- Arrays in the place of objects are alike by position. -/
  | array {fields : List (String × Shape × Bool)} {vs ws : List Value}
      (hlength : vs.length = ws.length)
      (h : ∀ p ∈ fields.zip (vs.zip ws), Alike p.1.2.1 p.2.1 p.2.2) :
      Alike (.record fields) (.arr vs) (.arr ws)

/-- Does a decoder make the same of values that are alike under a shape? -/
def Decoder.Respects (d : Decoder α) (shape : Shape) : Prop :=
  ∀ room v w, shape.Alike v w → d room v = d room w

/-! ### One place at a time -/

/-- Two lists that differ at one place agree at all others. -/
theorem mem_zip_insert {β : Type} {before after : List β} {x y : β} {p : β × β}
    (h : p ∈ (before ++ x :: after).zip (before ++ y :: after)) : p.1 = p.2 ∨ p = (x, y) := by
  have hsame : ∀ l : List β, p ∈ l.zip l → p.1 = p.2 := fun l ↦
    (List.forall₂_iff_zip.1 (List.forall₂_same.2 fun _ _ ↦ rfl)).2
  rw [List.zip_append rfl, List.zip_cons_cons, List.mem_append, List.mem_cons] at h
  rcases h with h | h | h
  · exact .inl (hsame _ h)
  · exact .inr h
  · exact .inl (hsame _ h)

/-- Arrays are alike if they differ in one item, and that is alike. -/
theorem Shape.Alike.item {item : Shape} {v w : Value} (h : item.Alike v w)
    (before after : List Value) :
    (Shape.list item).Alike (.arr (before ++ v :: after)) (.arr (before ++ w :: after)) := by
  refine .list (by simp) fun p hp ↦ ?_
  rcases mem_zip_insert hp with hsame | rfl
  · rw [hsame]
    exact .refl
  · exact h

/-- Objects are alike if they differ in one field, and that is alike. -/
theorem Shape.Alike.member {fields : List (String × Shape × Bool)}
    (field : String × Shape × Bool) {v w : Value} (h : field.2.1.Alike v w)
    (honce : ∀ other ∈ fields, other.1 = field.1 → other = field)
    (before after : List (Option String × Value)) :
    (Shape.record fields).Alike (.obj (before ++ (some field.1, v) :: after))
      (.obj (before ++ (some field.1, w) :: after)) := by
  refine .object (by simp) (fun p hp ↦ ?_) fun other hother p hp hname ↦ ?_
  · rcases mem_zip_insert hp with hsame | rfl
    · rw [hsame]
    · rfl
  · rcases mem_zip_insert hp with hsame | rfl
    · rw [hsame]
      exact .refl
    · rw [honce other hother (Option.some.inj hname).symm]
      exact h

/-! ### Leaves -/

/-- Where a string is asked for, only the same value is alike. -/
theorem Decoder.respects_string (d : Decoder α) : d.Respects .string := by
  intro room v w h
  cases h
  rfl

/-! ### Options and lists -/

/-- Nothing is alike to null but null. -/
theorem Shape.Alike.eq_null_iff {shape : Shape} {v w : Value} (h : shape.Alike v w) :
    v = .null ↔ w = .null := by
  induction h with
  | refl => rfl
  | orNull _ ih => exact ih
  | _ => exact iff_of_false nofun nofun

section

variable {d : Decoder α} {shape : Shape}

/-- A decoder that respects a shape respects it where null may stand too. -/
theorem Decoder.Respects.orNull (h : d.Respects shape) : d.Respects (.orNull shape) := by
  intro room v w hvw
  cases hvw with
  | refl => rfl
  | orNull hvw => exact h room v w hvw

theorem orDefault_of_ne_null (a : α) (room : Nat) {v : Value} (hv : v ≠ .null) :
    orDefault d a room v = d room v := by
  rw [orDefault.eq_def]
  split
  · exact absurd rfl hv
  · rfl

theorem Decoder.Respects.orDefault (h : d.Respects shape) (a : α) :
    (orDefault d a).Respects shape := by
  intro room v w hvw
  by_cases hv : v = .null
  · rw [hv, hvw.eq_null_iff.1 hv]
  · rw [orDefault_of_ne_null a room hv,
      orDefault_of_ne_null a room (mt hvw.eq_null_iff.2 hv), h room v w hvw]

theorem Decoder.Respects.option (h : d.Respects shape) : (option d).Respects shape := by
  intro room v w hvw
  have hoption : ∀ v : Value,
      Json.option d room v = Json.orDefault (mapped some d) none room v := by
    intro v
    rw [Json.option.eq_def, Json.orDefault.eq_def]
    rfl
  have hsome : (mapped some d).Respects shape := fun room v w hvw ↦
    congrArg (Option.map some) (h room v w hvw)
  rw [hoption, hoption]
  exact hsome.orDefault none room v w hvw

/-- A decoder of a list respects its shape if the one of the items does. -/
theorem Decoder.Respects.list (h : d.Respects shape) : (list d).Respects (.list shape) := by
  intro room v w hvw
  cases hvw with
  | refl => rfl
  | @list _ vs ws hlength hitems =>
    cases room with
    | zero => rfl
    | succ room =>
      show vs.mapM (d room) = ws.mapM (d room)
      induction vs generalizing ws with
      | nil => rw [List.length_eq_zero_iff.1 hlength.symm]
      | cons v vs ih =>
        obtain ⟨w, ws, rfl⟩ := List.exists_cons_of_length_eq_add_one hlength.symm
        have hfirst : d room v = d room w := h room v w (hitems (v, w) List.mem_cons_self)
        rw [List.mapM_cons, List.mapM_cons, hfirst, ih (Nat.succ.inj hlength)
          fun p hp ↦ hitems p (List.mem_cons_of_mem _ hp)]

end

/-! ### Records -/

variable {fields : List (String × Shape × Bool)}

/-- Do two records have the same fields, and alike values of them? -/
structure Record.Alike (fields : List (String × Shape × Bool)) (r s : Record) : Prop where
  positional : r.positional = s.positional
  value : ∀ i field, fields[i]? = some field → Option.Rel field.2.1.Alike (r.value i) (s.value i)

/-- Are two members of the same name, and related if it is this one? -/
structure MatchesAt (R : Value → Value → Prop) (name : String) (m n : Option String × Value) :
    Prop where
  name_eq : m.1 = n.1
  rel : m.1 = some name → R m.2 n.2

/-- What an object has of a name is related to what another one has, if their members match. -/
theorem rel_uniqueMember {R : Value → Value → Prop} {name : String}
    {ms ns : List (Option String × Value)} (h : List.Forall₂ (MatchesAt R name) ms ns) :
    Option.Rel (Option.Rel R) (uniqueMember name ms) (uniqueMember name ns) := by
  have hfound : List.Forall₂ (MatchesAt R name) (ms.filter (·.1 == some name))
      (ns.filter (·.1 == some name)) := by
    refine List.rel_filter (fun m n hmn ↦ ?_) h
    show (m.1 == some name) = true ↔ (n.1 == some name) = true
    rw [hmn.name_eq]
  have hname : ∀ m ∈ ms.filter (·.1 == some name), m.1 = some name :=
    fun m hm ↦ beq_iff_eq.1 (List.mem_filter.1 hm).2
  rw [uniqueMember, uniqueMember]
  -- Only the members of the name are looked at, and of those there are equally many.
  generalize ms.filter (·.1 == some name) = found, ns.filter (·.1 == some name) = found' at *
  cases hfound with
  | nil => exact .some .none
  | @cons m n _ _ hmn hrest =>
    cases hrest with
    | nil => exact .some (.some (hmn.rel (hname m List.mem_cons_self)))
    | cons => exact .none

theorem isSome_eq_of_rel {β γ : Type} {R : β → γ → Prop} {x : Option β} {y : Option γ}
    (h : Option.Rel R x y) : x.isSome = y.isSome := by
  cases h <;> rfl

/-- Objects that are alike are no records, or alike ones. -/
theorem rel_record_obj {ms ns : List (Option String × Value)} (hlength : ms.length = ns.length)
    (hnames : ∀ p ∈ ms.zip ns, p.1.1 = p.2.1)
    (h : ∀ field ∈ fields, ∀ p ∈ ms.zip ns, p.1.1 = some field.1 →
      field.2.1.Alike p.1.2 p.2.2) :
    Option.Rel (Record.Alike fields) (record (fields.map (·.1)) (.obj ms))
      (record (fields.map (·.1)) (.obj ns)) := by
  have hmember : ∀ field ∈ fields, Option.Rel (Option.Rel field.2.1.Alike)
      (uniqueMember field.1 ms) (uniqueMember field.1 ns) := fun field hfield ↦
    rel_uniqueMember (List.forall₂_iff_zip.2 ⟨hlength, fun hmem ↦
      ⟨hnames _ hmem, h field hfield _ hmem⟩⟩)
  have hsame : ms.map Prod.fst = ns.map Prod.fst := by
    rw [← List.forall₂_eq_eq_eq, List.forall₂_map_left_iff, List.forall₂_map_right_iff]
    exact List.forall₂_iff_zip.2 ⟨hlength, fun hmem ↦ hnames _ hmem⟩
  have htexts : ∀ l : List (Option String × Value),
      (∀ m ∈ l, m.1.isSome = true) ↔ ∀ name ∈ l.map Prod.fst, name.isSome = true :=
    fun l ↦ by simp only [List.forall_mem_map]
  have htext : (∀ m ∈ ms, m.1.isSome = true) ↔ ∀ n ∈ ns, n.1.isSome = true := by
    rw [htexts, htexts, hsame]
  have hsome : (record (fields.map (·.1)) (.obj ms)).isSome =
      (record (fields.map (·.1)) (.obj ns)).isSome := by
    rw [Bool.eq_iff_iff, isSome_record_obj, isSome_record_obj]
    simp only [← isSome_uniqueMember, List.forall_mem_map]
    exact and_congr htext (forall₂_congr fun field hfield ↦ by
      rw [isSome_eq_of_rel (hmember field hfield)])
  cases hr : record (fields.map (·.1)) (.obj ms) <;>
    cases hs : record (fields.map (·.1)) (.obj ns)
  case none.none => exact .none
  case some.some r s =>
    obtain ⟨hpositional, hvalue⟩ := value_of_record_obj hr
    obtain ⟨hpositional', hvalue'⟩ := value_of_record_obj hs
    refine .some ⟨hpositional.trans hpositional'.symm, fun i field hi ↦ ?_⟩
    have hname : (fields.map (·.1))[i]? = some field.1 := by rw [List.getElem?_map, hi]; rfl
    have hrel := hmember field (List.mem_of_getElem? hi)
    rw [hvalue i _ hname, hvalue' i _ hname] at hrel
    cases hrel with
    | some hrel => exact hrel
  all_goals
    rw [hr, hs] at hsome
    cases hsome

/-- An array is a record if it is not too long. -/
theorem isSome_record_arr {names : List String} {vs : List Value} :
    (record names (.arr vs)).isSome = decide (vs.length ≤ names.length) := by
  rw [record]
  split
  · rename_i h
    exact (decide_eq_true h).symm
  · rename_i h
    exact (decide_eq_false h).symm

/-- Arrays that are alike are no records, or alike ones. -/
theorem rel_record_arr {vs ws : List Value} (hlength : vs.length = ws.length)
    (h : ∀ p ∈ fields.zip (vs.zip ws), p.1.2.1.Alike p.2.1 p.2.2) :
    Option.Rel (Record.Alike fields) (record (fields.map (·.1)) (.arr vs))
      (record (fields.map (·.1)) (.arr ws)) := by
  have hsome : (record (fields.map (·.1)) (.arr vs)).isSome =
      (record (fields.map (·.1)) (.arr ws)).isSome := by
    rw [isSome_record_arr, isSome_record_arr, hlength]
  cases hr : record (fields.map (·.1)) (.arr vs) <;>
    cases hs : record (fields.map (·.1)) (.arr ws)
  case none.none => exact .none
  case some.some r s =>
    obtain ⟨-, hpositional, hvalue⟩ := value_of_record_arr hr
    obtain ⟨-, hpositional', hvalue'⟩ := value_of_record_arr hs
    refine .some ⟨hpositional.trans hpositional'.symm, fun i field hi ↦ ?_⟩
    rw [hvalue, hvalue']
    by_cases hlt : i < vs.length
    · have hlt' : i < ws.length := hlength ▸ hlt
      rw [List.getElem?_eq_getElem hlt, List.getElem?_eq_getElem hlt']
      refine .some (h (field, vs[i], ws[i]) (List.mem_of_getElem? (i := i) ?_))
      rw [List.getElem?_zip_eq_some, List.getElem?_zip_eq_some]
      exact ⟨hi, List.getElem?_eq_getElem hlt, List.getElem?_eq_getElem hlt'⟩
    · rw [List.getElem?_eq_none (Nat.not_lt.1 hlt),
        List.getElem?_eq_none (hlength ▸ Nat.not_lt.1 hlt)]
      exact .none
  all_goals
    rw [hr, hs] at hsome
    cases hsome

/-- Values that are alike under the shape of a record are no records, or alike ones. -/
theorem rel_record {v w : Value} (h : (Shape.record fields).Alike v w) :
    Option.Rel (Record.Alike fields) (record (fields.map (·.1)) v)
      (record (fields.map (·.1)) w) := by
  cases h with
  | refl =>
    cases record (fields.map (·.1)) v with
    | none => exact .none
    | some r =>
      refine .some ⟨rfl, fun i field _ ↦ ?_⟩
      cases r.value i with
      | none => exact .none
      | some v => exact .some .refl
  | object hlength hnames h => exact rel_record_obj hlength hnames h
  | array hlength h => exact rel_record_arr hlength h

section

variable {r s : Record} {room : Nat} {field : String × Shape × Bool} {d : Decoder α}

/-- A field with a default is read the same of alike records. -/
theorem Record.Alike.defaulted_eq (h : Record.Alike fields r s) (i : Nat)
    (hi : fields[i]? = some field) (hd : d.Respects field.2.1) (a : α) :
    r.defaulted room i d a = s.defaulted room i d a := by
  have hvalue := h.value i field hi
  rw [Record.defaulted, Record.defaulted]
  generalize r.value i = v, s.value i = w at hvalue
  cases hvalue with
  | none => rfl
  | some hvw => exact hd room _ _ hvw

/-- So is one that may be missing. -/
theorem Record.Alike.optional_eq (h : Record.Alike fields r s) (i : Nat)
    (hi : fields[i]? = some field) (hd : d.Respects field.2.1) :
    r.optional room i d = s.optional room i d := by
  have hvalue := h.value i field hi
  rw [Record.optional, Record.optional, h.positional]
  generalize r.value i = v, s.value i = w at hvalue
  cases hvalue with
  | none => rfl
  | some hvw => exact hd.option room _ _ hvw

/-- **A decoder of a record respects the record's shape**, if it cannot tell alike records apart. -/
theorem respects_ofRecord {names : List String} {f : Nat → Record → Option α}
    (hnames : names = fields.map (·.1))
    (h : ∀ room r s, Record.Alike fields r s → f room r = f room s) :
    (ofRecord names f).Respects (.record fields) := by
  subst hnames
  intro room v w hvw
  cases room with
  | zero => rfl
  | succ room =>
    show (record _ v).bind (f room) = (record _ w).bind (f room)
    have hrecord := rel_record hvw
    generalize record (fields.map (·.1)) v = x, record (fields.map (·.1)) w = y at hrecord
    cases hrecord with
    | none => rfl
    | some hrs => exact h room _ _ hrs

end

end AuditFeed.Json
