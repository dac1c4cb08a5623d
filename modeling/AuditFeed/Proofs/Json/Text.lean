import AuditFeed.Json.Printer
import AuditFeed.Json.Reader
import AuditFeed.Proofs.Decimal.Digits
import AuditFeed.Proofs.Text.Utf8

/-!
# JSON reads back what it writes

The compact text of a value is read as that value (`Json.parse_print`). Cursors, events, claims and
keys are written and read back in this way.

## Strings

A string is written character by character, in escapes where it has to be, and each of these is read
as its character (`Json.readPieces_escapeChar`). A string that denotes no text is no exception,
since it is written as the escape that denotes none.

## Numbers

The reader does not know where a number ends before it sees what follows, so the statement is about
a value in front of a rest that ends it (`Json.EndsValue`). Only numbers as the program writes them
are considered, which are integers (`Json.Value.IsPlain`).

## Values

The reader works with fuel, and as much of it as the text is long is enough, since no value is
written as nothing. The proof is by recursion on the value, together for values, items and members,
and each step of the reader has its own lemma, in which the results for the parts are hypotheses
(`Json.readItems_more` and so on).

## Main statements

* `Json.readText_quote`: a quoted string is read as itself.
* `Json.readValue_chars`: a plain value is read back, whatever ends it.
* `Json.parse_print`, `Json.parseBytes_utf8_chars`: from a text, and from its bytes.
-/

namespace AuditFeed.Json

open Text

/-! ### Strings -/

theorem hexValue?_hexDigit : ∀ n < 16, hexValue? (hexDigit n) = some n := by
  decide

/-- The escape of a control character is read as it. -/
theorem ofHex?_control {c : Char} (h : c.toNat < 0x20) :
    Piece.ofHex? '0' '0' (hexDigit (c.toNat / 16)) (hexDigit (c.toNat % 16)) = some (.char c) := by
  have hhigh := hexValue?_hexDigit (c.toNat / 16) (by omega)
  have hlow := hexValue?_hexDigit (c.toNat % 16) (by omega)
  have hn : c.toNat / 16 * 16 + c.toNat % 16 = c.toNat := by omega
  have hzero : hexValue? '0' = some 0 := rfl
  have hhalf : ¬ (0xD800 ≤ c.toNat ∧ c.toNat < 0xE000) := by omega
  simp [Piece.ofHex?, hhigh, hlow, hzero, hn, hhalf]

/-- **An escaped character is read as itself.** -/
theorem readPieces_escapeChar (c : Char) (s : List Char) :
    readPieces (escapeChar c ++ s) = Piece.before (some (.char c)) (readPieces s) := by
  unfold escapeChar
  split
  · subst_vars
    rfl
  split
  · subst_vars
    rfl
  split
  · subst_vars
    rfl
  split
  · subst_vars
    rfl
  split
  · subst_vars
    rfl
  split
  · subst_vars
    rfl
  split
  · subst_vars
    rfl
  split
  · rename_i h
    simp only [List.cons_append, List.nil_append]
    rw [readPieces, ofHex?_control h]
  · rename_i hquote hslash _ _ _ _ _ h
    rw [List.singleton_append, readPieces, if_neg h]
    all_goals simp_all

/-- An escaped text is read as its characters, up to the quote that ends it. -/
theorem readPieces_flatMap_escapeChar (s rest : List Char) :
    readPieces (s.flatMap escapeChar ++ '"' :: rest) = .ok (s.map .char, rest) := by
  induction s with
  | nil => rfl
  | cons c s ih =>
    rw [List.flatMap_cons, List.append_assoc, readPieces_escapeChar, ih]
    rfl

theorem joinPieces_map_char (s : List Char) : joinPieces (s.map .char) = some s := by
  induction s with
  | nil => rfl
  | cons c s ih => rw [List.map_cons, joinPieces, ih, Option.map_some]

/-- **A quoted string is read as itself**, after its opening quote. -/
theorem readText_quote (s : String) (rest : List Char) :
    ∃ t, quote s = '"' :: t ∧ readText (t ++ rest) = .ok (some s, rest) := by
  refine ⟨_, List.cons_append, ?_⟩
  rw [readText, List.append_assoc, List.singleton_append, readPieces_flatMap_escapeChar]
  simp [bind, Except.bind, pure, Except.pure, joinPieces_map_char]

/-- So is a string that may denote no text. -/
theorem readText_quoteOrLone (s : Option String) (rest : List Char) :
    ∃ t, quoteOrLone s = '"' :: t ∧ readText (t ++ rest) = .ok (s, rest) := by
  rcases s with - | s
  · exact ⟨_, rfl, rfl⟩
  · exact readText_quote s rest

/-! ### Numbers -/

/-- What may follow a value in a compact text: nothing, a comma or a closing bracket. None of these
goes on with a number. -/
def EndsValue : List Char → Prop
  | [] => True
  | c :: _ => c = ',' ∨ c = ']' ∨ c = '\x7d'

/-- What ends a value does not go on with its digits. -/
theorem EndsValue.isDigit_head? {rest : List Char} (h : EndsValue rest) :
    ∀ c ∈ rest.head?, isDigit c = false := by
  rcases rest with - | ⟨d, rest⟩
  · rintro c ⟨⟩
  · rintro c ⟨⟩
    rcases h with rfl | rfl | rfl <;> rfl

/-- Digits are read to their end. -/
theorem readDigits_append {ds rest : List Char} (hne : ds ≠ []) (hds : ∀ c ∈ ds, isDigit c = true)
    (hrest : EndsValue rest) : readDigits (ds ++ rest) = .ok (ds, rest) := by
  rw [readDigits, Decimal.takeWhile_isDigit_append hds hrest.isDigit_head?]
  obtain ⟨d, ds, rfl⟩ := List.exists_cons_of_ne_nil hne
  simp

/-- No fraction follows. -/
theorem readFraction_of_ends {rest : List Char} (h : EndsValue rest) :
    readFraction rest = .ok ([], rest) := by
  rcases rest with - | ⟨c, rest⟩
  · rfl
  · rcases h with rfl | rfl | rfl <;> rfl

/-- Nor does an exponent. -/
theorem readExponent_of_ends {rest : List Char} (h : EndsValue rest) :
    readExponent rest = .ok (none, rest) := by
  rcases rest with - | ⟨c, rest⟩
  · rfl
  · rcases h with rfl | rfl | rfl <;> rfl

/-- **The digits of a number are read as that number.** -/
theorem readNumeral_digits (negative : Bool) (n : Nat) {rest : List Char} (h : EndsValue rest) :
    readNumeral negative (Decimal.digits n ++ rest) =
      .ok (⟨negative, Decimal.digits n, [], none⟩, rest) := by
  have hdigits := readDigits_append (Decimal.digits_ne_nil n)
    (fun _ hc ↦ Decimal.isDigit_of_mem_digits hc) h
  have hzero : ¬ ((Decimal.digits n).head? = some '0' ∧ (Decimal.digits n).length ≠ 1) :=
    fun ⟨hhead, hlen⟩ ↦ hlen (Decimal.length_digits_of_head? hhead)
  have hwhole : readWhole (Decimal.digits n ++ rest) = .ok (Decimal.digits n, rest) := by
    rw [readWhole, hdigits]
    exact if_neg hzero
  rw [readNumeral, hwhole]
  simp only [bind, Except.bind, pure, Except.pure, readFraction_of_ends h, readExponent_of_ends h]

/-! ### Values -/

mutual

/-- Are the numbers of a value integers as the program writes them? -/
def Value.IsPlain : Value → Prop
  | .num n => ∃ k : Int, n = ⟨k < 0, Decimal.digits k.natAbs, [], none⟩
  | .arr vs => ItemsPlain vs
  | .obj ms => MembersPlain ms
  | _ => True

/-- Are all these values plain? -/
def ItemsPlain : List Value → Prop
  | [] => True
  | v :: vs => v.IsPlain ∧ ItemsPlain vs

/-- Are the values of all these members plain? -/
def MembersPlain : List (Option String × Value) → Prop
  | [] => True
  | (_, v) :: ms => v.IsPlain ∧ MembersPlain ms

end

theorem isPlain_int (k : Int) : (Value.int k).IsPlain := ⟨k, rfl⟩

theorem isGap_of_isDigit {c : Char} (h : isDigit c = true) : isGap c = false := by
  rw [isGap]
  simp only [Bool.or_eq_false_iff, beq_eq_false_iff_ne]
  refine ⟨⟨⟨?_, ?_⟩, ?_⟩, ?_⟩ <;> (rintro rfl; exact absurd h (by decide))

/-- An integer is written as its numeral. -/
theorem chars_int (k : Int) :
    (⟨k < 0, Decimal.digits k.natAbs, [], none⟩ : Numeral).chars = Decimal.numeral k := by
  by_cases h : k < 0 <;> simp [Numeral.chars, Decimal.numeral, h]

/-- A numeral starts with a digit or a minus. -/
theorem numeral_eq_cons (k : Int) :
    ∃ c t, Decimal.numeral k = c :: t ∧ (isDigit c = true ∨ c = '-') := by
  rw [Decimal.numeral]
  split
  · exact ⟨_, _, rfl, .inr rfl⟩
  · obtain ⟨d, ds, hd⟩ := List.exists_cons_of_ne_nil (Decimal.digits_ne_nil k.natAbs)
    exact ⟨d, ds, hd, .inl (Decimal.isDigit_of_mem_digits (hd ▸ List.mem_cons_self))⟩

/-- The text of a plain value starts with something that is neither a blank nor the end of an
array. -/
theorem chars_eq_cons {v : Value} (h : v.IsPlain) :
    ∃ c t, v.chars = c :: t ∧ isGap c = false ∧ c ≠ ']' := by
  match v with
  | .null => exact ⟨_, _, by rw [Value.chars], rfl, by decide⟩
  | .bool true => exact ⟨_, _, by rw [Value.chars], rfl, by decide⟩
  | .bool false => exact ⟨_, _, by rw [Value.chars], rfl, by decide⟩
  | .num n =>
    obtain ⟨k, rfl⟩ := h
    obtain ⟨c, t, ht, hc⟩ := numeral_eq_cons k
    refine ⟨c, t, by rw [Value.chars, chars_int, ht], ?_, ?_⟩
    · rcases hc with hc | rfl
      · exact isGap_of_isDigit hc
      · rfl
    · rintro rfl
      exact absurd hc (by decide)
  | .str s =>
    obtain ⟨t, ht, -⟩ := readText_quoteOrLone s []
    exact ⟨_, _, by rw [Value.chars, ht], rfl, by decide⟩
  | .arr vs => exact ⟨_, _, by rw [Value.chars]; rfl, rfl, by decide⟩
  | .obj ms => exact ⟨_, _, by rw [Value.chars]; rfl, rfl, by decide⟩

/-- No value is written as nothing. -/
theorem length_chars_pos {v : Value} (h : v.IsPlain) : 0 < v.chars.length := by
  obtain ⟨c, t, ht, -⟩ := chars_eq_cons h
  rw [ht]
  exact Nat.succ_pos _

theorem skipGap_of_not_gap {c : Char} (h : isGap c = false) (s : List Char) :
    skipGap (c :: s) = c :: s := by
  rw [skipGap, List.dropWhile_cons_of_neg (by simp [h])]

/-- There are no blanks in front of a value. -/
theorem skipGap_chars {v : Value} (h : v.IsPlain) (rest : List Char) :
    skipGap (v.chars ++ rest) = v.chars ++ rest := by
  obtain ⟨c, t, ht, hc, -⟩ := chars_eq_cons h
  rw [ht, List.cons_append, skipGap_of_not_gap hc]

/-- Items have commas between them. -/
theorem itemsChars_cons_cons (v w : Value) (ws : List Value) :
    itemsChars (v :: w :: ws) = v.chars ++ ',' :: itemsChars (w :: ws) := by
  simp [itemsChars]

/-- Members have commas between them, and colons inside. -/
theorem membersChars_cons_cons (k : Option String) (v : Value) (m : Option String × Value)
    (ms : List (Option String × Value)) :
    membersChars ((k, v) :: m :: ms) = quoteOrLone k ++ ':' :: v.chars ++ ',' ::
      membersChars (m :: ms) := by
  simp [membersChars]

theorem itemsChars_eq_append (v : Value) (vs : List Value) :
    ∃ t, itemsChars (v :: vs) = v.chars ++ t := by
  rcases vs with - | ⟨w, ws⟩
  · exact ⟨[], by rw [itemsChars, List.append_nil]⟩
  · exact ⟨',' :: itemsChars (w :: ws), itemsChars_cons_cons v w ws⟩

theorem membersChars_eq_cons (m : Option String × Value) (ms : List (Option String × Value)) :
    ∃ t, membersChars (m :: ms) = '"' :: t := by
  obtain ⟨k, v⟩ := m
  obtain ⟨t, ht, -⟩ := readText_quoteOrLone k []
  rcases ms with - | ⟨n, ns⟩
  · exact ⟨_, by rw [membersChars, ht]; rfl⟩
  · exact ⟨_, by rw [membersChars_cons_cons, ht]; rfl⟩

/-- Reading digits is the last resort of the reader of values. -/
theorem readValue_of_isDigit {c : Char} (h : isDigit c = true) (fuel : Nat) (s : List Char) :
    readValue (fuel + 1) (c :: s) =
      (readNumeral false (c :: s)).map fun (n, rest) ↦ (.num n, rest) := by
  rw [readValue]
  all_goals
    intro _ heq
    injection heq with hc
    subst hc
    exact absurd h (by decide)

/-- An integer is read to its end. -/
theorem readValue_numeral (k : Int) (fuel : Nat) {rest : List Char} (h : EndsValue rest) :
    readValue (fuel + 1) (Decimal.numeral k ++ rest) =
      .ok (.num ⟨k < 0, Decimal.digits k.natAbs, [], none⟩, rest) := by
  by_cases hk : k < 0
  · rw [Decimal.numeral, if_pos hk, List.cons_append, readValue, readNumeral_digits true _ h]
    simp [Except.map, hk]
  · obtain ⟨d, ds, hd⟩ := List.exists_cons_of_ne_nil (Decimal.digits_ne_nil k.natAbs)
    have hdigit : isDigit d = true := Decimal.isDigit_of_mem_digits (hd ▸ List.mem_cons_self)
    rw [Decimal.numeral, if_neg hk, hd, List.cons_append, readValue_of_isDigit hdigit,
      ← List.cons_append, ← hd, readNumeral_digits false _ h]
    simp [Except.map, hk]

/-! ### One step of the reader -/

section Steps

variable {fuel : Nat} {s t u rest : List Char} {v : Value} {k : Option String}

/-- An array that is not empty is read by its items. -/
theorem readValue_array {c : Char} (hgap : isGap c = false) (hc : c ≠ ']') :
    readValue (fuel + 1) ('[' :: c :: s) =
      (readItems fuel (c :: s)).map fun (vs, rest) ↦ (.arr vs, rest) := by
  rw [readValue, skipGap_of_not_gap hgap]
  split
  · rename_i heq
    exact absurd (List.cons.inj heq).1 hc
  · rfl

/-- An object that is not empty is read by its members. -/
theorem readValue_object :
    readValue (fuel + 1) ('\x7b' :: '"' :: s) =
      (readMembers fuel ('"' :: s)).map fun (ms, rest) ↦ (.obj ms, rest) := by
  rw [readValue, skipGap_of_not_gap rfl]
  rfl

/-- The last item is the one in front of the bracket. -/
theorem readItems_last (h : readValue fuel s = .ok (v, ']' :: rest)) :
    readItems (fuel + 1) s = .ok ([v], rest) := by
  rw [readItems, h]
  rfl

/-- An item in front of a comma has others behind it. -/
theorem readItems_more {vs : List Value} (h : readValue fuel s = .ok (v, ',' :: t))
    (hgap : skipGap t = t) (hitems : readItems fuel t = .ok (vs, rest)) :
    readItems (fuel + 1) s = .ok (v :: vs, rest) := by
  rw [readItems, h]
  simp only [bind, Except.bind, skipGap_of_not_gap (c := ',') rfl, hgap, hitems]
  rfl

/-- The last member is the one in front of the brace. -/
theorem readMembers_last (hkey : readText s = .ok (k, ':' :: t)) (hgap : skipGap t = t)
    (h : readValue fuel t = .ok (v, '\x7d' :: rest)) :
    readMembers (fuel + 1) ('"' :: s) = .ok ([(k, v)], rest) := by
  rw [readMembers]
  simp only [bind, Except.bind, hkey, skipGap_of_not_gap (c := ':') rfl, hgap, h]
  rfl

/-- A member in front of a comma has others behind it. -/
theorem readMembers_more {ms : List (Option String × Value)}
    (hkey : readText s = .ok (k, ':' :: t)) (hgap : skipGap t = t)
    (h : readValue fuel t = .ok (v, ',' :: u)) (hgap' : skipGap u = u)
    (hmembers : readMembers fuel u = .ok (ms, rest)) :
    readMembers (fuel + 1) ('"' :: s) = .ok ((k, v) :: ms, rest) := by
  rw [readMembers]
  simp only [bind, Except.bind, hkey, skipGap_of_not_gap (c := ':') rfl, hgap, h,
    skipGap_of_not_gap (c := ',') rfl, hgap', hmembers]
  rfl

end Steps

/-! ### The round trip -/

mutual

/-- **A plain value is read back from its text**, whatever ends it. -/
theorem readValue_chars : ∀ (v : Value) (fuel : Nat) (rest : List Char), v.IsPlain →
    v.chars.length ≤ fuel → EndsValue rest → readValue fuel (v.chars ++ rest) = .ok (v, rest)
  -- No value has an empty text, so the fuel does not run out in front of one.
  | v, 0, rest, hv, hfuel, _ => absurd hfuel (by have := length_chars_pos hv; omega)
  | .null, fuel + 1, rest, _, _, _ => by
    rw [Value.chars]
    rfl
  | .bool true, fuel + 1, rest, _, _, _ => by
    rw [Value.chars]
    rfl
  | .bool false, fuel + 1, rest, _, _, _ => by
    rw [Value.chars]
    rfl
  | .num n, fuel + 1, rest, ⟨k, hk⟩, _, hrest => by
    subst hk
    rw [Value.chars, chars_int]
    exact readValue_numeral k fuel hrest
  | .str s, fuel + 1, rest, _, _, _ => by
    obtain ⟨t, ht, hread⟩ := readText_quoteOrLone s rest
    rw [Value.chars, ht, List.cons_append, readValue, hread]
    rfl
  | .arr [], fuel + 1, rest, _, _, _ => by
    rw [Value.chars, itemsChars]
    rfl
  | .arr (v :: vs), fuel + 1, rest, hvs, hfuel, _ => by
    have hitems := readItems_chars v vs fuel rest hvs (by
      rw [Value.chars, List.length_append, List.length_cons, List.length_singleton] at hfuel
      omega)
    obtain ⟨t, ht⟩ := itemsChars_eq_append v vs
    -- The first item does not start with a bracket, which would end the array.
    obtain ⟨c, u, hu, hgap, hc⟩ := chars_eq_cons hvs.1
    rw [Value.chars, List.append_assoc, List.singleton_append, List.cons_append]
    rw [ht, hu, List.cons_append, List.cons_append] at hitems ⊢
    rw [readValue_array hgap hc, hitems]
    rfl
  | .obj [], fuel + 1, rest, _, _, _ => by
    rw [Value.chars, membersChars]
    rfl
  | .obj (m :: ms), fuel + 1, rest, hms, hfuel, _ => by
    have hmembers := readMembers_chars m ms fuel rest hms (by
      rw [Value.chars, List.length_append, List.length_cons, List.length_singleton] at hfuel
      omega)
    obtain ⟨t, ht⟩ := membersChars_eq_cons m ms
    rw [Value.chars, List.append_assoc, List.singleton_append, List.cons_append]
    rw [ht, List.cons_append] at hmembers ⊢
    rw [readValue_object, hmembers]
    rfl

/-- The items of an array are read back up to its closing bracket. -/
theorem readItems_chars : ∀ (v : Value) (vs : List Value) (fuel : Nat) (rest : List Char),
    ItemsPlain (v :: vs) → (itemsChars (v :: vs)).length + 1 ≤ fuel →
      readItems fuel (itemsChars (v :: vs) ++ ']' :: rest) = .ok (v :: vs, rest)
  | v, [], fuel + 1, rest, hvs, hfuel => by
    rw [itemsChars] at hfuel ⊢
    exact readItems_last (readValue_chars v fuel _ hvs.1 (by omega) (.inr (.inl rfl)))
  | v, w :: ws, fuel + 1, rest, hvs, hfuel => by
    rw [itemsChars_cons_cons] at hfuel ⊢
    rw [List.length_append, List.length_cons] at hfuel
    have hpos := length_chars_pos hvs.1
    obtain ⟨t, ht⟩ := itemsChars_eq_append w ws
    have hgap : skipGap (itemsChars (w :: ws) ++ ']' :: rest) =
        itemsChars (w :: ws) ++ ']' :: rest := by
      rw [ht, List.append_assoc, skipGap_chars hvs.2.1]
    rw [List.append_assoc, List.cons_append]
    exact readItems_more (readValue_chars v fuel _ hvs.1 (by omega) (.inl rfl)) hgap
      (readItems_chars w ws fuel rest hvs.2 (by omega))

/-- The members of an object are read back up to its closing brace. -/
theorem readMembers_chars : ∀ (m : Option String × Value) (ms : List (Option String × Value))
    (fuel : Nat) (rest : List Char), MembersPlain (m :: ms) →
      (membersChars (m :: ms)).length + 1 ≤ fuel →
        readMembers fuel (membersChars (m :: ms) ++ '\x7d' :: rest) = .ok (m :: ms, rest)
  | (k, v), [], fuel + 1, rest, hms, hfuel => by
    obtain ⟨t, ht, hkey⟩ := readText_quoteOrLone k (':' :: (v.chars ++ '\x7d' :: rest))
    rw [membersChars] at hfuel ⊢
    rw [List.length_append, List.length_cons] at hfuel
    rw [List.append_assoc, List.cons_append, ht, List.cons_append]
    exact readMembers_last hkey (skipGap_chars hms.1 _)
      (readValue_chars v fuel _ hms.1 (by omega) (.inr (.inr rfl)))
  | (k, v), m :: ms, fuel + 1, rest, hms, hfuel => by
    obtain ⟨u, hu⟩ := membersChars_eq_cons m ms
    have hgap : skipGap (membersChars (m :: ms) ++ '\x7d' :: rest) =
        membersChars (m :: ms) ++ '\x7d' :: rest := by
      rw [hu, List.cons_append, skipGap_of_not_gap rfl]
    rw [membersChars_cons_cons] at hfuel ⊢
    simp only [List.length_append, List.length_cons] at hfuel
    simp only [List.append_assoc, List.cons_append]
    obtain ⟨t, ht, hkey⟩ := readText_quoteOrLone k
      (':' :: (v.chars ++ ',' :: (membersChars (m :: ms) ++ '\x7d' :: rest)))
    rw [ht, List.cons_append]
    exact readMembers_more hkey (skipGap_chars hms.1 _)
      (readValue_chars v fuel _ hms.1 (by omega) (.inl rfl)) hgap
      (readMembers_chars m ms fuel rest hms.2 (by omega))

end

/-- **The compact text of a plain value is a document that denotes it.** -/
theorem parseChars_chars {v : Value} (h : v.IsPlain) : parseChars v.chars = .ok v := by
  have hread := readValue_chars v (2 * v.chars.length + 2) [] h (by omega) trivial
  have hgap := skipGap_chars h []
  rw [List.append_nil] at hread hgap
  rw [parseChars, hgap, hread]
  rfl

/-- **A plain value is read back from its text.** -/
theorem parse_print {v : Value} (h : v.IsPlain) : parse v.print = .ok v := by
  rw [parse, Value.print, String.toList_ofList, parseChars_chars h]

/-- And from the bytes of that text. -/
theorem parseBytes_utf8_chars {v : Value} (h : v.IsPlain) : parseBytes (utf8 v.chars) = .ok v := by
  rw [parseBytes, decodeUtf8_utf8, parseChars_chars h]

end AuditFeed.Json
