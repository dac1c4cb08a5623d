import AuditFeed.Proofs.Text.Utf8
import AuditFeed.Text.Percent

/-!
# Reading forms back

What a form writes is read back as the same pairs, whatever characters they hold (`decode_encode`).
The queries of URLs and the requests for tokens are forms.

## Fields

A field is written in characters that mean themselves, in a plus for each space and in encoded
bytes, and so holds neither an equals sign nor an ampersand (`isPlain_of_mem_encodeField`): the
signs between fields cannot be mistaken. The bytes that are read are those of the field's text,
character by character (`percentBytes_spaced_encodeField`). The plus signs are turned into spaces
first, over the whole field, and this is what `spaced` is for.

## Forms

A form is the pairs with ampersands between them, and is read by splitting it there. A form that
follows an ampersand adds its pairs to those in front, whatever is written there
(`decode_append_encode`): the text in front need not be a form that was written here.

## Main statements

* `decode_encode`: a form is read back.
* `decode_append_encode`: a form behind another text adds its pairs.
-/

namespace AuditFeed.Text

/-! ### Encoded bytes -/

theorem hexValue?_upperHexDigit : ∀ n < 16, hexValue? (upperHexDigit n) = some n := by
  decide

theorem isAlphanum_upperHexDigit : ∀ n < 16, (upperHexDigit n).isAlphanum = true := by
  decide

/-- An encoded byte is read as the byte. -/
theorem percentBytes_percentByte (b : UInt8) (s : List Char) :
    percentBytes (percentByte b ++ s) = b :: percentBytes s := by
  have hb : b.toNat < 256 := b.toNat_lt
  have hhigh := hexValue?_upperHexDigit (b.toNat / 16) (by omega)
  have hlow := hexValue?_upperHexDigit (b.toNat % 16) (Nat.mod_lt _ (by decide))
  have hjoin : (b.toNat / 16 * 16 + b.toNat % 16).toUInt8 = b := by
    rw [Nat.div_add_mod']
    exact UInt8.ofNat_toNat
  rw [percentByte, List.cons_append, List.cons_append, List.cons_append, List.nil_append,
    percentBytes, hhigh, hlow]
  exact congrArg (· :: percentBytes s) hjoin

/-- Encoded bytes are read as these bytes. -/
theorem percentBytes_flatMap_percentByte (bs : List UInt8) (s : List Char) :
    percentBytes (bs.flatMap percentByte ++ s) = bs ++ percentBytes s := by
  induction bs with
  | nil => rfl
  | cons b bs ih =>
    rw [List.flatMap_cons, List.append_assoc, percentBytes_percentByte, ih]
    rfl

/-- A character other than the percent sign stands for itself. -/
theorem percentBytes_cons_of_ne {c : Char} (hc : c ≠ '%') (s : List Char) :
    percentBytes (c :: s) = utf8Char c ++ percentBytes s := by
  rw [percentBytes]
  rintro a b rest rfl
  exact absurd rfl hc

namespace Form

/-! ### Fields -/

/-- Is this a character that a form writes a field with? -/
def IsPlain (c : Char) : Prop :=
  isKept c = true ∨ c = '+' ∨ c = '%'

/-- An encoded byte is written in characters for fields. -/
theorem isPlain_of_mem_percentByte {b : UInt8} {c : Char} (h : c ∈ percentByte b) : IsPlain c := by
  have hb : b.toNat < 256 := b.toNat_lt
  have hdigit : ∀ n < 16, IsPlain (upperHexDigit n) := fun n hn ↦
    .inl (by rw [isKept, isAlphanum_upperHexDigit n hn]; rfl)
  rw [percentByte, List.mem_cons, List.mem_cons, List.mem_singleton] at h
  rcases h with rfl | rfl | rfl
  · exact .inr (.inr rfl)
  · exact hdigit _ (by omega)
  · exact hdigit _ (Nat.mod_lt _ (by decide))

/-- A field holds no sign that stands between fields. -/
theorem isPlain_of_mem_encodeField {s : List Char} {c : Char} (h : c ∈ encodeField s) :
    IsPlain c := by
  obtain ⟨d, -, hd⟩ := List.mem_flatMap.1 h
  split at hd
  · exact .inr (.inl (List.mem_singleton.1 hd))
  · split at hd
    · rename_i hkept
      exact .inl (List.mem_singleton.1 hd ▸ hkept)
    · obtain ⟨b, -, hb⟩ := List.mem_flatMap.1 hd
      exact isPlain_of_mem_percentByte hb

theorem not_isPlain_equals : ¬ IsPlain '=' := by
  rw [IsPlain]
  decide

theorem not_isPlain_ampersand : ¬ IsPlain '&' := by
  rw [IsPlain]
  decide

/-- A character with a space for a plus. -/
def spaced (c : Char) : Char :=
  if c = '+' then ' ' else c

/-- There is no plus in an encoded byte. -/
theorem map_spaced_percentByte (b : UInt8) : (percentByte b).map spaced = percentByte b := by
  have hb : b.toNat < 256 := b.toNat_lt
  have hdigit : ∀ n < 16, spaced (upperHexDigit n) = upperHexDigit n := by decide
  rw [percentByte, List.map_cons, List.map_cons, List.map_cons, hdigit _ (by omega),
    hdigit _ (Nat.mod_lt _ (by decide))]
  rfl

/-- **A field is written byte for byte**: the bytes that are read of it are those of its text. -/
theorem percentBytes_spaced_encodeField (s : List Char) :
    percentBytes ((encodeField s).map spaced) = utf8 s := by
  induction s with
  | nil => rfl
  | cons c s ih =>
    rw [utf8_cons, ← ih, encodeField, List.flatMap_cons, List.map_append]
    split
    · rename_i hspace
      rw [hspace]
      exact percentBytes_cons_of_ne (by decide) _
    · split
      · rename_i hkept
        have hplus : spaced c = c := if_neg fun h ↦ by
          rw [h] at hkept
          exact absurd hkept (by decide)
        rw [List.map_singleton, hplus]
        refine percentBytes_cons_of_ne (fun h ↦ ?_) _
        rw [h] at hkept
        exact absurd hkept (by decide)
      · have hbytes : ((utf8Char c).flatMap percentByte).map spaced =
            (utf8Char c).flatMap percentByte := by
          rw [List.map_flatMap]
          simp only [map_spaced_percentByte]
        rw [hbytes]
        exact percentBytes_flatMap_percentByte _ _

/-- A field is read back. -/
theorem decodeField_encodeField (s : List Char) :
    decodeField (encodeField s) = String.ofList s := by
  show String.ofList (decodeUtf8 _ (percentBytes ((encodeField s).map spaced))) = _
  rw [percentBytes_spaced_encodeField, decodeUtf8_utf8]

/-! ### Pairs -/

/-- A pair as a form writes it. -/
def pairText (p : String × String) : List Char :=
  encodeField p.1.toList ++ '=' :: encodeField p.2.toList

theorem encode_eq_intercalate (pairs : List (String × String)) :
    encode pairs = List.intercalate ['&'] (pairs.map pairText) := rfl

/-- A pair is read back. -/
theorem decodePair_pairText (p : String × String) : decodePair (pairText p) = p := by
  have hname : ∀ c ∈ encodeField p.1.toList, (c != '=') = true := fun c hc ↦
    bne_iff_ne.2 fun h ↦ not_isPlain_equals (h ▸ isPlain_of_mem_encodeField hc)
  rw [decodePair, pairText, List.takeWhile_append_of_pos hname, List.dropWhile_append_of_pos hname]
  have htake : ('=' :: encodeField p.2.toList).takeWhile (· != '=') = [] := rfl
  have hdrop : (('=' :: encodeField p.2.toList).dropWhile (· != '=')).drop 1 =
      encodeField p.2.toList := rfl
  rw [htake, hdrop, List.append_nil, decodeField_encodeField, decodeField_encodeField,
    String.ofList_toList, String.ofList_toList]

/-- No pair is split in two. -/
theorem ampersand_not_mem_pairText (p : String × String) : '&' ∉ pairText p := by
  rw [pairText, List.mem_append, List.mem_cons]
  rintro (h | h | h)
  · exact not_isPlain_ampersand (isPlain_of_mem_encodeField h)
  · exact absurd h (by decide)
  · exact not_isPlain_ampersand (isPlain_of_mem_encodeField h)

/-- **A form is read back**, whatever its pairs hold. -/
theorem decode_encode (pairs : List (String × String)) : decode (encode pairs) = pairs := by
  cases pairs with
  | nil => rfl
  | cons p ps =>
    have hparts : ∀ part ∈ (p :: ps).map pairText, '&' ∉ part := fun part hpart ↦ by
      obtain ⟨q, -, rfl⟩ := List.mem_map.1 hpart
      exact ampersand_not_mem_pairText q
    have hfull : ∀ part ∈ (p :: ps).map pairText, (!part.isEmpty) = true := fun part hpart ↦ by
      obtain ⟨q, -, rfl⟩ := List.mem_map.1 hpart
      rw [pairText]
      simp
    rw [decode, encode_eq_intercalate, List.splitOn_intercalate '&' hparts (List.cons_ne_nil _ _),
      List.filter_eq_self.2 hfull, List.map_map]
    exact List.map_id'' decodePair_pairText _

/-- A form behind another text adds its pairs to those that are read there. -/
theorem decode_append_encode (s : List Char) (pairs : List (String × String)) :
    decode (s ++ '&' :: encode pairs) = decode s ++ pairs := by
  have hsplit : (s ++ '&' :: encode pairs).splitOn '&' =
      s.splitOn '&' ++ (encode pairs).splitOn '&' :=
    List.splitOnP_append_cons s (encode pairs) rfl
  rw [decode, hsplit, List.filter_append, List.map_append]
  exact congrArg (decode s ++ ·) (decode_encode pairs)

end Form

end AuditFeed.Text
