import AuditFeed.Text.Utf8

/-!
# UTF-8 reads back what it writes

A text that was written as bytes is read as that text, whatever stands for ill-formed stretches. It
is what bodies of requests and tokens of cursors rest on.

## One character

The reader goes character by character, so the whole rests on `readChar_utf8Char`: the bytes of one
character, with anything after them, are read as that character and leave what comes after.

There is one lemma for each length of a sequence (`readChar_ascii`, `readChar_two` and so on), about
the number of the character: a leading byte tells how many bytes continue it and what it adds, and
each continuation byte adds six bits. The leading byte also bounds the second one, which keeps out
long forms, surrogates and numbers beyond Unicode. A character's number is none of these
(`toNat_char_valid`), and that is all that is used of it being a character.

## Main statements

* `readChar_utf8Char`: one character is read back.
* `decodeUtf8_utf8`: a text is read back.
-/

namespace AuditFeed.Text

/-! ### Bytes and code points -/

theorem toNat_toUInt8 {n : Nat} (h : n < 256) : n.toUInt8.toNat = n :=
  UInt8.toNat_ofNat_of_lt h

/-- A character's number is no surrogate and within Unicode. -/
theorem toNat_char_valid (c : Char) :
    c.toNat < 0xD800 ∨ 0xDFFF < c.toNat ∧ c.toNat < 0x110000 :=
  c.valid

/-! ### Sequences -/

theorem leadPayload_one (lead : Nat) : leadPayload lead 1 = lead - 0xC0 := rfl

theorem leadPayload_two (lead : Nat) : leadPayload lead 2 = lead - 0xE0 := rfl

theorem leadPayload_three (lead : Nat) : leadPayload lead 3 = lead - 0xF0 := rfl

/-- A continuation byte within its bounds is taken off, and its payload is appended. -/
theorem continueChar_succ {k acc lo hi payload : Nat} (hlo : lo ≤ 0x80 + payload)
    (hhi : 0x80 + payload ≤ hi) (hp : payload < 0x40) (rest : List UInt8) :
    continueChar (k + 1) acc lo hi ((0x80 + payload).toUInt8 :: rest) =
      continueChar k (acc * 0x40 + payload) 0x80 0xBF rest := by
  rw [continueChar, toNat_toUInt8 (by omega), if_pos ⟨hlo, hhi⟩, Nat.add_sub_cancel_left]

/-- A leading byte and the continuation that it announces are one character. -/
theorem readChar_of_continueChar {lead k n : Nat} {bs rest : List UInt8} (hlead : lead < 256)
    (hk : continuationCount lead = some k)
    (h : continueChar k (leadPayload lead k) (secondBounds lead).1 (secondBounds lead).2 bs =
      (some n, rest)) :
    readChar lead.toUInt8 bs = (some (Char.ofNat n), rest) := by
  simp only [readChar, toNat_toUInt8 hlead, hk, h, Option.map_some]

/-! ### Characters, by the length of their sequence -/

/-- A character of one byte. -/
theorem readChar_ascii {n : Nat} (h : n < 0x80) (rest : List UInt8) :
    readChar n.toUInt8 rest = (some (Char.ofNat n), rest) := by
  refine readChar_of_continueChar (k := 0) (by omega) ?_ rfl
  rw [continuationCount, if_pos h]

/-- A character of two bytes. -/
theorem readChar_two {n : Nat} (hlo : 0x80 ≤ n) (hhi : n < 0x800) (rest : List UInt8) :
    readChar (0xC0 + n / 0x40).toUInt8 ((0x80 + n % 0x40).toUInt8 :: rest) =
      (some (Char.ofNat n), rest) := by
  have hlead : 0xC0 + n / 0x40 < 256 := by omega
  have hcount : continuationCount (0xC0 + n / 0x40) = some 1 := by
    simp only [continuationCount]
    grind
  have hbounds : secondBounds (0xC0 + n / 0x40) = (0x80, 0xBF) := by
    simp only [secondBounds]
    grind
  have hvalue : leadPayload (0xC0 + n / 0x40) 1 * 0x40 + n % 0x40 = n := by
    rw [leadPayload_one]
    omega
  refine readChar_of_continueChar hlead hcount ?_
  rw [hbounds, continueChar_succ (by omega) (by omega) (by omega), continueChar, hvalue]

/-- A character of three bytes is no surrogate, and the bounds on its second byte say so. -/
theorem readChar_three {n : Nat} (hlo : 0x800 ≤ n) (hhi : n < 0x10000)
    (hv : n < 0xD800 ∨ 0xDFFF < n) (rest : List UInt8) :
    readChar (0xE0 + n / 0x1000).toUInt8
        ((0x80 + n / 0x40 % 0x40).toUInt8 :: (0x80 + n % 0x40).toUInt8 :: rest) =
      (some (Char.ofNat n), rest) := by
  have hlead : 0xE0 + n / 0x1000 < 256 := by omega
  have hcount : continuationCount (0xE0 + n / 0x1000) = some 2 := by
    simp only [continuationCount]
    grind
  have hbounds : (secondBounds (0xE0 + n / 0x1000)).1 ≤ 0x80 + n / 0x40 % 0x40 ∧
      0x80 + n / 0x40 % 0x40 ≤ (secondBounds (0xE0 + n / 0x1000)).2 := by
    simp only [secondBounds]
    split
    · omega
    split
    · omega
    · grind
  have hvalue : (leadPayload (0xE0 + n / 0x1000) 2 * 0x40 + n / 0x40 % 0x40) * 0x40 + n % 0x40 =
      n := by
    rw [leadPayload_two]
    omega
  refine readChar_of_continueChar hlead hcount ?_
  rw [continueChar_succ hbounds.1 hbounds.2 (by omega),
    continueChar_succ (by omega) (by omega) (by omega), continueChar, hvalue]

/-- A character of four bytes is within Unicode, and the bounds on its second byte say so. -/
theorem readChar_four {n : Nat} (hlo : 0x10000 ≤ n) (hhi : n < 0x110000) (rest : List UInt8) :
    readChar (0xF0 + n / 0x40000).toUInt8
        ((0x80 + n / 0x1000 % 0x40).toUInt8 :: (0x80 + n / 0x40 % 0x40).toUInt8 ::
          (0x80 + n % 0x40).toUInt8 :: rest) =
      (some (Char.ofNat n), rest) := by
  have hlead : 0xF0 + n / 0x40000 < 256 := by omega
  have hcount : continuationCount (0xF0 + n / 0x40000) = some 3 := by
    simp only [continuationCount]
    grind
  have hbounds : (secondBounds (0xF0 + n / 0x40000)).1 ≤ 0x80 + n / 0x1000 % 0x40 ∧
      0x80 + n / 0x1000 % 0x40 ≤ (secondBounds (0xF0 + n / 0x40000)).2 := by
    simp only [secondBounds]
    grind
  have hvalue : ((leadPayload (0xF0 + n / 0x40000) 3 * 0x40 + n / 0x1000 % 0x40) * 0x40 +
      n / 0x40 % 0x40) * 0x40 + n % 0x40 = n := by
    rw [leadPayload_three]
    omega
  refine readChar_of_continueChar hlead hcount ?_
  rw [continueChar_succ hbounds.1 hbounds.2 (by omega),
    continueChar_succ (by omega) (by omega) (by omega),
    continueChar_succ (by omega) (by omega) (by omega), continueChar, hvalue]

/-- **One character is read back**, and what follows it is left. -/
theorem readChar_utf8Char (c : Char) (rest : List UInt8) :
    ∃ b bs, utf8Char c = b :: bs ∧ readChar b (bs ++ rest) = (some c, rest) := by
  have hv := toNat_char_valid c
  have hc : Char.ofNat c.toNat = c := Char.ofNat_toNat c
  simp only [utf8Char]
  split
  · refine ⟨_, _, rfl, ?_⟩
    rw [List.nil_append, readChar_ascii (by assumption), hc]
  split
  · refine ⟨_, _, rfl, ?_⟩
    rw [List.singleton_append, readChar_two (by omega) (by assumption), hc]
  split
  · refine ⟨_, _, rfl, ?_⟩
    rw [List.cons_append, List.singleton_append,
      readChar_three (by omega) (by assumption) (by omega), hc]
  · refine ⟨_, _, rfl, ?_⟩
    rw [List.cons_append, List.cons_append, List.singleton_append,
      readChar_four (by omega) (by omega), hc]

/-! ### Texts -/

theorem utf8_cons (c : Char) (s : List Char) : utf8 (c :: s) = utf8Char c ++ utf8 s :=
  List.flatMap_cons

/-- A character that is read is the first one of the text. -/
theorem decodeUtf8_cons {b : UInt8} {rest rest' : List UInt8} {c : Char} (broken : List Char)
    (h : readChar b rest = (some c, rest')) :
    decodeUtf8 broken (b :: rest) = c :: decodeUtf8 broken rest' := by
  rw [decodeUtf8]
  split <;> simp_all

/-- **Written bytes are read as the text that was written.** -/
theorem decodeUtf8_utf8 (broken s : List Char) : decodeUtf8 broken (utf8 s) = s := by
  induction s with
  | nil => rw [utf8, List.flatMap_nil, decodeUtf8]
  | cons c s ih =>
    obtain ⟨b, bs, hbytes, hread⟩ := readChar_utf8Char c (utf8 s)
    rw [utf8_cons, hbytes, List.cons_append, decodeUtf8_cons broken hread, ih]

end AuditFeed.Text
