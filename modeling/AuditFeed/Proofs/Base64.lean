import AuditFeed.Base64
import AuditFeed.Proofs.Text.Utf8
import AuditFeed.Text.Blank

/-!
# Base64 reads back what it writes

The written form of a byte sequence, taken as the bytes of its text, is read as that sequence. A
token is written this way, and so is the secret of a key.

## Group by group

The proof follows the groups: `encode` turns three bytes into four symbols, and only the last group
may be short. So the one fact about symbols is `need_symbolByte`, which holds at every offset; the
rest is arithmetic of positional numbers, for a full group with more behind it
(`decodeGroups_group`) and for a last group of each of its three sizes (`decodeLast_one` and so on).
The four symbols of a group are given as digits of one number `n`, with an equation for that number:
that keeps the three bytes out of the terms that arithmetic has to look at.

## The shape of a written form

Symbols are neither blanks nor hyphens, so a written form also survives a reader that takes blanks
off its ends, and one that looks for the line which ends it. Both take what they need from
`of_mem_encode`: what holds of the symbols and of the padding holds of all that is written.

## Main statements

* `decode_utf8_encode`: written bytes are read as the bytes that were written.
* `of_mem_encode`: what can be in a written form.
-/

namespace AuditFeed.Base64

/-! ### Symbols -/

/-- The byte of a symbol. -/
def symbolByte (n : Nat) : UInt8 :=
  (symbol n).toNat.toUInt8

/-- The byte of the padding symbol. -/
def padByte : UInt8 := pad.toNat.toUInt8

theorem value?_symbolByte : ∀ n < 64, value? (symbolByte n) = some n := by
  decide +kernel

theorem isPad_symbolByte : ∀ n < 64, isPad (symbolByte n) = false := by
  decide +kernel

theorem utf8Char_symbol : ∀ n < 64, Text.utf8Char (symbol n) = [symbolByte n] := by
  decide +kernel

theorem isBlank_symbol : ∀ n < 64, Text.isBlank (symbol n) = false := by
  decide +kernel

/-- A symbol is written as its one byte. -/
theorem utf8_symbol_cons {n : Nat} (h : n < 64) (s : List Char) :
    Text.utf8 (symbol n :: s) = symbolByte n :: Text.utf8 s := by
  rw [Text.utf8_cons, utf8Char_symbol n h, List.singleton_append]

/-- So is the padding symbol. -/
theorem utf8_pad_cons (s : List Char) : Text.utf8 (pad :: s) = padByte :: Text.utf8 s :=
  Text.utf8_cons pad s

/-- **A symbol is read as its number**, wherever it stands. -/
theorem need_symbolByte {n : Nat} (h : n < 64) (offset : Nat) :
    need (symbolByte n) offset = .ok n := by
  rw [need, value?_symbolByte n h]

/-- A symbol of a last group is put behind those before it. -/
theorem readLast_symbolByte {n : Nat} (h : n < 64) (start i : Nat) (symbols : List (Nat × UInt8))
    (rest : List UInt8) :
    readLast start i symbols 0 (symbolByte n :: rest) =
      readLast start (i + 1) (symbols ++ [(n, symbolByte n)]) 0 rest := by
  rw [readLast, isPad_symbolByte n h, need_symbolByte h]
  rfl

/-! ### Groups -/

/-- A number below `256` is the number of the byte that it makes. -/
theorem toUInt8_of_eq {n : Nat} {b : UInt8} (h : n = b.toNat) : n.toUInt8 = b := by
  rw [h]
  exact UInt8.ofNat_toNat

/-- Padding that comes behind two symbols or more is counted. -/
theorem readLast_pad (start i : Nat) (hi : ¬ i < 2) (symbols : List (Nat × UInt8)) (padding : Nat)
    (rest : List UInt8) :
    readLast start i symbols padding (padByte :: rest) =
      readLast start (i + 1) symbols (padding + 1) rest := by
  rw [readLast, if_pos (by decide), if_neg hi]

/-- Four numbers of six bits are joined to the number that they were taken of. -/
theorem join_sextets (n : Nat) :
    ((n / 262144 * 64 + n / 4096 % 64) * 64 + n / 64 % 64) * 64 + n % 64 = n := by
  omega

/-- A number of three bytes is made of these bytes. -/
theorem bytes_of_triple (a b c : UInt8) {n : Nat}
    (hn : n = (a.toNat * 256 + b.toNat) * 256 + c.toNat) :
    (n / 65536).toUInt8 = a ∧ (n / 256 % 256).toUInt8 = b ∧ (n % 256).toUInt8 = c := by
  have ha := a.toNat_lt
  have hb := b.toNat_lt
  have hc := c.toNat_lt
  exact ⟨toUInt8_of_eq (by omega), toUInt8_of_eq (by omega), toUInt8_of_eq (by omega)⟩

/-- A last group of one byte. -/
theorem decodeLast_one (start : Nat) (a : UInt8) :
    decodeLast start [symbolByte (a.toNat * 16 / 64), symbolByte (a.toNat * 16 % 64), padByte,
      padByte] = .ok [a] := by
  have ha := a.toNat_lt
  have h1 : a.toNat * 16 / 64 < 64 := by omega
  have h2 : a.toNat * 16 % 64 < 64 := by omega
  have hn : a.toNat * 16 / 64 * 64 + a.toNat * 16 % 64 = a.toNat * 16 := by omega
  have hbits : a.toNat * 16 % 16 = 0 := by omega
  have hbyte : a.toNat * 16 / 16 = a.toNat := by omega
  rw [decodeLast, readLast_symbolByte h1, readLast_symbolByte h2, readLast_pad _ _ (by decide),
    readLast_pad _ _ (by decide), readLast]
  simp [bind, Except.bind, pure, Except.pure, hn, hbits, hbyte]

/-- A last group of two bytes. -/
theorem decodeLast_two (start : Nat) (a b : UInt8) {n : Nat}
    (hn : n = (a.toNat * 256 + b.toNat) * 4) :
    decodeLast start [symbolByte (n / 4096), symbolByte (n / 64 % 64), symbolByte (n % 64),
      padByte] = .ok [a, b] := by
  have ha := a.toNat_lt
  have hb := b.toNat_lt
  have h1 : n / 4096 < 64 := by omega
  have h2 : n / 64 % 64 < 64 := by omega
  have h3 : n % 64 < 64 := by omega
  have hjoin : (n / 4096 * 64 + n / 64 % 64) * 64 + n % 64 = n := by omega
  have hbits : n % 4 = 0 := by omega
  have hbytes : (n / 1024).toUInt8 = a ∧ (n / 4 % 256).toUInt8 = b :=
    ⟨toUInt8_of_eq (by omega), toUInt8_of_eq (by omega)⟩
  rw [decodeLast, readLast_symbolByte h1, readLast_symbolByte h2, readLast_symbolByte h3,
    readLast_pad _ _ (by decide), readLast]
  simp [bind, Except.bind, pure, Except.pure, hjoin, hbits, hbytes]

/-- A last group of three bytes. -/
theorem decodeLast_three (start : Nat) (a b c : UInt8) {n : Nat}
    (hn : n = (a.toNat * 256 + b.toNat) * 256 + c.toNat) :
    decodeLast start [symbolByte (n / 262144), symbolByte (n / 4096 % 64),
      symbolByte (n / 64 % 64), symbolByte (n % 64)] = .ok [a, b, c] := by
  have ha := a.toNat_lt
  have hb := b.toNat_lt
  have hc := c.toNat_lt
  have h1 : n / 262144 < 64 := by omega
  have h2 : n / 4096 % 64 < 64 := by omega
  have h3 : n / 64 % 64 < 64 := by omega
  have h4 : n % 64 < 64 := by omega
  rw [decodeLast, readLast_symbolByte h1, readLast_symbolByte h2, readLast_symbolByte h3,
    readLast_symbolByte h4, readLast]
  simp [bind, Except.bind, pure, Except.pure, join_sextets, bytes_of_triple a b c hn]

/-- A full group with more behind it. -/
theorem decodeGroups_group (start : Nat) (a b c : UInt8) {n : Nat}
    (hn : n = (a.toNat * 256 + b.toNat) * 256 + c.toNat) {text bytes : List UInt8}
    (htext : text ≠ []) (h : decodeGroups (start + 4) text = .ok bytes) :
    decodeGroups start (symbolByte (n / 262144) :: symbolByte (n / 4096 % 64) ::
      symbolByte (n / 64 % 64) :: symbolByte (n % 64) :: text) = .ok (a :: b :: c :: bytes) := by
  have ha := a.toNat_lt
  have hb := b.toNat_lt
  have hc := c.toNat_lt
  -- That there is more keeps this group from being read as the last one.
  obtain ⟨e, rest, rfl⟩ := List.exists_cons_of_ne_nil htext
  rw [decodeGroups, need_symbolByte (by omega), need_symbolByte (by omega),
    need_symbolByte (by omega), need_symbolByte (by omega), h]
  simp [bind, Except.bind, pure, Except.pure, join_sextets, bytes_of_triple a b c hn]

/-! ### Whole texts -/

/-- The bytes of a written form, group by group. -/
theorem utf8_encode_cons {a b c : UInt8} {rest : List UInt8} {n : Nat}
    (hn : n = (a.toNat * 256 + b.toNat) * 256 + c.toNat) :
    Text.utf8 (encode (a :: b :: c :: rest)) =
      symbolByte (n / 262144) :: symbolByte (n / 4096 % 64) :: symbolByte (n / 64 % 64) ::
        symbolByte (n % 64) :: Text.utf8 (encode rest) := by
  have ha := a.toNat_lt
  have hb := b.toNat_lt
  have hc := c.toNat_lt
  rw [encode, ← hn, utf8_symbol_cons (by omega), utf8_symbol_cons (by omega),
    utf8_symbol_cons (by omega), utf8_symbol_cons (by omega)]

/-- The bytes that two bytes are written as. -/
theorem utf8_encode_two (a b : UInt8) {n : Nat} (hn : n = (a.toNat * 256 + b.toNat) * 4) :
    Text.utf8 (encode [a, b]) =
      [symbolByte (n / 4096), symbolByte (n / 64 % 64), symbolByte (n % 64), padByte] := by
  have ha := a.toNat_lt
  have hb := b.toNat_lt
  rw [encode, ← hn, utf8_symbol_cons (by omega), utf8_symbol_cons (by omega),
    utf8_symbol_cons (by omega), utf8_pad_cons]
  rfl

/-- The bytes that one byte is written as. -/
theorem utf8_encode_one (a : UInt8) :
    Text.utf8 (encode [a]) =
      [symbolByte (a.toNat * 16 / 64), symbolByte (a.toNat * 16 % 64), padByte, padByte] := by
  have ha := a.toNat_lt
  rw [encode, utf8_symbol_cons (by omega), utf8_symbol_cons (by omega), utf8_pad_cons,
    utf8_pad_cons]
  rfl

/-- A written form is made of whole groups, and only that of nothing has none. -/
theorem length_utf8_encode (bs : List UInt8) :
    (Text.utf8 (encode bs)).length = (bs.length + 2) / 3 * 4 := by
  induction bs using encode.induct with
  | case1 => rfl
  | case2 a =>
    rw [utf8_encode_one]
    simp
  | case3 a b =>
    rw [utf8_encode_two a b rfl]
    simp
  | case4 a b c rest ih =>
    rw [utf8_encode_cons rfl]
    simp only [List.length_cons, ih]
    omega

/-- The groups of a written form are read as the bytes that they were made of. -/
theorem decodeGroups_utf8_encode {bs : List UInt8} (h : bs ≠ []) (start : Nat) :
    decodeGroups start (Text.utf8 (encode bs)) = .ok bs := by
  induction bs using encode.induct generalizing start with
  | case1 => exact absurd rfl h
  | case2 a =>
    rw [utf8_encode_one]
    exact decodeLast_one start a
  | case3 a b =>
    rw [utf8_encode_two a b rfl]
    exact decodeLast_two start a b rfl
  | case4 a b c rest ih =>
    rw [utf8_encode_cons rfl]
    rcases rest with - | ⟨d, rest⟩
    · exact decodeLast_three start a b c rfl
    · have htext : Text.utf8 (encode (d :: rest)) ≠ [] := by
        refine List.ne_nil_of_length_pos ?_
        rw [length_utf8_encode, List.length_cons]
        omega
      exact decodeGroups_group start a b c rfl htext (ih (by simp) _)

/-- **Written bytes are read as the bytes that were written.** -/
theorem decode_utf8_encode (bs : List UInt8) : decode (Text.utf8 (encode bs)) = .ok bs := by
  rcases bs with - | ⟨b, bs⟩
  · rfl
  have hlen := length_utf8_encode (b :: bs)
  have hgroups : decodeGroups 0 (Text.utf8 (encode (b :: bs))) = .ok (b :: bs) :=
    decodeGroups_utf8_encode (by simp) 0
  generalize Text.utf8 (encode (b :: bs)) = text at hlen hgroups
  have hne : text ≠ [] := by
    refine List.ne_nil_of_length_pos ?_
    rw [hlen, List.length_cons]
    omega
  have hstray : ¬ text.length % 4 = 1 := by omega
  obtain ⟨e, rest, rfl⟩ := List.exists_cons_of_ne_nil hne
  simp only [decode, List.getLast?_eq_some_getLast hne]
  rw [if_neg fun h ↦ hstray h.1, hgroups]

/-! ### The shape of a written form -/

/-- A written form is made of symbols, with at most two signs of padding behind them. -/
theorem exists_encode_eq (bs : List UInt8) :
    ∃ symbols k, encode bs = symbols ++ List.replicate k pad ∧ k < 3 ∧
      ∀ c ∈ symbols, ∃ n < 64, c = symbol n := by
  fun_induction encode bs with
  | case1 => exact ⟨[], 0, rfl, by decide, by simp⟩
  | case2 a n =>
    have ha := a.toNat_lt
    refine ⟨[_, _], 2, rfl, by decide, fun c hc ↦ ?_⟩
    simp only [List.mem_cons, List.not_mem_nil, or_false] at hc
    rcases hc with rfl | rfl
    · exact ⟨_, by omega, rfl⟩
    · exact ⟨_, by omega, rfl⟩
  | case3 a b n =>
    have ha := a.toNat_lt
    have hb := b.toNat_lt
    refine ⟨[_, _, _], 1, rfl, by decide, fun c hc ↦ ?_⟩
    simp only [List.mem_cons, List.not_mem_nil, or_false] at hc
    rcases hc with rfl | rfl | rfl
    · exact ⟨_, by omega, rfl⟩
    · exact ⟨_, by omega, rfl⟩
    · exact ⟨_, by omega, rfl⟩
  | case4 a b c rest n ih =>
    have ha := a.toNat_lt
    have hb := b.toNat_lt
    have hc := c.toNat_lt
    obtain ⟨symbols, k, heq, hk, hsymbols⟩ := ih
    refine ⟨_ :: _ :: _ :: _ :: symbols, k, by rw [heq]; rfl, hk, fun c hc ↦ ?_⟩
    simp only [List.mem_cons] at hc
    rcases hc with rfl | rfl | rfl | rfl | hc
    · exact ⟨_, by omega, rfl⟩
    · exact ⟨_, by omega, rfl⟩
    · exact ⟨_, by omega, rfl⟩
    · exact ⟨_, by omega, rfl⟩
    · exact hsymbols c hc

/-- Only nothing is written as nothing. -/
theorem encode_ne_nil {bs : List UInt8} (h : bs ≠ []) : encode bs ≠ [] := by
  fun_cases encode bs with
  | case1 => exact absurd rfl h
  | _ => exact List.cons_ne_nil _ _

/-- What holds of the symbols and of the padding holds of all that is written. -/
theorem of_mem_encode {P : Char → Prop} (hsymbol : ∀ n < 64, P (symbol n)) (hpad : P pad)
    {bs : List UInt8} {c : Char} (h : c ∈ encode bs) : P c := by
  obtain ⟨symbols, k, heq, -, hsymbols⟩ := exists_encode_eq bs
  rw [heq, List.mem_append, List.mem_replicate] at h
  rcases h with h | ⟨-, rfl⟩
  · obtain ⟨n, hn, rfl⟩ := hsymbols c h
    exact hsymbol n hn
  · exact hpad

/-- No symbol of a written form is a blank. -/
theorem isBlank_of_mem_encode {bs : List UInt8} {c : Char} (h : c ∈ encode bs) :
    Text.isBlank c = false :=
  of_mem_encode (P := fun c ↦ Text.isBlank c = false) isBlank_symbol (by decide) h

end AuditFeed.Base64
