import AuditFeed.Cursor.Token
import AuditFeed.Proofs.Base64
import AuditFeed.Proofs.Instant.Rfc3339
import AuditFeed.Proofs.Json.Text
import AuditFeed.Proofs.Text.Blank

/-!
# The round trip of cursor tokens

`Cursor.decode_encode` decides, for every cursor, what its token decodes to: the cursor itself if
its times are of the years 0 to 9999, and a refusal otherwise. So a token never decodes to another
cursor than the one it was made of, and whatever else a cursor holds (any page token, any page size,
no times at all) survives.

## Layers

The layers of a token are taken off one at a time: blanks, Base64 and UTF-8, JSON, and the record.
The outer ones read back whatever was written, for every text, so the question is passed on to the
record as it stands. There, numbers are within their bounds because a page size is of 32 bits, and
texts need nothing (`Json.natBelow_nat`).

## Years

What is left are the times. A time is written with a sign in front where four digits do not hold its
year, and the reader of tokens takes four digits and no sign (`Json.optionalTime_timeText`). Hence
the one condition, `Cursor.HasPlainTimes`, which is decidable.

## Main statements

* `Cursor.decode_encode`: what the token of a cursor decodes to.
* `Cursor.decode_padded_encode`: the same with blanks around the token.
-/

namespace AuditFeed.Text

/-- More digits do not make a number smaller. -/
theorem le_digitsValue (ds : List Char) : ∀ acc, acc ≤ digitsValue acc ds := by
  induction ds with
  | nil => exact fun acc ↦ Nat.le_refl acc
  | cons d ds ih =>
    intro acc
    have hstep : acc * 10 + digitValue d ≤ digitsValue acc (d :: ds) := ih _
    omega

end AuditFeed.Text

namespace AuditFeed.Json

open Text

/-! ### Fields -/

/-- A record whose members are known is read from them. -/
theorem ofRecord_of_record {α : Type} {names : List String} {v : Value} {r : Record}
    (h : record names v = some r) (f : Nat → Record → Option α) (room : Nat) :
    ofRecord names f (room + 1) v = f room r := by
  rw [ofRecord, h]
  rfl

/-- Digits whose number is within the limit are collected to the end. -/
theorem collect_of_le (ds : List Char) :
    ∀ acc, digitsValue acc ds ≤ Numeral.significandLimit →
      Numeral.collect acc ds = (digitsValue acc ds, 0) := by
  induction ds with
  | nil => exact fun _ _ ↦ rfl
  | cons d ds ih =>
    intro acc h
    have hnext : acc * 10 + digitValue d ≤ Numeral.significandLimit :=
      Nat.le_trans (le_digitsValue ds _) h
    rw [Numeral.collect, if_pos hnext]
    exact ih _ h

/-- The digits of a number of 64 bits are read as that number. -/
theorem value?_digits {n : Nat} (h : n < Word.limit64) :
    Numeral.value? ⟨false, Decimal.digits n, [], none⟩ = some (.unsigned n) := by
  have hvalue := Decimal.digitsValue_digits n
  have hcollect : Numeral.collect 0 (Decimal.digits n) = (n, 0) := by
    rw [collect_of_le _ 0 (by rw [hvalue]; exact Nat.le_sub_one_of_lt h), hvalue]
  simp only [Numeral.value?, hcollect]
  rfl

/-- A written number below the bound is read back. -/
theorem natBelow_nat {bound n room : Nat} (h : n < bound) (hbound : bound ≤ Word.limit64) :
    natBelow bound room (.nat n) = some n := by
  have hplain : Value.nat n = .num ⟨false, Decimal.digits n, [], none⟩ := by
    rw [Value.nat, Value.int, Int.natAbs_natCast, decide_eq_false (by omega)]
  rw [hplain, natBelow, value?_digits (Nat.lt_of_lt_of_le h hbound)]
  exact if_pos h

/-- A time field is read back unless it holds a time outside the years 0 to 9999. -/
theorem optionalTime_timeText (t : Option Instant) (room : Nat) :
    optionalTime room (.text (Cursor.timeText t)) =
      if ∀ time ∈ t, time.HasPlainYear then some t else none := by
  cases t with
  | none => rfl
  | some t =>
    have hread : ∀ s : String, s ≠ "" →
        optionalTime room (.text s) = (Instant.parse? s).map some := by
      intro s hs
      have hoption : option string room (.text s) = some (some s) := rfl
      rw [optionalTime, hoption]
      simp only [Option.bind_eq_bind, Option.bind_some]
      cases Instant.parse? s <;> simp
    show optionalTime room (.text t.text) = _
    rw [hread _ t.text_ne_empty, Instant.parse?_text]
    by_cases h : t.HasPlainYear <;> simp [h]

end AuditFeed.Json

namespace AuditFeed.Cursor

open Json

/-- Are the times of a cursor of the years 0 to 9999? -/
def HasPlainTimes (c : Cursor) : Prop :=
  (∀ t ∈ c.latestSeen, t.HasPlainYear) ∧ ∀ t ∈ c.startAt, t.HasPlainYear

instance (c : Cursor) : Decidable c.HasPlainTimes :=
  inferInstanceAs (Decidable (_ ∧ _))

/-- A cursor is written in texts and numbers that come back as they are. -/
theorem isPlain_toJson (c : Cursor) : c.toJson.IsPlain := by
  refine ⟨trivial, trivial, trivial, ⟨(c.pageSize.toNat : Int), rfl⟩, trivial⟩

/-- **The value of a cursor is read back** exactly if its times are of the years 0 to 9999. -/
theorem cursor_toJson (c : Cursor) :
    Json.cursor maxDepth c.toJson = if c.HasPlainTimes then some c else none := by
  have hrecord : record ["latest_event_seen", "next_page_token", "start_at", "page_size"]
      c.toJson = some ⟨[some (.text (timeText c.latestSeen)), some (.text c.pageToken),
        some (.text (timeText c.startAt)), some (.nat c.pageSize.toNat)], false⟩ := by
    rfl
  have hsize : mapped UInt32.ofNat (natBelow Word.limit32) 126 (.nat c.pageSize.toNat) =
      some c.pageSize := by
    have hlt : c.pageSize.toNat < Word.limit32 := c.pageSize.toNat_lt
    rw [mapped, natBelow_nat hlt (by decide), Option.map_some, UInt32.ofNat_toNat]
  have hpage : string 126 (.text c.pageToken) = some c.pageToken := rfl
  have hlatest := optionalTime_timeText c.latestSeen 126
  have hstart := optionalTime_timeText c.startAt 126
  rw [Json.cursor, maxDepth, ofRecord_of_record hrecord]
  simp only [Record.defaulted, Record.value]
  -- Reading stops at the first field that does not fit.
  by_cases hl : ∀ t ∈ c.latestSeen, t.HasPlainYear
  · rw [if_pos hl] at hlatest
    by_cases hs : ∀ t ∈ c.startAt, t.HasPlainYear
    · rw [if_pos hs] at hstart
      rw [if_pos ⟨hl, hs⟩]
      simp [hlatest, hpage, hstart, hsize]
    · rw [if_neg hs] at hstart
      rw [if_neg fun h ↦ hs h.2]
      simp [hlatest, hpage, hstart]
  · rw [if_neg hl] at hlatest
    rw [if_neg fun h ↦ hl h.1]
    simp [hlatest]

/-! ### Tokens -/

/-- The empty token is the cursor with which a feed starts. -/
theorem decode_empty : decode "" = .ok initial := rfl

/-- A token is written in Base64, character by character. -/
theorem toList_encode (c : Cursor) :
    c.encode.toList = Base64.encode (Text.utf8 c.toJson.chars) :=
  String.toList_ofList

theorem encode_toJson_ne_nil (c : Cursor) : Base64.encode (Text.utf8 c.toJson.chars) ≠ [] := by
  intro hnil
  obtain ⟨cs, hcs⟩ : ∃ cs, c.toJson.chars = '\x7b' :: cs := ⟨_, rfl⟩
  have hlen := Base64.length_utf8_encode (Text.utf8 c.toJson.chars)
  have hbytes : Text.utf8 c.toJson.chars = 0x7b :: Text.utf8 cs := by
    rw [hcs]
    rfl
  rw [hnil, hbytes, List.length_cons] at hlen
  have hzero : (Text.utf8 []).length = 0 := rfl
  omega

/-- A token is not touched by the reading away of blanks, and it is never the empty one. -/
theorem trimChars_encode (c : Cursor) :
    Text.trimChars c.encode.toList = Base64.encode (Text.utf8 c.toJson.chars) := by
  rw [toList_encode]
  exact Text.trimChars_of_not_blank fun _ h ↦ Base64.isBlank_of_mem_encode h

/-- What is said of a token whose record does not fit. -/
def misfit : SyncError :=
  malformed (Json.Error.mismatch none).message

/-- **A token decodes to its cursor, and to no other.** A cursor with a time outside the years 0 to
9999 has a token too, which is refused. -/
theorem decode_encode (c : Cursor) :
    decode c.encode = if c.HasPlainTimes then .ok c else .error misfit := by
  have hparse : Json.cursor.parseBytes (Text.utf8 c.toJson.chars) =
      if c.HasPlainTimes then .ok c else .error (.mismatch none) := by
    rw [Decoder.parseBytes, parseBytes_utf8_chars (isPlain_toJson c)]
    show Json.cursor.run c.toJson = _
    rw [Decoder.run, cursor_toJson]
    by_cases h : c.HasPlainTimes
    · rw [if_pos h, if_pos h]
    · rw [if_neg h, if_neg h]
  rw [decode, trimChars_encode]
  split
  · rename_i hempty
    exact absurd hempty (encode_toJson_ne_nil c)
  · rw [Base64.decode_utf8_encode]
    simp only [hparse]
    by_cases h : c.HasPlainTimes
    · rw [if_pos h, if_pos h]
    · rw [if_neg h, if_neg h, misfit]

/-! ### Blanks around a token -/

/-- A text with these characters in front of it and behind it. -/
def padded (front back : List Char) (token : String) : String :=
  String.ofList (front ++ token.toList ++ back)

/-- Blanks around a token do not count. -/
theorem decode_padded {front back : List Char} (hfront : ∀ c ∈ front, Text.isBlank c = true)
    (hback : ∀ c ∈ back, Text.isBlank c = true) (token : String) :
    decode (padded front back token) = decode token := by
  rw [decode, decode, padded, String.toList_ofList, Text.trimChars_append hfront hback]

/-- **The round trip of cursor tokens.** Every cursor has a token. If its times, as far as there are
any, are of the years 0 to 9999, the token decodes to the cursor as it was: any nanosecond, leap
seconds, any text for a page token and any page size. If one of them is of another year, the token
is refused as an invalid argument. Blanks around the token change neither. -/
theorem decode_padded_encode {front back : List Char}
    (hfront : ∀ c ∈ front, Text.isBlank c = true) (hback : ∀ c ∈ back, Text.isBlank c = true)
    (c : Cursor) :
    (c.HasPlainTimes → decode (padded front back c.encode) = .ok c) ∧
    (¬ c.HasPlainTimes →
      ∃ e, decode (padded front back c.encode) = .error e ∧ e.kind = .invalidArgument) := by
  rw [decode_padded hfront hback, decode_encode]
  refine ⟨fun h ↦ if_pos h, fun h ↦ ⟨misfit, if_neg h, rfl⟩⟩

/-- A cursor in the last leap second of the year 9999, with a page token that needs escapes and
has characters of every width. -/
def lastLeapSecond : Cursor where
  latestSeen := Instant.ofParts? 253402300799 1999999999
  pageToken := "\\\"\x01é€😀 "
  startAt := none
  pageSize := 4294967295

/-- The cursor after it, of the year 10000. -/
def afterLast : Cursor :=
  { lastLeapSecond with latestSeen := Instant.ofSeconds? 253402300800 }

/-- The one comes back from between blanks, and the other does not. -/
theorem decode_padded_encode_lastLeapSecond :
    lastLeapSecond.HasPlainTimes ∧ ¬ afterLast.HasPlainTimes ∧
      decode (padded ['\u3000', '\n'] ['\t'] lastLeapSecond.encode) = .ok lastLeapSecond ∧
      ∃ e, decode (padded ['\u3000', '\n'] ['\t'] afterLast.encode) = .error e ∧
        e.kind = .invalidArgument := by
  have hfront : ∀ c ∈ ['\u3000', '\n'], Text.isBlank c = true :=
    List.all_eq_true.1 rfl
  have hback : ∀ c ∈ ['\t'], Text.isBlank c = true :=
    List.all_eq_true.1 rfl
  have hplain : lastLeapSecond.HasPlainTimes := by decide +kernel
  have hnot : ¬ afterLast.HasPlainTimes := by decide +kernel
  exact ⟨hplain, hnot, (decode_padded_encode hfront hback lastLeapSecond).1 hplain,
    (decode_padded_encode hfront hback afterLast).2 hnot⟩

end AuditFeed.Cursor
