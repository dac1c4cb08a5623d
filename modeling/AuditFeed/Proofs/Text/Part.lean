import AuditFeed.Proofs.Text.Form

/-!
# Parts of a URL

A text that is written as one part of a URL is read back as that text, whatever it holds
(`percentDecode_encodePart`). Emails and names of logs are written into addresses in this way.

## What a part holds

What is written are letters, digits, four signs and the percent sign
(`isUnreserved_of_mem_encodePart`). Nothing that separates parts is among them, so a part stays one
part where it is put. But the dot is: a part of one or two dots is written as it is, and what such a
part means in a path is not up to the encoding.

## Encoding byte for byte

`percentBytes_percentEncode` is stated for any choice of characters to keep, as long as the percent
sign is not one of them: that sign as itself would be read as the beginning of a code.

## Main statements

* `percentDecode_encodePart`: a part is read back.
* `not_mem_encodePart`: which signs a part does not hold.
-/

namespace AuditFeed.Text

/-- **A text is encoded byte for byte**, as long as the percent sign is encoded too. -/
theorem percentBytes_percentEncode {keep : Char → Bool} (hkeep : keep '%' = false)
    (s : List Char) : percentBytes (percentEncode keep s) = utf8 s := by
  induction s with
  | nil => rfl
  | cons c s ih =>
    rw [utf8_cons, ← ih, percentEncode, List.flatMap_cons]
    split
    · rename_i hc
      refine percentBytes_cons_of_ne (fun h ↦ ?_) _
      rw [h, hkeep] at hc
      cases hc
    · exact percentBytes_flatMap_percentByte _ _

/-- **A part is read back.** -/
theorem percentDecode_encodePart (s : String) : percentDecode (encodePart s).toList = s.toList := by
  rw [encodePart, String.toList_ofList, percentDecode, decodeUtf8Lossy,
    percentBytes_percentEncode rfl, decodeUtf8_utf8]

/-- Different texts are different parts. -/
theorem encodePart_injective {s s' : String} (h : encodePart s = encodePart s') : s = s' := by
  have hchars := percentDecode_encodePart s
  rw [h, percentDecode_encodePart] at hchars
  exact (String.toList_inj.1 hchars).symm

/-- A part holds characters that may stand in any place, and percent signs. -/
theorem isUnreserved_of_mem_encodePart {s : String} {c : Char} (h : c ∈ (encodePart s).toList) :
    isUnreserved c = true ∨ c = '%' := by
  rw [encodePart, String.toList_ofList] at h
  obtain ⟨d, -, hd⟩ := List.mem_flatMap.1 h
  split at hd
  · rename_i hkeep
    exact .inl (List.mem_singleton.1 hd ▸ hkeep)
  · obtain ⟨b, -, hb⟩ := List.mem_flatMap.1 hd
    have hdigit : ∀ n < 16, isUnreserved (upperHexDigit n) = true := by decide
    have hlt : b.toNat < 256 := b.toNat_lt
    rw [percentByte, List.mem_cons, List.mem_cons, List.mem_singleton] at hb
    rcases hb with rfl | rfl | rfl
    · exact .inr rfl
    · exact .inl (hdigit _ (by omega))
    · exact .inl (hdigit _ (Nat.mod_lt _ (by decide)))

/-- A character that may stand in any place is a sign of ASCII that shows. -/
theorem toNat_of_isUnreserved {c : Char} (h : isUnreserved c = true) :
    0x20 < c.toNat ∧ c.toNat < 0x7F := by
  have hrange {low high : Char} (hlow : low.val ≤ c.val) (hhigh : c.val ≤ high.val)
      (hfirst : 0x20 < low.toNat) (hlast : high.toNat < 0x7F) : 0x20 < c.toNat ∧ c.toNat < 0x7F :=
    ⟨Nat.lt_of_lt_of_le hfirst (UInt32.le_iff_toNat_le.1 hlow),
      Nat.lt_of_le_of_lt (UInt32.le_iff_toNat_le.1 hhigh) hlast⟩
  simp only [isUnreserved, Char.isAlphanum, Bool.or_eq_true, beq_iff_eq] at h
  rcases h with ((((halpha | hdigit) | rfl) | rfl) | rfl) | rfl
  · rcases Bool.or_eq_true_iff.1 halpha with hupper | hlower
    · obtain ⟨hlow, hhigh⟩ := of_decide_eq_true hupper
      exact hrange hlow hhigh (by decide) (by decide)
    · obtain ⟨hlow, hhigh⟩ := Bool.and_eq_true_iff.1 hlower
      exact hrange (of_decide_eq_true hlow) (of_decide_eq_true hhigh) (by decide) (by decide)
  · obtain ⟨hlow, hhigh⟩ := Bool.and_eq_true_iff.1 hdigit
    exact hrange (of_decide_eq_true hlow) (of_decide_eq_true hhigh) (by decide) (by decide)
  all_goals decide

/-- A part is written in signs of ASCII that show. -/
theorem toNat_of_mem_encodePart {s : String} {c : Char} (h : c ∈ (encodePart s).toList) :
    0x20 < c.toNat ∧ c.toNat < 0x7F := by
  rcases isUnreserved_of_mem_encodePart h with h | rfl
  · exact toNat_of_isUnreserved h
  · decide

/-- A sign that is neither encoded nor of use for encoding is not written. -/
theorem not_mem_encodePart {s : String} {c : Char} (hc : isUnreserved c = false) (hne : c ≠ '%') :
    c ∉ (encodePart s).toList := fun h ↦ by
  rcases isUnreserved_of_mem_encodePart h with h | h
  · exact Bool.false_ne_true (hc.symm.trans h)
  · exact hne h


end AuditFeed.Text
