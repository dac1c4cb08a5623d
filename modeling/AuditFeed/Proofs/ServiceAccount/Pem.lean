import AuditFeed.Proofs.Base64
import AuditFeed.ServiceAccount.Pem
import Mathlib.Data.Option.Basic

/-!
# Documents in PEM form

A document that is written as Base64 between two lines is read as its name and its bytes
(`Pem.parse_armored`). It is the form that the key of an account comes in, and this statement makes
the bytes of a concrete key known without a search through its text.

## Finding a mark

The reader looks for a mark by going along the text and starting over where a match breaks off. The
marks of the two lines begin with a dash, and neither the name nor the Base64 has one, so each mark
is found where it was put and nowhere before (`Pem.splitAt_append`): up to there no match begins at
all, and the question of where to start over does not come up.

## Between the lines

The break in front of the Base64 is left out (`Pem.dropWhile_isBreak_encode`), no header is found
(`Pem.splitHeader_encode`), and the break behind is a blank that Base64 is read without. For each of
these it is enough to know which characters Base64 is written with.

## Main statements

* `Pem.parse_armored`: a document is read as its name and its bytes.
-/

namespace AuditFeed.Pem

/-! ### Finding a mark -/

variable {mark : String} {m : Char} {ms s t : List Char}

/-- The rest of a mark is read to its end. -/
theorem splitFrom_append_self (mark found left t : List Char) :
    splitFrom mark found left (left ++ t) = some ([], t) := by
  induction left generalizing found with
  | nil => cases t <;> rfl
  | cons m left ih => rw [List.cons_append, splitFrom, if_pos rfl, ih]

/-- A mark is not found within a text that does not have its first character. -/
theorem splitFrom_append (h : m ∉ s) (t : List Char) :
    splitFrom (m :: ms) [] (m :: ms) (s ++ t) =
      (splitFrom (m :: ms) [] (m :: ms) t).map fun p ↦ (s ++ p.1, p.2) := by
  induction s with
  | nil => simp
  | cons c s ih =>
    obtain ⟨hc, hs⟩ := not_or.1 (mt List.mem_cons.2 h)
    rw [List.cons_append, splitFrom, if_neg (Ne.symm hc), ih hs, Option.map_map]
    rfl

/-- A mark is found behind a text without its first character. -/
theorem splitAt_append (hmark : mark.toList = m :: ms) (h : m ∉ s) :
    splitAt mark (s ++ (mark.toList ++ t)) = some (s, t) := by
  rw [splitAt, hmark, splitFrom_append h, splitFrom_append_self]
  simp

/-- A mark of two characters or more is not found where its first one stands only at the end. -/
theorem splitAt_append_singleton (hmark : mark.toList = m :: ms) (hms : ms ≠ []) (h : m ∉ s)
    (c : Char) : splitAt mark (s ++ [c]) = none := by
  obtain ⟨n, ns, rfl⟩ := List.exists_cons_of_ne_nil hms
  rw [splitAt, hmark, splitFrom_append h, Option.map_eq_none_iff, splitFrom]
  split <;> rfl

/-! ### Whole documents -/

/-- A symbol is neither a dash nor a break. -/
theorem symbol_ne : ∀ n < 64, Base64.symbol n ≠ '-' ∧ isBreak (Base64.symbol n) = false := by
  decide +kernel

/-- Base64 holds neither a dash nor a break. -/
theorem not_mem_encode {c : Char} (hc : c = '-' ∨ isBreak c = true) (bytes : List UInt8) :
    c ∉ Base64.encode bytes := by
  intro h
  have hne : c ≠ '-' ∧ isBreak c = false :=
    Base64.of_mem_encode (P := fun c ↦ c ≠ '-' ∧ isBreak c = false) symbol_ne (by decide) h
  rcases hc with hc | hc
  · exact hne.1 hc
  · exact Bool.false_ne_true (hne.2.symm.trans hc)

/-- The breaks in front of the Base64 are left out, and none of it. -/
theorem dropWhile_isBreak_encode {bytes : List UInt8} (hbytes : bytes ≠ []) (t : List Char) :
    ('\n' :: (Base64.encode bytes ++ t)).dropWhile isBreak = Base64.encode bytes ++ t := by
  obtain ⟨c, cs, hcs⟩ := List.exists_cons_of_ne_nil (Base64.encode_ne_nil hbytes)
  have hc : ¬ isBreak c = true := fun hc ↦
    not_mem_encode (.inr hc) bytes (hcs ▸ List.mem_cons_self)
  rw [List.dropWhile_cons_of_pos rfl, hcs, List.cons_append, List.dropWhile_cons_of_neg hc]

/-- Base64 in one line has no header in front. -/
theorem splitHeader_encode (bytes : List UInt8) :
    splitHeader (Base64.encode bytes ++ ['\n']) = ([], Base64.encode bytes ++ ['\n']) := by
  have hfeed : '\n' ∉ Base64.encode bytes := not_mem_encode (.inr rfl) bytes
  have hreturn : '\r' ∉ Base64.encode bytes := not_mem_encode (.inr rfl) bytes
  rw [splitHeader, splitAt_append_singleton (m := '\n') rfl (by decide) hfeed,
    splitAt_append_singleton (m := '\r') rfl (by decide) hreturn]
  rfl

/-- Of a line of Base64 only the break at its end is left out. -/
theorem filter_isBlank_encode (bytes : List UInt8) :
    (Base64.encode bytes ++ ['\n']).filter (!Text.isBlank ·) = Base64.encode bytes := by
  have hkept : (Base64.encode bytes).filter (!Text.isBlank ·) = Base64.encode bytes :=
    List.filter_eq_self.2 fun c hc ↦ by simp [Base64.isBlank_of_mem_encode hc]
  rw [List.filter_append, hkept]
  exact List.append_nil _

/-- A document in PEM form, with all of its Base64 in one line. -/
def armored (name : List Char) (bytes : List UInt8) : List Char :=
  "-----BEGIN ".toList ++ (name ++ ("-----".toList ++ '\n' :: (Base64.encode bytes ++
    '\n' :: ("-----END ".toList ++ (name ++ ("-----".toList ++ ['\n']))))))

/-- **A document in PEM form is read as its name and its bytes.** -/
theorem parse_armored {name : List Char} (hname : '-' ∉ name) (hne : name ≠ [])
    {bytes : List UInt8} (hbytes : bytes ≠ []) :
    parse (armored name bytes) = some (String.ofList name, bytes) := by
  have hbegin (t : List Char) : splitAt "-----BEGIN " ("-----BEGIN ".toList ++ t) = some ([], t) :=
    splitAt_append (s := []) (m := '-') rfl List.not_mem_nil
  have hdashes (t : List Char) : splitAt "-----" (name ++ ("-----".toList ++ t)) = some (name, t) :=
    splitAt_append rfl hname
  have hbody (t : List Char) : splitAt "-----END "
      (('\n' :: (Base64.encode bytes ++ '\n' :: ("-----END ".toList ++ t))).dropWhile isBreak) =
        some (Base64.encode bytes ++ ['\n'], t) := by
    have hdash : '-' ∉ Base64.encode bytes ++ ['\n'] := by
      rw [List.mem_append, List.mem_singleton]
      exact not_or.2 ⟨not_mem_encode (.inl rfl) bytes, by decide⟩
    rw [dropWhile_isBreak_encode hbytes, List.append_cons]
    exact splitAt_append rfl hdash
  unfold armored
  rw [parse, hbegin]
  simp only [Option.bind_eq_bind, Option.bind_some, hdashes, hbody, splitHeader_encode,
    filter_isBlank_encode, Base64.decode_utf8_encode]
  have hlines : (headerLines []).all isHeaderLine = true := by decide
  have hsame : (!name.isEmpty && name == name) = true := by simpa using hne
  rw [hlines, hsame]
  rfl

end AuditFeed.Pem
