import AuditFeed.Proofs.Base64
import AuditFeed.Proofs.Json.Text
import AuditFeed.Proofs.Text.Form
import AuditFeed.ServiceAccount.Grant

/-!
# Whom an assertion names

The token endpoint takes an assertion apart: the second of its three parts is the claims, as JSON in
the URL form of Base64, and the member `sub` is the admin on whose behalf the account asks. Read in
this way, the request for a token names the admin that the account was told of, character by
character (`ServiceAccount.subject?_of_tokenRequest`).

## Layers

The layers come off one at a time, as they do for a cursor's token: the form, the parts, Base64 and
UTF-8, JSON, and the member. Each layer is read by a function that was proved to read back what is
written, for all texts, so nothing is asked of the admin's name: blanks, quotes and signs of other
alphabets come through.

## The URL form

The URL form of Base64 differs from the standard one in two symbols and in leaving the padding out.
So it is read by putting both back (`ServiceAccount.urlBytes?`): the symbols one by one, and as much
padding as the length is short of a multiple of four.

## Main statements

* `ServiceAccount.urlBytes?_urlBase64`: the URL form is read back.
* `ServiceAccount.subjectOf?_of_assertion`: whom an assertion names.
* `ServiceAccount.subject?_of_tokenRequest`: whom a request for a token names.
-/

namespace AuditFeed

namespace ServiceAccount

/-! ### The URL form of Base64 -/

/-- A symbol of the URL form as the symbol of the standard form. -/
def standardSymbol (c : Char) : Char :=
  if c = '-' then '+' else if c = '_' then '/' else c

/-- The bytes that a text in the URL form writes, which leaves the padding out. -/
def urlBytes? (s : List Char) : Option (List UInt8) :=
  let text := Text.utf8 (s.map standardSymbol)
  (Base64.decode (text ++ List.replicate ((4 - text.length % 4) % 4) Base64.padByte)).toOption

/-- A symbol of the standard form as the symbol of the URL form. -/
def urlSymbol (c : Char) : Char :=
  if c = '+' then '-' else if c = '/' then '_' else c

/-- Each symbol is had back from its URL form. -/
theorem standardSymbol_urlSymbol :
    ∀ n < 64, standardSymbol (urlSymbol (Base64.symbol n)) = Base64.symbol n := by
  decide +kernel

/-- No symbol of the URL form is the dot that stands between parts. -/
theorem urlSymbol_ne_dot : ∀ n < 64, urlSymbol (Base64.symbol n) ≠ '.' := by
  decide +kernel

theorem symbol_ne_pad : ∀ n < 64, Base64.symbol n ≠ Base64.pad := by
  decide +kernel

/-- The URL form is the standard form up to its padding, symbol by symbol. -/
theorem exists_urlBase64_eq (bs : List UInt8) :
    ∃ symbols k, Base64.encode bs = symbols ++ List.replicate k Base64.pad ∧ k < 3 ∧
      (∀ c ∈ symbols, ∃ n < 64, c = Base64.symbol n) ∧ urlBase64 bs = symbols.map urlSymbol := by
  obtain ⟨symbols, k, heq, hk, hsymbols⟩ := Base64.exists_encode_eq bs
  have hkept : symbols.filter (· != Base64.pad) = symbols := List.filter_eq_self.2 fun c hc ↦ by
    obtain ⟨n, hn, rfl⟩ := hsymbols c hc
    exact bne_iff_ne.2 (symbol_ne_pad n hn)
  have hdropped : (List.replicate k Base64.pad).filter (· != Base64.pad) = [] :=
    List.filter_eq_nil_iff.2 fun c hc ↦ by
      rw [(List.mem_replicate.1 hc).2]
      simp
  refine ⟨symbols, k, heq, hk, hsymbols, ?_⟩
  rw [urlBase64, heq, List.filter_append, hkept, hdropped, List.append_nil]
  rfl

/-- A part of an assertion is not split. -/
theorem dot_not_mem_urlBase64 (bs : List UInt8) : '.' ∉ urlBase64 bs := by
  obtain ⟨symbols, k, -, -, hsymbols, hurl⟩ := exists_urlBase64_eq bs
  intro h
  rw [hurl] at h
  obtain ⟨c, hc, hdot⟩ := List.mem_map.1 h
  obtain ⟨n, hn, rfl⟩ := hsymbols c hc
  exact urlSymbol_ne_dot n hn hdot

theorem utf8_replicate_pad (k : Nat) :
    Text.utf8 (List.replicate k Base64.pad) = List.replicate k Base64.padByte := by
  induction k with
  | zero => rfl
  | succ k ih => rw [List.replicate_succ, Base64.utf8_pad_cons, ih, List.replicate_succ]

/-- **The URL form is read back**: the length tells how much padding was left out. -/
theorem urlBytes?_urlBase64 (bs : List UInt8) : urlBytes? (urlBase64 bs) = some bs := by
  obtain ⟨symbols, k, heq, hk, hsymbols, hurl⟩ := exists_urlBase64_eq bs
  have hback : (urlBase64 bs).map standardSymbol = symbols := by
    rw [hurl, List.map_map]
    refine (List.map_congr_left fun c hc ↦ ?_).trans (List.map_id symbols)
    obtain ⟨n, hn, rfl⟩ := hsymbols c hc
    exact standardSymbol_urlSymbol n hn
  have htext : Text.utf8 (Base64.encode bs) =
      Text.utf8 symbols ++ List.replicate k Base64.padByte := by
    rw [heq, ← utf8_replicate_pad]
    exact List.flatMap_append
  have hlength := Base64.length_utf8_encode bs
  rw [htext, List.length_append, List.length_replicate] at hlength
  have hpadding : (4 - (Text.utf8 symbols).length % 4) % 4 = k := by omega
  rw [urlBytes?, hback, hpadding, ← htext, Base64.decode_utf8_encode]
  rfl

/-! ### Reading an assertion -/

/-- The admin that claims name. -/
def subjectDecoder : Json.Decoder String :=
  Json.ofRecord ["sub"] fun room r ↦ r.required room 0 Json.string

/-- The admin that an assertion names. -/
def subjectOf? (assertion : String) : Option String := do
  let [_, claims, _] := assertion.toList.splitOn '.' | none
  let bytes ← urlBytes? claims
  (subjectDecoder.parseBytes bytes).toOption

variable {ω : Type} {a : ServiceAccount ω} {scope assertion : String} {now : Instant}

theorem isPlain_claims (key : ServiceAccountKey) (subject scope : String) (now : Instant) :
    (claims key subject scope now).IsPlain :=
  ⟨trivial, trivial, trivial, trivial, Json.isPlain_int _, Json.isPlain_int _, trivial⟩

/-- An assertion has three parts: the header, the claims and the signature. -/
theorem exists_splitOn_of_assertion (h : a.assertion scope now = .ok assertion) :
    ∃ signature, assertion.toList.splitOn '.' = [urlBase64 (Text.utf8 (header a.key).chars),
      urlBase64 (Text.utf8 (claims a.key a.subject scope now).chars), urlBase64 signature] := by
  rw [ServiceAccount.assertion] at h
  split at h
  · rename_i signature _
    cases h
    refine ⟨signature, ?_⟩
    have hjoined (x y z : List Char) : x ++ '.' :: y ++ '.' :: z = ['.'].intercalate [x, y, z] := by
      simp [List.intercalate]
    rw [String.toList_ofList, unsigned, hjoined]
    refine List.splitOn_intercalate '.' (fun part hpart ↦ ?_) (List.cons_ne_nil _ _)
    simp only [List.mem_cons, List.not_mem_nil, or_false] at hpart
    rcases hpart with rfl | rfl | rfl <;> exact dot_not_mem_urlBase64 _
  · cases h

/-- **An assertion names the admin of its account.** -/
theorem subjectOf?_of_assertion (h : a.assertion scope now = .ok assertion) :
    subjectOf? assertion = some a.subject := by
  obtain ⟨signature, hparts⟩ := exists_splitOn_of_assertion h
  have hclaims : subjectDecoder.parseBytes
      (Text.utf8 (claims a.key a.subject scope now).chars) = .ok a.subject := by
    rw [Json.Decoder.parseBytes, Json.parseBytes_utf8_chars (isPlain_claims _ _ _ _)]
    rfl
  rw [subjectOf?, hparts]
  dsimp only
  rw [urlBytes?_urlBase64, Option.bind_eq_bind, Option.bind_some, hclaims]
  rfl

end ServiceAccount

/-- The admin that a request for a token names. -/
def Http.Request.subject? (request : Http.Request) : Option String :=
  match request.body with
  | .text form =>
    ((Text.Form.decode form.toList).lookup "assertion").bind ServiceAccount.subjectOf?
  | _ => none

namespace ServiceAccount

variable {ω : Type} {a : ServiceAccount ω} {scope assertion : String} {now : Instant}

/-- **A request for a token names the admin that the account was told of**, as it was told. -/
theorem subject?_of_tokenRequest {request : Http.Request}
    (hassertion : a.assertion scope now = .ok assertion)
    (hrequest : tokenRequest a.key assertion = .ok request) :
    request.subject? = some a.subject := by
  rw [tokenRequest] at hrequest
  split at hrequest
  · cases hrequest
    rw [Http.Request.subject?]
    dsimp only
    rw [String.toList_ofList, Text.Form.decode_encode]
    exact subjectOf?_of_assertion hassertion
  · cases hrequest

end ServiceAccount

end AuditFeed
