import AuditFeed.Proofs.Text.Part
import AuditFeed.Provider
import Mathlib.Data.List.TakeWhile

/-!
# The pairs of a URL

Pairs are added to a URL behind those that its query holds already, and are read back there as they
are (`Url.pairs_addPairs`). So a request for a page can be read for its pairs as they were asked
for, whatever the query of its address was.

## Where a query comes from

A query comes from a question mark in the text of a URL and from nothing else
(`Url.query_of_parse`). Reading a URL takes its text apart from the front (the scheme, the fragment,
the query), and none of these steps brings in a sign that was not there: what is cut off is a part
of what it is cut from.

The parts of an endpoint's address that are made here hold no question mark, so only the base of the
address can bring pairs of its own (`Endpoints.pairs_activities`).

## Main statements

* `Url.pairs_addPairs`: added pairs are read back.
* `Url.query_of_parse`: no query without a question mark.
-/

namespace AuditFeed

namespace Url

/-- The pairs that the query of a URL stands for. -/
def pairs (u : Url) : List (String × String) :=
  Text.Form.decode (u.query.getD [])

/-- Without a query there are no pairs. -/
theorem pairs_of_query_none {u : Url} (h : u.query = none) : u.pairs = [] := by
  rw [pairs, h]
  rfl

/-- **Added pairs are read back**, behind those that were there. -/
theorem pairs_addPairs (u : Url) (added : List (String × String)) :
    (u.addPairs added).pairs = u.pairs ++ added := by
  rw [pairs, pairs, addPairs]
  rcases u.query with _ | _ | ⟨c, q⟩
  · exact Text.Form.decode_encode added
  · exact Text.Form.decode_encode added
  · show Text.Form.decode ((c :: q ++ ['&']) ++ Text.Form.encode added) = _
    rw [List.append_assoc, List.singleton_append, Text.Form.decode_append_encode]
    rfl

/-! ### Where a query comes from -/

/-- What is behind the sign that a text is cut at is a part of the text. -/
theorem mem_of_mem_cut {stop : Char → Bool} {s rest : List Char} {c : Char}
    (h : (cut stop s).2 = some rest) (hc : c ∈ rest) : c ∈ s := by
  rw [cut] at h
  rcases hdrop : s.drop (s.takeWhile (!stop ·)).length with _ | ⟨d, behind⟩
  · rw [hdrop] at h
    cases h
  · rw [hdrop] at h
    cases h
    exact List.mem_of_mem_drop (hdrop ▸ List.mem_cons_of_mem d hc)

/-- Nothing is cut off at a sign that does not occur. -/
theorem cut_eq_of_not_mem {sign : Char} {s : List Char} (h : sign ∉ s) :
    cut (· == sign) s = (s, none) := by
  have hall : s.takeWhile (fun c ↦ !(c == sign)) = s := List.takeWhile_eq_self_iff.2 fun c hc ↦ by
    have hne : c ≠ sign := fun heq ↦ h (heq ▸ hc)
    simpa using hne
  rw [cut, hall, List.drop_length]
  rfl

theorem mem_of_mem_cleaned {s : List Char} {c : Char} (h : c ∈ cleaned s) : c ∈ s := by
  have hrest := List.mem_reverse.1 (List.mem_filter.1 h).1
  have hfront := List.mem_reverse.1 ((List.dropWhile_sublist _).subset hrest)
  exact (List.dropWhile_sublist _).subset hfront

/-- What follows the scheme is a part of the text. -/
theorem mem_of_mem_splitScheme {s scheme rest : List Char} {c : Char}
    (h : splitScheme s = .ok (scheme, rest)) (hc : c ∈ rest) : c ∈ s := by
  rw [splitScheme] at h
  split at h
  · rename_i d name behind hcut
    split at h
    · cases h
      exact mem_of_mem_cut (congrArg Prod.snd hcut) hc
    · cases h
  · cases h

/-- **A URL without a question mark has no query.** -/
theorem query_of_parse {raw : String} {u : Url} (h : parse raw = .ok u) (hraw : '?' ∉ raw.toList) :
    u.query = none := by
  rw [parse] at h
  rcases hscheme : splitScheme (cleaned raw.toList) with e | ⟨scheme, rest⟩
  · rw [hscheme] at h
    cases h
  · rw [hscheme] at h
    have hrest : '?' ∉ (cut (· == '#') rest).1 := fun hc ↦ by
      have hmem := (List.takeWhile_sublist _).subset hc
      exact hraw (mem_of_mem_cleaned (mem_of_mem_splitScheme hscheme hmem))
    have hnone := congrArg Prod.snd (cut_eq_of_not_mem hrest)
    change readHierarchy scheme _ _ _ >>= _ = .ok u at h
    rcases hplace : readHierarchy scheme _ _ _ with e | ⟨authority, path⟩
    · rw [hplace] at h
      cases h
    · rw [hplace] at h
      cases h
      show Option.map _ (cut (· == '?') (cut (· == '#') rest).1).2 = none
      rw [hnone]
      rfl

end Url

namespace Endpoints

/-- The address of a log brings pairs of its own only with its base. -/
theorem pairs_activities {e : Endpoints} (h : '?' ∉ e.base.toList) {application : String} {u : Url}
    (hu : Url.parse (e.activities application) = .ok u) : u.pairs = [] := by
  refine Url.pairs_of_query_none (Url.query_of_parse hu ?_)
  rw [activities, String.toList_append, String.toList_append, List.mem_append, List.mem_append]
  rintro ((hbase | hpath) | hname)
  · exact h hbase
  · exact absurd hpath (by decide)
  · exact Text.not_mem_encodePart rfl (by decide) hname

end Endpoints

end AuditFeed
