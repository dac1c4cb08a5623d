import AuditFeed.Proofs.Moves

/-!
# What asking for a URL sends

Asking for a URL sends requests for tokens and requests for that URL, and nothing else
(`Provider.exists_notes_fetch`). Whatever is then told of the URL was asked for: a result that comes
from a response has at least one request for the URL before it. What is made of the response sends
nothing.

## Results that were heard

Not every result needs a request. The token may be missing, its secret may fit in no header, and the
network may fail or be given up, all of which say nothing of the URL. `IsHeard` holds of the other
results, which are those that a response was read into: a value, or an error of the provider's.

An error that is not of the provider is no statement about the URL, so `IsHeard` leaves it out, also
where a response was there and could not be read. That an earlier part of the call gives no such
result is said part by part (`not_isHeard_authorized`, `not_isHeard_send`), and then only the
reading is left.

## Why the notes and not the trace

What is noted is told with `Session.Notes`, in which the work of one part is put behind that of the
part before it. The requests for tokens come first and are told apart by their method alone, so
nothing has to be known about the endpoint that they are sent to.

That tokens come from a `TokenSupply` is a hypothesis, since of any other source it is not known
what it sends.
-/

namespace AuditFeed

variable {ω α : Type}

open Call

/-- Does this request ask for a URL? -/
def Http.Request.Gets (request : Http.Request) (url : Url) : Prop :=
  request.method = "GET" ∧ request.url = url

namespace Provider

/-- What may be sent to ask for a URL: requests for tokens, and requests for the URL. -/
def MayFetch (url : Url) (request : Http.Request) : Prop :=
  request.method = "POST" ∨ request.Gets url

/-- Does the result come from a response, be it an error of the provider's? -/
def IsHeard : Except RequestError α → Prop
  | .ok _ | .error (.api _) => True
  | .error _ => False

/-- Where there is no token, nothing is heard of the URL. -/
theorem not_isHeard_authorized {p : Provider ω} {grant : Grant} {url : Url} {s t : Session ω}
    {e : RequestError} (h : (p.authorized grant url).Fails s e t) :
    ¬ IsHeard (.error e : Except RequestError α) := by
  rw [authorized] at h
  rcases fails_bind.1 h with h | ⟨secret, u, -, h⟩
  · obtain ⟨e', rfl, -⟩ := fails_mapError.1 h
    exact id
  · dsimp only at h
    split at h
    · exact absurd h fails_pure
    · obtain ⟨rfl, -⟩ := fails_throw.1 h
      exact id

/-- Where there is no response, neither. -/
theorem not_isHeard_send {net : Network ω} {policy : RetryPolicy} {request : Http.Request}
    {s t : Session ω} {e : RequestError} (h : (net.send policy request).Fails s e t) :
    ¬ IsHeard (.error e : Except RequestError α) := by
  obtain ⟨n, r, u, hends⟩ : ∃ n r t, net.Ends policy request s n r t := Network.exists_ends
  cases h.symm.trans hends.outcome_send
  cases hends <;> exact id

/-- **What is noted of asking for a URL**: requests for tokens and requests for the URL, and at
least one of these if the result comes from a response. -/
theorem exists_notes_fetch {p : Provider ω} {tokens : TokenSupply ω}
    (htokens : p.tokens = tokens.source) {d : Json.Document α} {grant : Grant} {url : Url}
    {s t : Session ω} {r : Except RequestError α}
    (h : (p.fetch d grant url).outcome s = .ok (r, t)) :
    ∃ work, Session.Notes (MayFetch url) s t work ∧
      (IsHeard r → ∃ request, .attempt request ∈ work ∧ request.Gets url) := by
  have hsource : ∀ scope, (p.tokens scope).Takes (Session.Move (MayFetch url) fun _ _ ↦ True) := by
    rw [htokens]
    exact tokens.takes_source fun request hpost ↦ .inl hpost
  rw [fetch, outcome_bind] at h
  rcases hrequest : (p.authorized grant url).outcome s with o | ⟨e | request, u⟩
  · rw [hrequest] at h
    cases h
  · rw [hrequest] at h
    cases h
    obtain ⟨work, hwork⟩ := Session.exists_notes_of_moves
      (takes_authorized hsource grant url s _ t hrequest)
    exact ⟨work, hwork, fun hr ↦ absurd hr (not_isHeard_authorized hrequest)⟩
  · rw [hrequest] at h
    dsimp only at h
    rw [outcome_bind] at h
    have hgets : request.Gets url := returns_authorized hrequest
    obtain ⟨before, hbefore⟩ := Session.exists_notes_of_moves
      (takes_authorized hsource grant url s _ u hrequest)
    rcases hresponse : (p.network.send p.policy request).outcome u with o | ⟨e | response, v⟩
    · rw [hresponse] at h
      cases h
    · rw [hresponse] at h
      cases h
      obtain ⟨course, hcourse, -⟩ := Network.notes_send hresponse
      exact ⟨_, hbefore.trans (hcourse.mono fun _ heq ↦ .inr (heq ▸ hgets)),
        fun hr ↦ absurd hr (not_isHeard_send hresponse)⟩
    · rw [hresponse] at h
      obtain ⟨course, hcourse, hattempt⟩ := Network.notes_send hresponse
      have hread : Relation.ReflTransGen (Session.Move (MayFetch url) fun _ _ ↦ True) v t :=
        takes_readResponse _ response v _ t h
      obtain ⟨after, hafter⟩ := Session.exists_notes_of_moves hread
      refine ⟨_, (hbefore.trans (hcourse.mono fun _ heq ↦ .inr (heq ▸ hgets))).trans hafter,
        fun _ ↦ ⟨request, ?_, hgets⟩⟩
      exact List.mem_append_left _ (List.mem_append_right _ (hattempt response rfl))

/-- Looking up an entry at an address that is a URL asks for that URL. -/
theorem exists_notes_lookup {p : Provider ω} {tokens : TokenSupply ω}
    (htokens : p.tokens = tokens.source) {grant : Grant} {raw : String} {url : Url}
    (hurl : Url.parse raw = .ok url) {s t : Session ω} {r : Except RequestError Lookup}
    (h : (p.lookup grant raw).outcome s = .ok (r, t)) :
    ∃ work, Session.Notes (MayFetch url) s t work ∧
      ∀ answer, r = .ok answer → ∃ request, .attempt request ∈ work ∧ request.Gets url := by
  rw [lookup, requestUrl, hurl, outcome_bind, outcome_pure] at h
  dsimp only at h
  rw [outcome_bind, outcome_attempt] at h
  rcases hfetch : (p.fetch Json.directoryEntry grant url).outcome s with o | ⟨answer, u⟩
  · rw [hfetch] at h
    cases h
  · rw [hfetch] at h
    obtain ⟨work, hwork, hheard⟩ := exists_notes_fetch htokens hfetch
    -- What is left is to interpret the answer, which does nothing.
    dsimp only [Except.map] at h
    split at h
    · cases h
      exact ⟨work, hwork, fun _ _ ↦ hheard trivial⟩
    · split at h
      · cases h
        exact ⟨work, hwork, fun _ _ ↦ hheard trivial⟩
      · cases h
        exact ⟨work, hwork, fun _ hfound ↦ absurd hfound (by simp)⟩
    · cases h
      exact ⟨work, hwork, fun _ hfound ↦ absurd hfound (by simp)⟩

end Provider

end AuditFeed
