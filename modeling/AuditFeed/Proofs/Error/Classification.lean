import AuditFeed.Error.Sync

/-!
# What the caller is told of a failed request

What becomes of a failed request is a message, a kind, a rate limit and whether to try again. All
four are settled here for every failure and every context (`RequestError.classify_account`).

## Kinds

A failure carries a status if somebody answered: the provider, or the token endpoint that gave no
token. It is lost if there was no answer that could be used. Neither holds of a scope that is not
granted and of a key that is no good, and no failure is both, so these four cases settle the kind
(`RequestError.hasKind_iff`). They are stated as a relation, `RequestError.HasKind`, with one
constructor for each.

Whether the caller should try again then depends on one fact about the table of statuses: exactly
429 and the statuses from 500 to 599 other than 501 are told as a provider that is not available
(`ErrorKind.ofStatus_eq_unavailable_iff`).

## Messages

The message is the context and then a detail. A provider's error may say more in front of the
provider's own words, but they are always what it ends with (`ApiError.suffix_detail`).

## Main statements

* `ErrorKind.ofStatus_eq_unavailable_iff`: the statuses that may pass.
* `RequestError.hasKind_iff`: the kind of a failure.
* `RequestError.classify_account`: all that the caller is told.
-/

namespace AuditFeed

/-! ### Statuses that may pass -/

namespace ErrorKind

/-- Does a status tell of a trouble that may pass: too many requests, or a fault of the server other
than that it cannot do at all what was asked? -/
def IsPassing (status : Nat) : Prop :=
  status = 429 ∨ 500 ≤ status ∧ status ≤ 599 ∧ status ≠ 501

instance (status : Nat) : Decidable (IsPassing status) :=
  inferInstanceAs (Decidable (_ ∨ _))

/-- **The statuses that are told as unavailable** are those that may pass. -/
theorem ofStatus_eq_unavailable_iff {status : Nat} :
    ofStatus status = unavailable ↔ IsPassing status := by
  rw [IsPassing]
  fun_cases ofStatus status
  -- The last two cases are those of a status that is not in the table: the range decides.
  case case11 =>
    rename_i h501 hrange
    exact iff_of_true rfl (.inr ⟨hrange.1, hrange.2, h501⟩)
  case case12 =>
    rename_i h429 _ hrange
    exact iff_of_false nofun fun h ↦ h.elim h429 fun h ↦ hrange ⟨h.1, h.2.1⟩
  all_goals decide

/-- An overloaded server may recover; one that lacks the function will not. -/
example : ofStatus 503 = unavailable ∧ ofStatus 501 ≠ unavailable := by decide

/-- A caller should try again where the provider is not available, and only there. -/
theorem isRetryable_iff {k : ErrorKind} : k.isRetryable = true ↔ k = unavailable :=
  decide_eq_true_iff

end ErrorKind

/-! ### The message -/

/-- A message is its context, a colon and the detail, or the detail alone. -/
theorem withContext_eq (context detail : String) :
    withContext context detail = if context = "" then detail else context ++ ": " ++ detail := by
  rfl

/-- What is told of a provider's error ends with the provider's own words. -/
theorem ApiError.suffix_detail (e : ApiError) : e.message.toList <:+ e.detail.toList := by
  rw [detail]
  split
  · exact ⟨_, String.toList_append.symm⟩
  · split
    · exact ⟨_, String.toList_append.symm⟩
    · exact List.suffix_rfl

namespace RequestError

/-- What the caller is told of a failure, without the context. -/
def detail : RequestError → String
  | .api e => e.detail
  | e => e.text

/-- The message says what failed and then why. -/
theorem message_classify (e : RequestError) (context : String) :
    (e.classify context).message = withContext context e.detail := by
  cases e <;> rfl

/-! ### The kind -/

/-- The status that a failure carries: that of the provider's answer, or that of an answer of the
token endpoint. -/
def status? : RequestError → Option Nat
  | .api e => some e.status
  | .auth (.rejected status _) => some status
  | _ => none

/-- There was no answer that could be used, neither to the request nor to the one for its token. -/
inductive IsLost : RequestError → Prop
  /-- No response was received. -/
  | transport (e : TransportError) : IsLost (.transport e)
  /-- The response could not be read. -/
  | decode (e : Json.Error) : IsLost (.decode e)
  /-- The caller cancelled. -/
  | cancelled : IsLost .cancelled
  /-- The request for the token failed. -/
  | request (e : RequestError) : IsLost (.auth (.request e))

/-- **The kind of a failure.** -/
inductive HasKind : RequestError → ErrorKind → Prop
  /-- Somebody answered: the status tells. -/
  | answered {e : RequestError} {status : Nat} (h : e.status? = some status) :
      HasKind e (.ofStatus status)
  /-- The scope is not granted. -/
  | unauthorized (scope message : String) :
      HasKind (.auth (.unauthorized scope message)) .unauthenticated
  /-- The key is missing or unusable. -/
  | invalidKey (message : String) : HasKind (.auth (.invalidKey message)) .invalidArgument
  /-- Nobody gave a usable answer. -/
  | lost {e : RequestError} (h : e.IsLost) : HasKind e .unavailable

variable {e : RequestError} {kind : ErrorKind}

theorem IsLost.status?_eq_none (h : e.IsLost) : e.status? = none := by
  cases h <;> rfl

/-- A failure has the kind that the caller is told, and no other. -/
theorem hasKind_iff (context : String) : e.HasKind kind ↔ kind = (e.classify context).kind := by
  constructor
  · intro h
    cases h with
    | answered h =>
      match e, h with
      | .api _, rfl => rfl
      | .auth (.rejected _ _), rfl => rfl
    | unauthorized scope message => rfl
    | invalidKey message => rfl
    | lost h => cases h <;> rfl
  · rintro rfl
    cases e with
    | api e => exact .answered rfl
    | transport e => exact .lost (.transport e)
    | decode e => exact .lost (.decode e)
    | cancelled => exact .lost .cancelled
    | auth e =>
      cases e with
      | unauthorized scope message => exact .unauthorized scope message
      | rejected status message => exact .answered rfl
      | invalidKey message => exact .invalidKey message
      | request e => exact .lost (.request e)

/-- A kind to try again after comes from a lost answer, or from a status that may pass. -/
theorem HasKind.eq_unavailable_iff (h : e.HasKind kind) :
    kind = .unavailable ↔
      e.IsLost ∨ ∃ status, e.status? = some status ∧ ErrorKind.IsPassing status := by
  cases h with
  | answered h =>
    have hlost : ¬ e.IsLost := fun hlost ↦ by
      rw [hlost.status?_eq_none] at h
      cases h
    simp [ErrorKind.ofStatus_eq_unavailable_iff, hlost, h]
  | unauthorized scope message =>
    refine ⟨fun h ↦ ?_, ?_⟩
    · cases h
    · rintro (⟨⟨⟩⟩ | ⟨_, ⟨⟩, _⟩)
  | invalidKey message =>
    refine ⟨fun h ↦ ?_, ?_⟩
    · cases h
    · rintro (⟨⟨⟩⟩ | ⟨_, ⟨⟩, _⟩)
  | lost h => exact iff_of_true rfl (.inl h)

/-! ### The whole -/

/-- **What a failed request becomes**, whatever failed and whatever the context is.

* The message is the context, a colon and a detail, or the detail alone where there is no context.
  The detail ends with the provider's words if the provider answered, and is what the failure says
  otherwise.
* The kind is the one of the failure.
* The rate limit is the provider's, if the provider answered.
* The caller should try again exactly if no usable answer came or the status may pass. -/
theorem classify_account (e : RequestError) (context : String) :
    (∃ detail,
      (e.classify context).message =
          (if context = "" then detail else context ++ ": " ++ detail) ∧
        (∀ answer, e = .api answer → answer.message.toList <:+ detail.toList) ∧
        ((∀ answer, e ≠ .api answer) → detail = e.text)) ∧
      (∀ kind, (e.classify context).kind = kind ↔ e.HasKind kind) ∧
      (∀ answer, e = .api answer → (e.classify context).rateLimit = answer.rateLimit) ∧
      ((∀ answer, e ≠ .api answer) → (e.classify context).rateLimit = none) ∧
      ((e.classify context).isRetryable = true ↔
        e.IsLost ∨ ∃ status, e.status? = some status ∧ ErrorKind.IsPassing status) := by
  refine ⟨⟨e.detail, ?_, ?_, ?_⟩, fun kind ↦ ?_, ?_, ?_, ?_⟩
  · rw [message_classify, withContext_eq]
  · rintro answer rfl
    exact answer.suffix_detail
  · intro h
    cases e with
    | api answer => exact absurd rfl (h answer)
    | _ => rfl
  · rw [hasKind_iff context, eq_comm]
  · rintro answer rfl
    rfl
  · intro h
    cases e with
    | api answer => exact absurd rfl (h answer)
    | _ => rfl
  · rw [SyncError.isRetryable, ErrorKind.isRetryable_iff]
    exact ((hasKind_iff context).2 rfl).eq_unavailable_iff

end RequestError

end AuditFeed
