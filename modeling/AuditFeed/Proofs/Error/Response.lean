import AuditFeed.Error.Request
import AuditFeed.Proofs.Decimal.Digits
import AuditFeed.Proofs.Fault
import AuditFeed.Proofs.Text.Blank
import Mathlib

/-!
# When a provider's answer looks like a lost connection

A provider that answers with an error has answered, so the request was not lost. The error is
nevertheless judged by its text, and the text holds what the provider says: the message in its
envelope, or else the whole body. So the answer looks like a lost connection exactly if what the
provider says tells of one, whatever the status is (`ApiError.isTransient_ofBody_iff`).

## The frame

What stands in front of the provider's words, the name of the interface and the status, tells of no
loss: it is spelled without an n and an f, and none of the phrases can do without both
(`ApiError.not_tellsOfLoss_frame`). And it ends with a colon, which keeps it apart from what
follows, so no phrase can reach across and the two can be looked at one by one
(`ApiError.tellsOfLoss_text`).

## The message

A body is trimmed where it is taken for the message. Blanks around a text are signs like any other
that no phrase begins or ends with, so what is trimmed tells what the body tells
(`tellsOfLoss_trim`).

## Main statements

* `ApiError.isTransient_ofBody_iff`: which answers look like a lost connection.
* `ApiError.isTransient_ofBody_connectionReset`: one that does, with the status of a proxy.
-/

namespace AuditFeed

/-! ### Digits and blanks in small letters -/

theorem toLower_of_isDigit {c : Char} (h : Text.isDigit c = true) : c.toLower = c := by
  have hupper : ¬ c.isUpper = true := by
    simp only [Text.isDigit, Char.le_def, UInt32.le_iff_toNat_le, Bool.and_eq_true,
      decide_eq_true_eq] at h
    simp [Char.isUpper, UInt32.le_iff_toNat_le] at h ⊢
    omega
  exact Char.toLower_eq_of_not_isUpper hupper

namespace Text

/-- A blank is neither a letter nor a digit, also in small letters. -/
theorem isAlphanum_toLower_of_isBlank {c : Char} (h : isBlank c = true) :
    c.toLower.isAlphanum = false := by
  have hc : ¬ c.isUpper = true ∧ c.isAlphanum = false := by
    simp only [isBlank, Bool.or_eq_true, Bool.and_eq_true, decide_eq_true_eq, beq_iff_eq] at h
    simp [Char.isAlphanum, Char.isAlpha, Char.isUpper, Char.isLower, Char.isDigit,
      UInt32.le_iff_toNat_le]
    omega
  rw [Char.toLower_eq_of_not_isUpper hc.1, hc.2]

end Text

/-- **Trimming a text does not change what it tells.** -/
theorem tellsOfLoss_trim (s : String) :
    TellsOfLoss ((Text.trim s).toList.map Char.toLower) ↔
      TellsOfLoss (s.toList.map Char.toLower) := by
  have hsigns {blanks : List Char} (h : ∀ c ∈ blanks, Text.isBlank c = true) :
      ∀ c ∈ blanks.map Char.toLower, c.isAlphanum = false := by
    simpa using fun c hc ↦ Text.isAlphanum_toLower_of_isBlank (h c hc)
  obtain ⟨before, after, hs, hbefore, hafter⟩ := Text.isPadded_trimChars s.toList
  rw [Text.trim, String.toList_ofList]
  conv_rhs => rw [hs, List.map_append, List.map_append]
  exact (tellsOfLoss_append_append (hsigns hbefore) (hsigns hafter)).symm

namespace ApiError

/-! ### The text of an answer -/

/-- What stands in front of the provider's message. -/
def frame (status : Nat) : String :=
  s!"googleapi: Error {status}"

theorem toList_frame (status : Nat) :
    (frame status).toList = "googleapi: Error ".toList ++ Decimal.digits status := by
  have hframe : frame status = "googleapi: Error " ++ status.repr := rfl
  have hrepr : status.repr.toList = Decimal.digits status := String.toList_ofList
  rw [hframe, String.toList_append, hrepr]

/-- The text of an answer: the frame, a colon, and the message. -/
theorem toList_text (e : ApiError) :
    e.text.toList = (frame e.status).toList ++ ':' :: ' ' :: e.message.toList := by
  have htext : e.text = frame e.status ++ ": " ++ e.message := rfl
  have hcolon : ": ".toList = [':', ' '] := rfl
  rw [htext, String.toList_append, String.toList_append, hcolon, List.append_assoc]
  rfl

/-- The frame has neither an n nor an f. -/
theorem not_tellsOfLoss_frame (status : Nat) :
    ¬ TellsOfLoss ((frame status).toList.map Char.toLower) := by
  have hmem {c : Char} (hc : Text.isDigit c = false)
      (hname : c ∉ "googleapi: Error ".toList.map Char.toLower) :
      c ∉ (frame status).toList.map Char.toLower := by
    rw [toList_frame, List.map_append, List.mem_append, not_or]
    refine ⟨hname, fun h ↦ ?_⟩
    obtain ⟨d, hd, rfl⟩ := List.mem_map.1 h
    have hdigit := Decimal.isDigit_of_mem_digits hd
    rw [toLower_of_isDigit hdigit, hdigit] at hc
    contradiction
  exact not_tellsOfLoss (hmem (by decide) (by decide)) (hmem (by decide) (by decide))

/-- An answer tells what its message tells. -/
theorem tellsOfLoss_text (e : ApiError) :
    TellsOfLoss (e.text.toList.map Char.toLower) ↔
      TellsOfLoss (e.message.toList.map Char.toLower) := by
  rw [toList_text, List.map_append, List.map_cons, List.map_cons,
    tellsOfLoss_append_cons (by decide) (by decide), or_iff_right (not_tellsOfLoss_frame e.status),
    tellsOfLoss_cons (by decide)]

/-- An answer has no cause, so it is judged by its message alone. -/
theorem isTransient_iff (e : ApiError) :
    e.toFault.isTransient = true ↔ TellsOfLoss (e.message.toList.map Char.toLower) := by
  have hchain : e.toFault.isTransient = messageIsTransient e.text := by
    simp [toFault, Fault.isTransient, Fault.chain, Link.isTransient]
  rw [hchain, messageIsTransient_iff, tellsOfLoss_text]

/-! ### Answers read from a body -/

/-- What the provider says in a body. -/
def said (body : String) : String :=
  match Json.apiError.parse body with
  | .ok (message, _) => message
  | .error _ => body

/-- The message that is kept tells what the provider said. -/
theorem tellsOfLoss_said (status : Nat) (body : String) :
    TellsOfLoss ((ofBody status body).message.toList.map Char.toLower) ↔
      TellsOfLoss ((said body).toList.map Char.toLower) := by
  rw [ofBody, said]
  cases Json.apiError.parse body with
  | ok answer => rfl
  | error e => exact tellsOfLoss_trim body

/-- **An answer looks like a lost connection exactly if what the provider says tells of one**, by
itself and as the failure of a request. -/
theorem isTransient_ofBody_iff (status : Nat) (body : String) :
    ((ofBody status body).toFault.isTransient = true ↔
        TellsOfLoss ((said body).toList.map Char.toLower)) ∧
      ((RequestError.api (ofBody status body)).toFault.isTransient = true ↔
        TellsOfLoss ((said body).toList.map Char.toLower)) := by
  have hfault : (RequestError.api (ofBody status body)).toFault = (ofBody status body).toFault :=
    rfl
  rw [hfault, isTransient_iff, tellsOfLoss_said]
  exact ⟨Iff.rfl, Iff.rfl⟩

/-- A proxy reports that it lost its own connection, and the request seems to have been lost. -/
theorem isTransient_ofBody_connectionReset :
    (ofBody 502 "upstream connect error: connection reset by peer").toFault.isTransient = true ∧
      (RequestError.api (ofBody 502
        "upstream connect error: connection reset by peer")).toFault.isTransient = true := by
  decide +kernel

end ApiError

end AuditFeed
