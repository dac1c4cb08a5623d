import AuditFeed.Error.Sync
import Mathlib.Logic.Relation

/-!
# Errors around errors

An error travels outwards: it becomes the source of a transport error or of an error of another
library, the payload of an input or output error, a failed request, a missing token, and at last an
error for the caller. Each of these wrappers has its own rule for what it says and for what it shows
as its cause. `Fault.Wraps` lists them, and `Fault.Inside` is any number of them.

## Three rules

There are three rules (`Fault.Wraps.cases`). A wrapper shows the whole error as its cause, or it is
transparent and shows nothing but the error itself, or it is an input or output error: that one
repeats what its payload says and passes on what caused the payload, but the payload is no link of
the chain. All that follows uses the rules and not the list.

## What is hidden

So a transient fault stays transient through every wrapper of the first two kinds, and an input or
output error hides it in one case only: its own kind is not transient, and the payload shows the
loss by nothing but its origin, neither by its text nor by one of its causes (`Fault.hiddenBy_iff`).
Over any number of wrappers, either the outermost error is transient or some wrapper on the way is
one that hides; which one is named, with what is inside of it and outside of it.

## Main statements

* `Fault.Wraps.cases`, `Fault.hiddenBy_iff`: what one wrapper does.
* `Fault.isTransient_of_inside`: what any number of them do.
-/

namespace AuditFeed

open Relation

/-! ### What a link shows -/

/-- Does the origin of a link alone show that a request was lost? -/
def Origin.isTransient : Origin → Bool
  | .plain => false
  | .transport temporary => temporary
  | .io kind => kind.isTransient
  | .timeout => true

/-- A link shows the loss by its origin or by its text. -/
theorem Link.isTransient_eq (l : Link) :
    l.isTransient = (l.origin.isTransient || messageIsTransient l.text) := by
  rw [Link.isTransient]
  cases l.origin <;> rfl

/-! ### Wrappers -/

/-- A transport error with an error as its source. -/
def TransportError.withSource (e : TransportError) (source : Fault) : TransportError :=
  { e with causes := source.chain }

/-- An error of a JSON reader, which has no cause. -/
def Json.Error.toFault (e : Json.Error) : Fault := ⟨⟨e.detail, .plain⟩, []⟩

namespace Fault

/-- The second fault is an error that is built around the first one. -/
inductive Wraps : Fault → Fault → Prop where
  /-- A transport error with the error as its source. -/
  | source (e : TransportError) (f : Fault) : Wraps f (e.withSource f).toFault
  /-- An input or output error that carries the error. -/
  | payload (kind : IoKind) (f : Fault) : Wraps f (ioAround kind f)
  /-- An error of another library with the error as its source. -/
  | unknown (text : String) (f : Fault) : Wraps f (.plain text (some f))
  /-- A failed request: the provider answered with an error. -/
  | api (e : ApiError) : Wraps e.toFault (RequestError.api e).toFault
  /-- A failed request: no response was received. -/
  | transport (e : TransportError) : Wraps e.toFault (RequestError.transport e).toFault
  /-- A failed request: the response could not be read. -/
  | decode (e : Json.Error) : Wraps e.toFault (RequestError.decode e).toFault
  /-- A failed request: there was no token to send. -/
  | auth (e : AuthError) : Wraps e.toFault (RequestError.auth e).toFault
  /-- A missing token: the request for it failed. -/
  | request (e : RequestError) : Wraps e.toFault (AuthError.request e).toFault
  /-- What the caller sees of a failed request. -/
  | classified (e : RequestError) (context : String) : Wraps e.toFault (e.classify context).toFault

/-- Any number of errors around an error, also none. -/
abbrev Inside : Fault → Fault → Prop := ReflTransGen Wraps

variable {f g outer : Fault}

/-- A wrapper shows the error as its cause, is transparent, or is an input or output error. -/
theorem Wraps.cases (h : Wraps f g) :
    g.causes = f.chain ∨ g = f ∨ ∃ kind, g = ioAround kind f := by
  cases h with
  | source e => exact .inl rfl
  | payload kind => exact .inr (.inr ⟨kind, rfl⟩)
  | unknown text => exact .inl rfl
  | api e => exact .inr (.inl rfl)
  | transport e => exact .inl rfl
  | decode e => exact .inl rfl
  | auth e => exact .inr (.inl rfl)
  | request e => exact .inl rfl
  | classified e context => cases e <;> exact .inl rfl

/-! ### What an input or output error hides -/

/-- An input or output error of a kind hides a fault: the fault shows the loss by its origin alone,
and the kind does not show it. -/
structure HiddenBy (f : Fault) (kind : IoKind) : Prop where
  /-- The error itself shows the loss. -/
  origin : f.top.origin.isTransient = true
  /-- What it says does not. -/
  text : messageIsTransient f.text = false
  /-- Nor does any of its causes. -/
  causes : f.causes.any Link.isTransient = false
  /-- Nor does the error around it. -/
  kind : kind.isTransient = false

/-- A fault shows the loss by its own origin, by its text or by one of its causes. -/
theorem isTransient_eq (f : Fault) :
    f.isTransient =
      (f.top.origin.isTransient || messageIsTransient f.text || f.causes.any Link.isTransient) := by
  rw [isTransient, chain, List.any_cons, Link.isTransient_eq, text]

/-- **Exactly the hidden faults are lost** in an input or output error. -/
theorem hiddenBy_iff {kind : IoKind} :
    f.HiddenBy kind ↔ f.isTransient = true ∧ (ioAround kind f).isTransient = false := by
  -- The error around the fault takes over all that can show the loss, except its origin.
  have haround : (ioAround kind f).isTransient =
      (kind.isTransient || messageIsTransient f.text || f.causes.any Link.isTransient) :=
    isTransient_eq _
  rw [isTransient_eq, haround]
  constructor
  · rintro ⟨horigin, htext, hcauses, hkind⟩
    rw [horigin, htext, hcauses, hkind]
    exact ⟨rfl, rfl⟩
  · rintro ⟨hf, hlost⟩
    simp only [Bool.or_eq_false_iff] at hlost
    obtain ⟨⟨hkind, htext⟩, hcauses⟩ := hlost
    rw [htext, hcauses, Bool.or_false, Bool.or_false] at hf
    exact ⟨hf, htext, hcauses, hkind⟩

/-- One wrapper keeps a transient fault, or hides it. -/
theorem Wraps.isTransient (h : Wraps f g) (hf : f.isTransient = true) :
    g.isTransient = true ∨ ∃ kind, f.HiddenBy kind ∧ g = ioAround kind f := by
  rcases h.cases with hcauses | rfl | ⟨kind, rfl⟩
  · rw [Fault.isTransient] at hf
    rw [isTransient_eq, hcauses, hf, Bool.or_true]
    exact .inl rfl
  · exact .inl hf
  · cases hg : (ioAround kind f).isTransient with
    | true => exact .inl rfl
    | false => exact .inr ⟨kind, hiddenBy_iff.2 ⟨hf, hg⟩, rfl⟩

/-- **A transient fault stays transient inside any number of errors**, unless an input or output
error on the way hides it. -/
theorem isTransient_of_inside (hf : f.isTransient = true) (h : Inside f outer) :
    outer.isTransient = true ∨
      ∃ inner kind, Inside f inner ∧ inner.HiddenBy kind ∧ Inside (ioAround kind inner) outer := by
  induction h with
  | refl => exact .inl hf
  | tail hinside hwraps ih =>
    rcases ih with hmid | ⟨inner, kind, hinner, hhidden, houter⟩
    · rcases hwraps.isTransient hmid with hg | ⟨kind, hhidden, rfl⟩
      · exact .inl hg
      · exact .inr ⟨_, kind, hinside, hhidden, .refl⟩
    · exact .inr ⟨inner, kind, hinner, hhidden, houter.tail hwraps⟩

/-- What the caller sees of a request whose token could not be had because of a fault. -/
def belowToken (f : Fault) : SyncError :=
  let sending := (TransportError.ofMessage "token request").withSource f
  (RequestError.auth (.request (.transport sending))).classify "listing admin activities"

/-- The caller sees the fault through five wrappers. -/
theorem inside_belowToken (f : Fault) : Inside f (belowToken f).toFault := by
  have hsending : Inside f ((TransportError.ofMessage "token request").withSource f).toFault :=
    .single (.source _ f)
  have hrequest := hsending.tail (.transport _)
  have hmissing := hrequest.tail (.request _)
  have hfailed := hmissing.tail (.auth _)
  exact hfailed.tail (.classified _ _)

/-- A reset connection below the request for a token is seen by the caller. -/
theorem isTransient_of_inside_belowToken :
    (io .connectionReset "boom").isTransient = true ∧
      Inside (io .connectionReset "boom") (belowToken (io .connectionReset "boom")).toFault ∧
      ((belowToken (io .connectionReset "boom")).toFault.isTransient = true ∨
        ∃ inner kind, Inside (io .connectionReset "boom") inner ∧ inner.HiddenBy kind ∧
          Inside (ioAround kind inner) (belowToken (io .connectionReset "boom")).toFault) :=
  ⟨by decide, inside_belowToken _, isTransient_of_inside (by decide) (inside_belowToken _)⟩

/-- A transport error that is known to be temporary, and says so in no other way. -/
def deadline : Fault :=
  TransportError.toFault ⟨"deadline", true, []⟩

/-- The flag is lost with the link that bears it. -/
theorem not_isTransient_around_deadline :
    deadline.isTransient = true ∧ Inside deadline (ioAround .other deadline) ∧
      (ioAround .other deadline).isTransient = false :=
  ⟨by decide, .single (.payload .other deadline), by decide⟩

end Fault

end AuditFeed
