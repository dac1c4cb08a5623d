import AuditFeed.Proofs.Fault
import Mathlib

/-!
# Errors that were turned into texts

On its way an error may be turned into a text, be written into a longer one, and have its letters
changed to capitals or to small ones. What it tells of a lost connection comes through, as long as
it is not run together with a word in front of it or behind it (`TellsOfLoss.append`).

## Letters of either case

Texts are compared in small letters. What is found there is said here of the text as it stands:
small letters are a matter of each character, so the part that is found has a place in the text
itself (`mentions_iff`, `mentionsWord_iff`). `Mentions` and `MentionsWord` name that part, and what
stands before and after it, so that a reader need not think of another text than the given one.

## Where it matters what a text touches

A phrase is found in any longer text. The word "eof" is not: with a letter or a digit beside it, it
is part of another word. So the condition on what is put around a text is needed for the word, and
it is the same at both ends.

## Main statements

* `transient_text_account`: which texts are transient, and what may be done to them.
-/

namespace AuditFeed

variable {s x y word : List Char}

/-! ### Letters of either case -/

/-- The case of a letter is no matter of whether it is one. -/
theorem isAlphanum_toLower (c : Char) : c.toLower.isAlphanum = c.isAlphanum := by
  by_cases hupper : c.isUpper = true
  · have halpha : c.isAlpha = true := by rw [Char.isAlpha, hupper, Bool.true_or]
    rw [Char.isAlphanum, Char.isAlphanum, Char.isAlpha_toLower_eq_isAlpha, halpha, Bool.true_or,
      Bool.true_or]
  · rw [Char.toLower_eq_of_not_isUpper hupper]

/-- Two texts that differ at most in the case of ASCII letters. -/
def Recased (s t : List Char) : Prop :=
  List.Forall₂ (fun c d ↦ d = c ∨ d = c.toLower ∨ d = c.toUpper) s t

instance (s t : List Char) : Decidable (Recased s t) :=
  inferInstanceAs (Decidable (List.Forall₂ _ s t))

/-- They are the same in small letters. -/
theorem Recased.map_toLower {t : List Char} (h : Recased s t) :
    t.map Char.toLower = s.map Char.toLower := by
  induction h with
  | nil => rfl
  | @cons c d s t hcd _ ih =>
    have hsame : d.toLower = c.toLower := by
      rcases hcd with rfl | rfl | rfl
      · rfl
      · exact Char.toLower_toLower_eq_toLower c
      · exact Char.toLower_toUpper_eq_toLower c
    rw [List.map_cons, List.map_cons, hsame, ih]

/-- Some part of a text is a phrase, in letters of either case. -/
def Mentions (phrase s : List Char) : Prop :=
  ∃ before part after, s = before ++ part ++ after ∧ part.map Char.toLower = phrase

/-- A phrase is mentioned if it occurs in small letters. -/
theorem mentions_iff : Mentions word s ↔ word <:+: s.map Char.toLower := by
  constructor
  · rintro ⟨before, part, after, rfl, rfl⟩
    exact ⟨before.map Char.toLower, after.map Char.toLower, by simp⟩
  · rintro ⟨x, y, h⟩
    obtain ⟨front, after, rfl, hfront, -⟩ := List.map_eq_append_iff.1 h.symm
    obtain ⟨before, part, rfl, -, hpart⟩ := List.map_eq_append_iff.1 hfront
    exact ⟨before, part, after, rfl, hpart⟩

/-- Some part of a text is a word, in letters of either case and with neither a letter nor a digit
beside it. -/
def MentionsWord (word s : List Char) : Prop :=
  ∃ before part after, s = before ++ part ++ after ∧ part.map Char.toLower = word ∧
    (∀ c ∈ before.getLast?, c.isAlphanum = false) ∧ ∀ c ∈ after.head?, c.isAlphanum = false

/-- A text ends in a letter or a digit exactly if it does so in small letters. -/
theorem getLast?_map_toLower :
    (∀ c ∈ (s.map Char.toLower).getLast?, c.isAlphanum = false) ↔
      ∀ c ∈ s.getLast?, c.isAlphanum = false := by
  simp [List.getLast?_map, isAlphanum_toLower]

/-- The same for the front of a text. -/
theorem head?_map_toLower :
    (∀ c ∈ (s.map Char.toLower).head?, c.isAlphanum = false) ↔
      ∀ c ∈ s.head?, c.isAlphanum = false := by
  simp [List.head?_map, isAlphanum_toLower]

/-- A word is mentioned if it stands in the text in small letters. -/
theorem mentionsWord_iff : MentionsWord word s ↔ StandsIn word (s.map Char.toLower) := by
  constructor
  · rintro ⟨before, part, after, rfl, rfl, hbefore, hafter⟩
    exact ⟨before.map Char.toLower, after.map Char.toLower, by simp,
      getLast?_map_toLower.2 hbefore, head?_map_toLower.2 hafter⟩
  · rintro ⟨x, y, h, hx, hy⟩
    obtain ⟨front, after, rfl, hfront, rfl⟩ := List.map_eq_append_iff.1 h
    obtain ⟨before, part, rfl, rfl, hpart⟩ := List.map_eq_append_iff.1 hfront
    exact ⟨before, part, after, rfl, hpart, getLast?_map_toLower.1 hx, head?_map_toLower.1 hy⟩

/-! ### Longer texts -/

/-- A word still stands in a longer text, if nothing is run together with the text it stands in. -/
theorem StandsIn.append (h : StandsIn word s) (hx : ∀ c ∈ x.getLast?, c.isAlphanum = false)
    (hy : ∀ c ∈ y.head?, c.isAlphanum = false) : StandsIn word (x ++ s ++ y) := by
  obtain ⟨before, after, rfl, hbefore, hafter⟩ := h
  refine ⟨x ++ before, after ++ y, by simp, ?_, ?_⟩
  -- What is beside the word is beside it in the text, unless the word is at the end of that.
  · rcases List.eq_nil_or_concat before with rfl | ⟨before, d, rfl⟩
    · simpa using hx
    · simpa using hbefore
  · cases after with
    | nil => simpa using hy
    | cons d after => simpa using hafter

/-- **What tells of a lost connection still does so in a longer text.** -/
theorem TellsOfLoss.append (h : TellsOfLoss s) (hx : ∀ c ∈ x.getLast?, c.isAlphanum = false)
    (hy : ∀ c ∈ y.head?, c.isAlphanum = false) : TellsOfLoss (x ++ s ++ y) := by
  rcases h with ⟨phrase, hmem, hphrase⟩ | hword
  · exact .inl ⟨phrase, hmem, hphrase.trans (List.infix_append x s y)⟩
  · exact .inr (hword.append hx hy)

/-- **Which texts are transient, and what may be done to them.**

* A text that is transient stays so in front of and behind any others, as long as these do not
  touch it with a letter or a digit.
* The case of its letters does not matter.
* It is transient exactly if one of the phrases stands in it, or "eof" as a whole run of letters
  and digits, in letters of either case. -/
theorem transient_text_account :
    (∀ before message after : String, messageIsTransient message = true →
        (∀ c ∈ before.toList.getLast?, c.isAlphanum = false) →
        (∀ c ∈ after.toList.head?, c.isAlphanum = false) →
          messageIsTransient (before ++ message ++ after) = true) ∧
      (∀ message message' : String, Recased message.toList message'.toList →
        messageIsTransient message' = messageIsTransient message) ∧
      ∀ message : String, messageIsTransient message = true ↔
        (∃ phrase ∈ lostConnectionPhrases, Mentions phrase.toList message.toList) ∨
          MentionsWord ['e', 'o', 'f'] message.toList := by
  refine ⟨fun before message after h hbefore hafter ↦ ?_, fun message message' h ↦ ?_,
    fun message ↦ ?_⟩
  · rw [messageIsTransient_iff] at h ⊢
    rw [String.toList_append, String.toList_append, List.map_append, List.map_append]
    exact h.append (getLast?_map_toLower.2 hbefore) (head?_map_toLower.2 hafter)
  · rw [Bool.eq_iff_iff, messageIsTransient_iff, messageIsTransient_iff, h.map_toLower]
  · simp only [messageIsTransient_iff, TellsOfLoss, mentions_iff, mentionsWord_iff]

/-- An end of a file stays one when it is told in capitals and where it was met is written around
it. -/
theorem transient_text_account_loudEof :
    messageIsTransient "read: eof" = true ∧ Recased "read: eof".toList "READ: EOF".toList ∧
      messageIsTransient ("GET /users (" ++ "READ: EOF" ++ ")") = true := by
  obtain ⟨hlonger, hcase, -⟩ := transient_text_account
  have heof : messageIsTransient "read: eof" = true := by decide +kernel
  have hloud : Recased "read: eof".toList "READ: EOF".toList := by decide +kernel
  refine ⟨heof, hloud, hlonger _ _ _ ?_ (by simp) (by simp)⟩
  rw [hcase _ _ hloud, heof]

end AuditFeed
