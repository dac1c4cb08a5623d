import AuditFeed.Text.Blank
import Mathlib.Data.List.TakeWhile

/-!
# Trimming

What trimming takes away are the blanks around a text (`isPadded_trimChars`), whatever stands
between them (`trimChars_append`). So a text without blanks at its ends is left alone, and so is one
that was trimmed before (`trim_trim`).

## Padding

`IsPadded raw s` says that `raw` is `s` with blanks around it. A reader that trims is characterized
through it, as one that reads every padding of what it reads. Both directions are here. What is
padded is trimmed to the same text (`IsPadded.trimChars_eq`), and every text is the padding of its
trimmed form.

## Main statements

* `trimChars_append`: blanks around a text do not matter.
* `isPadded_trimChars`: nothing else is trimmed.
-/

namespace AuditFeed.Text

/-- A text with no blank at either end is not trimmed. -/
theorem trimChars_of_ends {s : List Char} (hhead : ∀ c ∈ s.head?, isBlank c = false)
    (hlast : ∀ c ∈ s.getLast?, isBlank c = false) : trimChars s = s := by
  have hdrop : ∀ t : List Char, (∀ c ∈ t.head?, isBlank c = false) → dropBlanks t = t := by
    intro t ht
    cases t with
    | nil => rfl
    | cons c t => exact List.dropWhile_cons_of_neg (by simp [ht c rfl])
  rw [trimChars, hdrop s hhead, hdrop s.reverse (by rwa [List.head?_reverse]),
    List.reverse_reverse]

/-- A text without blanks is not trimmed. -/
theorem trimChars_of_not_blank {s : List Char} (h : ∀ c ∈ s, isBlank c = false) :
    trimChars s = s :=
  trimChars_of_ends (fun c hc ↦ h c (List.mem_of_head? hc))
    fun c hc ↦ h c (List.mem_of_getLast? hc)

/-- Blanks around a text are trimmed away, whatever the text. -/
theorem trimChars_append {front back : List Char} (hfront : ∀ c ∈ front, isBlank c = true)
    (hback : ∀ c ∈ back, isBlank c = true) (s : List Char) :
    trimChars (front ++ s ++ back) = trimChars s := by
  have hreverse : ∀ c ∈ back.reverse, isBlank c = true := fun c hc ↦ hback c (List.mem_reverse.1 hc)
  have hall (ds : List Char) (hds : ∀ c ∈ ds, isBlank c = true) (rest : List Char) :
      dropBlanks (ds ++ rest) = dropBlanks rest := List.dropWhile_append_of_pos hds
  have hdropped : dropBlanks back = [] := by
    rw [← List.append_nil back, hall back hback]
    rfl
  rw [trimChars, trimChars, List.append_assoc, hall front hfront]
  have hbehind : dropBlanks (s ++ back) =
      if (dropBlanks s).isEmpty then dropBlanks back else dropBlanks s ++ back :=
    List.dropWhile_append
  rw [hbehind]
  split
  -- There are blanks only, so that nothing is left on either side.
  · rename_i hempty
    rw [hdropped, List.isEmpty_iff.1 hempty]
  · rw [List.reverse_append, hall _ hreverse]

/-- `raw` is `s` with blanks around it. -/
def IsPadded (raw s : List Char) : Prop :=
  ∃ front back, raw = front ++ s ++ back ∧ (∀ c ∈ front, isBlank c = true) ∧
    ∀ c ∈ back, isBlank c = true

/-- What trimming takes away are blanks. -/
theorem isPadded_trimChars (s : List Char) : IsPadded s (trimChars s) := by
  have hdrop (t : List Char) :
      ∃ before, t = before ++ dropBlanks t ∧ ∀ c ∈ before, isBlank c = true :=
    ⟨t.takeWhile isBlank, List.takeWhile_append_dropWhile.symm,
      fun _ hc ↦ List.mem_takeWhile_imp hc⟩
  obtain ⟨before, hs, hbefore⟩ := hdrop s
  obtain ⟨after, ht, hafter⟩ := hdrop (dropBlanks s).reverse
  refine ⟨before, after.reverse, ?_, hbefore, fun c hc ↦ hafter c (List.mem_reverse.1 hc)⟩
  rw [trimChars, List.append_assoc, ← List.reverse_append, ← ht, List.reverse_reverse]
  exact hs

/-- Padding is trimmed away. -/
theorem IsPadded.trimChars_eq {raw s : List Char} (h : IsPadded raw s) :
    trimChars raw = trimChars s := by
  obtain ⟨front, back, rfl, hfront, hback⟩ := h
  exact trimChars_append hfront hback s

/-- A text that was trimmed is not trimmed any further. -/
theorem trim_trim (s : String) : trim (trim s) = trim s := by
  rw [trim, trim, String.toList_ofList, ← (isPadded_trimChars s.toList).trimChars_eq]

end AuditFeed.Text
