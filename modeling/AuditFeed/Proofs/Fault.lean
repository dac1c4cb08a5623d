import AuditFeed.Fault
import Mathlib.Data.List.Infix

/-!
# What a text tells of a lost connection

A text is searched for seven phrases and, word by word, for "eof". What such a search finds is said
here without the search, by `TellsOfLoss`. It is what the statements about errors speak of, whether
these are wrapped, flattened or read from a body.

## Phrases and words

A phrase is found if it occurs in the text (`occursIn_iff`), and a word is one of the words of the
text if it stands there with no letter and no digit beside it (`mem_wordsOf_iff`). The words of a
text are its runs of letters and digits. Going through a text word by word is done here by taking
the first word off, and a text is either one word or a word in front of a sign (`exists_word`).

## Parts of texts

Texts are put together from a frame and from what somebody else said, and a character that is
neither a letter, a digit nor a space keeps the two apart: such a text tells of a lost connection
exactly if one of its parts does (`tellsOfLoss_append_cons`). That rests on the spelling of the
phrases alone. They consist of letters and spaces and neither start nor end with a space, so that
signs and blanks around a text do not matter either (`tellsOfLoss_append_append`).

## Main statements

* `messageIsTransient_iff`: a message is transient exactly if it tells of a lost connection.
* `tellsOfLoss_append_cons`, `tellsOfLoss_append_append`: how texts are put together.
-/

namespace AuditFeed

variable {s x y word : List Char} {c : Char}

/-! ### Phrases -/

/-- A phrase is found exactly if it occurs. -/
theorem occursIn_iff : occursIn word s = true ↔ word <:+: s := by
  induction s with
  | nil => rw [occursIn, List.isEmpty_iff, List.infix_nil]
  | cons c s ih =>
    rw [occursIn, Bool.or_eq_true, List.isPrefixOf_iff_prefix, ih, List.infix_cons_iff]

/-- What does not hold a character does not reach over it from the left. -/
theorem prefix_append_cons_iff (h : c ∉ word) : word <+: x ++ c :: y ↔ word <+: x := by
  refine ⟨fun hword ↦ ?_, fun hword ↦ hword.trans (List.prefix_append x _)⟩
  have hc : x ++ [c] <+: x ++ c :: y := ⟨y, List.append_assoc x [c] y⟩
  rcases List.prefix_or_prefix_of_prefix hword hc with hle | hle
  · rcases List.prefix_concat_iff.1 hle with rfl | hx
    · exact absurd List.mem_concat_self h
    · exact hx
  · exact absurd (hle.mem List.mem_concat_self) h

/-- What does not hold a character occurs on one side of it. -/
theorem infix_append_cons_iff (h : c ∉ word) :
    word <:+: x ++ c :: y ↔ word <:+: x ∨ word <:+: y := by
  induction x with
  | nil =>
    have hnil : word <+: c :: y ↔ word <+: [] := prefix_append_cons_iff (x := []) h
    rw [List.nil_append, List.infix_cons_iff, hnil, List.prefix_nil, List.infix_nil]
  | cons d x ih =>
    have hd : word <+: d :: (x ++ c :: y) ↔ word <+: d :: x :=
      prefix_append_cons_iff (x := d :: x) h
    rw [List.cons_append, List.infix_cons_iff, hd, ih, List.infix_cons_iff, or_assoc]

/-! ### Words -/

/-- There is always a word in front, if only an empty one. -/
theorem exists_wordsOf (s : List Char) : ∃ w ws, wordsOf s = w :: ws := by
  induction s with
  | nil => exact ⟨_, _, rfl⟩
  | cons c s ih =>
    obtain ⟨w, ws, hs⟩ := ih
    rw [wordsOf, hs]
    split
    · contradiction
    · split
      · exact ⟨_, _, rfl⟩
      · exact ⟨_, _, rfl⟩

theorem wordsOf_cons_of_isAlphanum {w : List Char} {ws : List (List Char)}
    (hc : c.isAlphanum = true) (hs : wordsOf s = w :: ws) : wordsOf (c :: s) = (c :: w) :: ws := by
  rw [wordsOf, hs]
  exact if_pos hc

/-- A sign ends a word. -/
theorem wordsOf_cons_of_sign (hc : c.isAlphanum = false) : wordsOf (c :: s) = [] :: wordsOf s := by
  obtain ⟨w, ws, hs⟩ := exists_wordsOf s
  rw [wordsOf, hs]
  exact if_neg (Bool.eq_false_iff.1 hc)

/-- The words on the two sides of a sign are those of the text. -/
theorem wordsOf_append_cons (hc : c.isAlphanum = false) :
    wordsOf (x ++ c :: y) = wordsOf x ++ wordsOf y := by
  induction x with
  | nil => exact wordsOf_cons_of_sign hc
  | cons d x ih =>
    obtain ⟨w, ws, hx⟩ := exists_wordsOf x
    rw [hx, List.cons_append] at ih
    cases hd : d.isAlphanum with
    | true =>
      rw [List.cons_append, wordsOf_cons_of_isAlphanum hd ih, wordsOf_cons_of_isAlphanum hd hx,
        List.cons_append]
    | false =>
      rw [List.cons_append, wordsOf_cons_of_sign hd, wordsOf_cons_of_sign hd, ih, hx,
        List.cons_append, List.cons_append]

/-- Letters and digits alone are one word. -/
theorem wordsOf_of_isAlphanum (h : ∀ c ∈ s, c.isAlphanum = true) : wordsOf s = [s] := by
  induction s with
  | nil => rfl
  | cons c s ih =>
    exact wordsOf_cons_of_isAlphanum (h c List.mem_cons_self)
      (ih fun d hd ↦ h d (List.mem_cons_of_mem c hd))

/-- A word occurs in a text with neither a letter nor a digit beside it. -/
def StandsIn (word s : List Char) : Prop :=
  ∃ before after, s = before ++ word ++ after ∧
    (∀ c ∈ before.getLast?, c.isAlphanum = false) ∧ ∀ c ∈ after.head?, c.isAlphanum = false

/-- A text is one word, or a word in front of a sign. -/
theorem exists_word (s : List Char) :
    ∃ w, (∀ c ∈ w, c.isAlphanum = true) ∧
      (s = w ∨ ∃ c rest, c.isAlphanum = false ∧ s = w ++ c :: rest) := by
  induction s with
  | nil => exact ⟨[], by simp, .inl rfl⟩
  | cons c s ih =>
    cases hc : c.isAlphanum with
    | false => exact ⟨[], by simp, .inr ⟨c, s, hc, rfl⟩⟩
    | true =>
      obtain ⟨w, hw, hs⟩ := ih
      refine ⟨c :: w, List.forall_mem_cons.2 ⟨hc, hw⟩, ?_⟩
      rcases hs with rfl | ⟨d, rest, hd, rfl⟩
      · exact .inl rfl
      · exact .inr ⟨d, rest, hd, rfl⟩

theorem standsIn_of_mem_wordsOf (h : word ∈ wordsOf s) : StandsIn word s := by
  -- Word by word: what is behind the first sign is shorter.
  induction hlength : s.length using Nat.strongRecOn generalizing s with
  | ind n ih =>
    obtain ⟨w, hw, rfl | ⟨c, rest, hc, rfl⟩⟩ := exists_word s
    · obtain rfl : word = s := by simpa [wordsOf_of_isAlphanum hw] using h
      exact ⟨[], [], by simp, by simp, by simp⟩
    · rw [wordsOf_append_cons hc, wordsOf_of_isAlphanum hw, List.singleton_append,
        List.mem_cons] at h
      rcases h with rfl | h
      · exact ⟨[], c :: rest, rfl, by simp, by simpa using hc⟩
      · have hshorter : rest.length < n := by
          rw [← hlength, List.length_append, List.length_cons]
          omega
        obtain ⟨before, after, rfl, hbefore, hafter⟩ := ih rest.length hshorter h rfl
        refine ⟨w ++ c :: before, after, by simp, ?_, hafter⟩
        cases before with
        | nil => simpa using hc
        | cons d before => simpa using hbefore

/-- What stands in a text is one of its words. -/
theorem mem_wordsOf_of_standsIn (hword : ∀ c ∈ word, c.isAlphanum = true) (h : StandsIn word s) :
    word ∈ wordsOf s := by
  obtain ⟨before, after, rfl, hbefore, hafter⟩ := h
  have hfront : word ∈ wordsOf (word ++ after) := by
    cases after with
    | nil => simp [wordsOf_of_isAlphanum hword]
    | cons d after =>
      rw [wordsOf_append_cons (hafter d rfl), wordsOf_of_isAlphanum hword]
      exact List.mem_cons_self
  rcases List.eq_nil_or_concat before with rfl | ⟨before, d, rfl⟩
  · exact hfront
  · have hd : d.isAlphanum = false := hbefore d (by simp)
    rw [List.append_assoc, List.concat_eq_append, List.append_assoc, List.singleton_append,
      wordsOf_append_cons hd]
    exact List.mem_append_right _ hfront

/-- The words of a text are those that stand in it. -/
theorem mem_wordsOf_iff (hword : ∀ c ∈ word, c.isAlphanum = true) :
    word ∈ wordsOf s ↔ StandsIn word s :=
  ⟨standsIn_of_mem_wordsOf, mem_wordsOf_of_standsIn hword⟩

/-! ### Loss -/

/-- A text in small letters tells of a lost connection. -/
def TellsOfLoss (s : List Char) : Prop :=
  (∃ phrase ∈ lostConnectionPhrases, phrase.toList <:+: s) ∨ StandsIn ['e', 'o', 'f'] s

/-- The word is looked for among the words. -/
theorem tellsOfLoss_iff :
    TellsOfLoss s ↔
      (∃ phrase ∈ lostConnectionPhrases, phrase.toList <:+: s) ∨ ['e', 'o', 'f'] ∈ wordsOf s := by
  rw [TellsOfLoss, mem_wordsOf_iff (List.all_eq_true.1 rfl)]

/-- **A message is transient exactly if it tells of a lost connection**, in letters of either
case. -/
theorem messageIsTransient_iff {message : String} :
    messageIsTransient message = true ↔ TellsOfLoss (message.toList.map Char.toLower) := by
  simp [messageIsTransient, tellsOfLoss_iff, occursIn_iff]

theorem isAlphanum_or_space_of_phrase :
    ∀ phrase ∈ lostConnectionPhrases, ∀ c ∈ phrase.toList, c.isAlphanum = true ∨ c = ' ' := by
  have hall : lostConnectionPhrases.all
      (fun phrase ↦ phrase.toList.all fun c ↦ c.isAlphanum || c == ' ') = true := by
    decide +kernel
  simpa only [List.all_eq_true, Bool.or_eq_true, beq_iff_eq] using hall

/-- No phrase starts or ends with a space. -/
theorem isAlphanum_ends_of_phrase :
    ∀ phrase ∈ lostConnectionPhrases, (∀ c ∈ phrase.toList.head?, c.isAlphanum = true) ∧
      ∀ c ∈ phrase.toList.getLast?, c.isAlphanum = true := by
  have hall : lostConnectionPhrases.all (fun phrase ↦
      phrase.toList.head?.all Char.isAlphanum && phrase.toList.getLast?.all Char.isAlphanum) =
        true := by
    decide +kernel
  simpa only [List.all_eq_true, Bool.and_eq_true, Option.all_eq_true, Option.mem_def]
    using hall

theorem mem_phrase : ∀ phrase ∈ lostConnectionPhrases, 'n' ∈ phrase.toList := by
  decide +kernel

/-- Texts that the phrases and the word cannot tell apart tell the same. -/
theorem tellsOfLoss_congr
    (hphrase : ∀ phrase ∈ lostConnectionPhrases, (phrase.toList <:+: x ↔ phrase.toList <:+: y))
    (hword : ['e', 'o', 'f'] ∈ wordsOf x ↔ ['e', 'o', 'f'] ∈ wordsOf y) :
    TellsOfLoss x ↔ TellsOfLoss y := by
  rw [tellsOfLoss_iff, tellsOfLoss_iff]
  exact or_congr (exists_congr fun phrase ↦ and_congr_right (hphrase phrase)) hword

/-- Every phrase is spelled with an n, and the word with an f. -/
theorem not_tellsOfLoss (hn : 'n' ∉ s) (hf : 'f' ∉ s) : ¬ TellsOfLoss s := by
  rintro (⟨phrase, hmem, hphrase⟩ | ⟨before, after, rfl, -, -⟩)
  · exact hn (hphrase.mem (mem_phrase phrase hmem))
  · simp at hf

/-- **A sign other than a space keeps what is on its two sides apart.** -/
theorem tellsOfLoss_append_cons (hc : c.isAlphanum = false) (hspace : c ≠ ' ') :
    TellsOfLoss (x ++ c :: y) ↔ TellsOfLoss x ∨ TellsOfLoss y := by
  have hphrase : ∀ phrase ∈ lostConnectionPhrases,
      (phrase.toList <:+: x ++ c :: y ↔ phrase.toList <:+: x ∨ phrase.toList <:+: y) := by
    intro phrase hmem
    refine infix_append_cons_iff fun h ↦ ?_
    rcases isAlphanum_or_space_of_phrase phrase hmem c h with halnum | h
    · exact absurd halnum (Bool.eq_false_iff.1 hc)
    · exact hspace h
  have hphrases : (∃ phrase ∈ lostConnectionPhrases, phrase.toList <:+: x ++ c :: y) ↔
      (∃ phrase ∈ lostConnectionPhrases, phrase.toList <:+: x) ∨
        ∃ phrase ∈ lostConnectionPhrases, phrase.toList <:+: y := by
    simp only [← exists_or, ← and_or_left]
    exact exists_congr fun phrase ↦ and_congr_right (hphrase phrase)
  rw [tellsOfLoss_iff, tellsOfLoss_iff, tellsOfLoss_iff, hphrases, wordsOf_append_cons hc,
    List.mem_append, or_or_or_comm]

/-- A sign in front of a text does not matter. -/
theorem tellsOfLoss_cons (hc : c.isAlphanum = false) : TellsOfLoss (c :: s) ↔ TellsOfLoss s := by
  have hphrase : ∀ phrase ∈ lostConnectionPhrases,
      (phrase.toList <:+: c :: s ↔ phrase.toList <:+: s) := by
    intro phrase hmem
    obtain ⟨d, w, hw⟩ := List.exists_cons_of_ne_nil (List.ne_nil_of_mem (mem_phrase phrase hmem))
    have hd : d.isAlphanum = true := (isAlphanum_ends_of_phrase phrase hmem).1 d (by simp [hw])
    rw [List.infix_cons_iff, hw, List.cons_prefix_cons, or_iff_right]
    rintro ⟨rfl, -⟩
    exact absurd hd (Bool.eq_false_iff.1 hc)
  refine tellsOfLoss_congr hphrase ?_
  simp [wordsOf_cons_of_sign hc]

/-- A sign behind a text does not matter. -/
theorem tellsOfLoss_concat (hc : c.isAlphanum = false) :
    TellsOfLoss (s ++ [c]) ↔ TellsOfLoss s := by
  have hphrase : ∀ phrase ∈ lostConnectionPhrases,
      (phrase.toList <:+: s ++ [c] ↔ phrase.toList <:+: s) := by
    intro phrase hmem
    rcases List.eq_nil_or_concat phrase.toList with hw | ⟨w, d, hw⟩
    · exact absurd (mem_phrase phrase hmem) (by simp [hw])
    · have hd : d.isAlphanum = true := (isAlphanum_ends_of_phrase phrase hmem).2 d (by simp [hw])
      rw [List.infix_concat_iff, hw, List.concat_eq_append, or_iff_right]
      rintro ⟨front, h⟩
      rw [← List.append_assoc] at h
      obtain ⟨-, hdc⟩ := List.append_inj' h rfl
      rw [List.singleton_inj.1 hdc, hc] at hd
      contradiction
  refine tellsOfLoss_congr hphrase ?_
  simp [wordsOf_append_cons hc, wordsOf]

/-- Signs around a text do not matter. -/
theorem tellsOfLoss_append_append (hx : ∀ c ∈ x, c.isAlphanum = false)
    (hy : ∀ c ∈ y, c.isAlphanum = false) : TellsOfLoss (x ++ s ++ y) ↔ TellsOfLoss s := by
  induction x with
  | cons c x ih =>
    rw [List.forall_mem_cons] at hx
    rw [List.cons_append, List.cons_append, tellsOfLoss_cons hx.1, ih hx.2]
  | nil =>
    rw [List.nil_append]
    induction y using List.reverseRecOn with
    | nil => rw [List.append_nil]
    | append_singleton y c ih =>
      rw [List.forall_mem_append] at hy
      rw [← List.append_assoc, tellsOfLoss_concat (hy.2 c (by simp)), ih hy.1]

end AuditFeed
