import AuditFeed.Url.Domain
import Mathlib.Data.Option.Basic

/-!
# Domain names that stay as they are

A domain name of small letters, digits, hyphens and dots is its own ASCII form, unless a label comes
with the mark of Punycode (`Domain.IsPlainName.toAscii_eq`). It is this that makes the hosts of a
connector's own addresses readable in a proof: a concrete name is plain by computation, and what
would be done to any other name never has to be looked at.

## Going past ASCII

All that is done to a name on the way there goes past ASCII: no composite has an ASCII character as
its second part or as its whole, no ASCII character is a mark, and none is written from right to
left. So a text of ASCII is decomposed, put in order and composed already, each of which is said of
one character first and then of a text.

## How the tables are checked

The tables of composites are checked row by row, each row as the two lists of characters that its
texts are (`IsFarRow`). Taken as one list of composites they would be too long a computation.

## Main statements

* `Text.composed_of_lt`: a text of ASCII is composed already.
* `Url.Domain.IsPlainName.toAscii_eq`: a plain name is its own ASCII form.
-/

namespace AuditFeed.Text

/-- What a test says of a text holds of each of its characters. (To decide the latter at once would
be to go through all characters that there are.) -/
theorem forall_mem_of_all {P : Char → Prop} [DecidablePred P] {s : List Char}
    (h : s.all (P ·) = true) : ∀ c ∈ s, P c :=
  fun c hc ↦ of_decide_eq_true (List.all_eq_true.1 h c hc)

/-! ### Composites -/

/-- Does a row of pairs stay clear of ASCII, but for its first characters? -/
structure IsFarRow (row : Nat × String × String) : Prop where
  second : 128 ≤ (Char.ofNat row.1).toNat
  wholes : ∀ c ∈ row.2.2.toList, 128 ≤ c.toNat

/-- A row is checked through its whole characters as a list. -/
theorem isFarRow_ofList {second : Nat} {firsts : String} {wholes : List Char}
    (hsecond : 128 ≤ (Char.ofNat second).toNat) (hwholes : wholes.all (128 ≤ ·.toNat) = true) :
    IsFarRow (second, firsts, String.ofList wholes) :=
  ⟨hsecond, by rw [String.toList_ofList]; exact forall_mem_of_all hwholes⟩

/-- Every row of the tables is such a row. -/
theorem isFarRow_of_mem_pairRows : ∀ row ∈ pairRows, IsFarRow row := by
  rw [pairRows]
  repeat refine List.forall_mem_cons.2 ⟨isFarRow_ofList (by decide) (by decide), ?_⟩
  exact List.forall_mem_nil _

/-- Neither the second part of a composite nor the composite is a character of ASCII. -/
theorem far_of_mem_composites {p : Composite} (h : p ∈ composites) :
    128 ≤ p.second.toNat ∧ 128 ≤ p.whole.toNat := by
  rcases List.mem_append.1 h with h | h
  · obtain ⟨⟨second, firsts, wholes⟩, hrow, h⟩ := List.mem_flatMap.1 h
    obtain ⟨⟨first, whole⟩, hpair, rfl⟩ := List.mem_map.1 h
    have hfar := isFarRow_of_mem_pairRows _ hrow
    exact ⟨hfar.second, hfar.wholes whole (List.of_mem_zip hpair).2⟩
  · have hfar : ∀ p ∈ furtherPairs,
        128 ≤ (Char.ofNat p.2.1).toNat ∧ 128 ≤ (Char.ofNat p.2.2).toNat := by decide
    obtain ⟨p, hp, rfl⟩ := List.mem_map.1 h
    exact hfar p hp

/-- No mark with a class is a character of ASCII. -/
theorem le_of_mem_combiningRuns {run : Nat × Nat × Nat} (h : run ∈ combiningRuns) :
    128 ≤ run.1 := by
  have hall : combiningRuns.toList.all (128 ≤ ·.1) = true := by decide +kernel
  exact of_decide_eq_true (List.all_eq_true.1 hall run (Array.mem_toList_iff.2 h))

/-! ### Characters of ASCII -/

section

variable {c : Char} (hc : c.toNat < 128)
include hc

/-- A character of ASCII has no parts but itself. -/
theorem partsOf_of_lt (depth : Nat) : partsOf depth c = [c] := by
  have hnone : composites.find? (·.whole == c) = none := List.find?_eq_none.2 fun p hp heq ↦ by
    have := (far_of_mem_composites hp).2
    rw [beq_iff_eq.1 heq] at this
    omega
  unfold partsOf
  rw [hnone]
  cases depth <;> rfl

theorem hangul_parts?_of_lt : Hangul.parts? c = none :=
  if_neg fun h ↦ by
    have := h.1
    rw [Hangul.syllable] at this
    omega

/-- Nothing is joined with a character of ASCII behind it. -/
theorem compose?_of_lt (a : Char) : compose? a c = none := by
  have hnone : composites.find? (fun p ↦ p.first == a && p.second == c) = none :=
    List.find?_eq_none.2 fun p hp heq ↦ by
      have := (far_of_mem_composites hp).1
      rw [beq_iff_eq.1 (Bool.and_eq_true_iff.1 heq).2] at this
      omega
  have hsyllable : Hangul.compose? a c = none := by
    rw [Hangul.compose?, if_neg, if_neg]
    · rintro ⟨-, -, -, h, -⟩
      rw [Hangul.last] at h
      omega
    · rintro ⟨-, -, h, -⟩
      rw [Hangul.middle] at h
      omega
  rw [compose?, hnone, hsyllable]
  rfl

/-- A character of ASCII is no mark. -/
theorem combiningClass_of_lt : combiningClass c = 0 := by
  unfold combiningClass
  rw [Array.find?_eq_none.2]
  rintro ⟨first, last, k⟩ hrun h
  have hlow := le_of_mem_combiningRuns hrun
  have hhigh := of_decide_eq_true (Bool.and_eq_true_iff.1 h).1
  omega

end

/-! ### Texts of ASCII -/

section

variable {s : List Char} (hs : ∀ c ∈ s, c.toNat < 128)
include hs

/-- A text of ASCII stays as it is when it is decomposed. -/
theorem decomposed_of_lt : decomposed s = s := by
  induction s with
  | nil => rfl
  | cons c s ih =>
    have hc := hs c List.mem_cons_self
    rw [decomposed, List.flatMap_cons, hangul_parts?_of_lt hc, Option.getD_none, partsOf_of_lt hc]
    exact congrArg (c :: ·) (ih fun d hd ↦ hs d (List.mem_cons_of_mem c hd))

/-- No character of ASCII is moved past another. -/
theorem foldl_placeMark_of_lt (placed : List Char) :
    s.foldl (fun placed c ↦ placeMark c placed) placed = s.reverse ++ placed := by
  induction s generalizing placed with
  | nil => rfl
  | cons c s ih =>
    have hplace : placeMark c placed = c :: placed := by
      cases placed with
      | nil => rfl
      | cons d rest =>
        have hclass := combiningClass_of_lt (hs c List.mem_cons_self)
        exact if_neg fun h ↦ by
          rw [hclass] at h
          exact absurd h.1 (Nat.lt_irrefl 0)
    rw [List.foldl_cons, hplace, ih fun d hd ↦ hs d (List.mem_cons_of_mem c hd)]
    simp

/-- The marks of a text of ASCII are in order, as it has none. -/
theorem ordered_of_lt : ordered s = s := by
  rw [ordered, foldl_placeMark_of_lt hs, List.append_nil, List.reverse_reverse]

/-- Nothing is joined with the base, whatever it is, by a text of ASCII behind it. -/
theorem composeFrom_of_lt (base : Char) (last : Nat) : composeFrom base [] last s = base :: s := by
  induction s generalizing base last with
  | nil => rfl
  | cons c s ih =>
    have hc := hs c List.mem_cons_self
    rw [composeFrom, compose?_of_lt hc, combiningClass_of_lt hc,
      ih fun d hd ↦ hs d (List.mem_cons_of_mem c hd)]
    rfl

/-- **A text of ASCII is composed already.** -/
theorem composed_of_lt : composed s = s := by
  rw [composed, decomposed_of_lt hs, ordered_of_lt hs]
  cases s with
  | nil => rfl
  | cons c s =>
    rw [joined, combiningClass_of_lt (hs c List.mem_cons_self),
      composeFrom_of_lt fun d hd ↦ hs d (List.mem_cons_of_mem c hd)]
    rfl

end

end AuditFeed.Text

namespace AuditFeed.Url.Domain

/-- Is this a domain name that nothing has to be done to? Its characters are those of ASCII that a
name may hold, without capitals, and no label comes with the mark of Punycode. -/
structure IsPlainName (s : List Char) : Prop where
  chars : ∀ c ∈ s, c.toNat < 128 ∧ c.toLower = c ∧ isForbidden c = false
  labels : ∀ label ∈ s.splitOn '.', encodedMark.isPrefixOf label = false

instance (s : List Char) : Decidable (IsPlainName s) :=
  decidable_of_iff
    (s.all (fun c ↦ c.toNat < 128 ∧ c.toLower = c ∧ isForbidden c = false) = true ∧
      ∀ label ∈ s.splitOn '.', encodedMark.isPrefixOf label = false)
    ⟨fun h ↦ ⟨Text.forall_mem_of_all h.1, h.2⟩,
      fun h ↦ ⟨List.all_eq_true.2 fun c hc ↦ decide_eq_true (h.chars c hc), h.labels⟩⟩

/-- No character of ASCII is written from right to left. -/
theorem not_isForeign_of_lt {c : Char} (hc : c.toNat < 128) :
    (Direction.of c).isForeign = false := by
  rw [Direction.of, if_pos hc]
  split
  · rfl
  · split <;> rfl

theorem mapM_eq_some_map {α β : Type} {f : α → Option β} {g : α → β} {as : List α}
    (h : ∀ a ∈ as, f a = some (g a)) : as.mapM f = some (as.map g) := by
  induction as with
  | nil => rfl
  | cons a as ih =>
    rw [List.mapM_cons, h a List.mem_cons_self, ih fun b hb ↦ h b (List.mem_cons_of_mem a hb)]
    rfl

namespace IsPlainName

variable {s : List Char} (hs : IsPlainName s)
include hs

/-- No character is mapped away or to another one. -/
theorem mapM_map? : s.mapM map? = some (s.map fun c ↦ [c]) :=
  mapM_eq_some_map fun c hc ↦ by
    obtain ⟨hlt, hlower, -⟩ := hs.chars c hc
    rw [map?, if_pos hlt, hlower]

/-- A label of a plain name is of ASCII, since the name is. -/
theorem isAscii_of_mem_label {label : List Char} (hlabel : label ∈ s.splitOn '.') {c : Char}
    (hc : c ∈ label) : isAscii c = true := by
  -- The name is its labels with dots between them, so what is in a label is in the name.
  have hmem : c ∈ s := by
    obtain ⟨i, hi⟩ := List.mem_iff_getElem?.1 hlabel
    have hpart : label ∈ (s.splitOn '.').intersperse ['.'] :=
      List.mem_of_getElem? (List.getElem?_intersperse_two_mul.trans hi)
    have hjoined : ['.'].intercalate (s.splitOn '.') = s := List.intercalate_splitOn '.'
    rw [← hjoined]
    exact List.mem_flatten.2 ⟨label, hpart, hc⟩
  exact decide_eq_true (hs.chars c hmem).1

theorem all_isAscii {label : List Char} (hlabel : label ∈ s.splitOn '.') :
    label.all isAscii = true :=
  List.all_eq_true.2 fun _ hc ↦ hs.isAscii_of_mem_label hlabel hc

/-- The labels of such a name are read as they are. -/
theorem plainLabels_eq : plainLabels s = some (s.splitOn '.') := by
  have hread : (s.splitOn '.').mapM plainLabel = some ((s.splitOn '.').map id) :=
    mapM_eq_some_map fun label hlabel ↦ by
      rw [plainLabel, hs.labels label hlabel]
      rfl
  have hflat : (s.map fun c ↦ [c]).flatten = s :=
    (List.flatMap_def ..).symm.trans (List.flatMap_singleton' s)
  rw [plainLabels, hs.mapM_map?]
  simp only [Option.bind_eq_bind, Option.bind_some, hflat,
    Text.composed_of_lt fun c hc ↦ (hs.chars c hc).1, hread, List.map_id]

/-- **A plain domain name is its own ASCII form.** -/
theorem toAscii_eq : toAscii s = some s := by
  have hwritable : (s.splitOn '.').all isWritable = true := List.all_eq_true.2 fun label hlabel ↦ by
    rw [isWritable, hs.all_isAscii hlabel]
    rfl
  have horderly : isOrderly (s.splitOn '.') = true := by
    have hforeign : ((s.splitOn '.').any fun label ↦
        label.any fun c ↦ (Direction.of c).isForeign) = false := by
      refine List.any_eq_false.2 fun label hlabel ↦ Bool.eq_false_iff.1 ?_
      refine List.any_eq_false.2 fun c hc ↦ Bool.eq_false_iff.1 ?_
      exact not_isForeign_of_lt (of_decide_eq_true (hs.isAscii_of_mem_label hlabel hc))
    rw [isOrderly, hforeign]
    rfl
  have hlabels : (s.splitOn '.').map asciiLabel = s.splitOn '.' :=
    (List.map_congr_left fun label hlabel ↦ if_pos (hs.all_isAscii hlabel)).trans (List.map_id' _)
  have hallowed : s.any isForbidden = false :=
    List.any_eq_false.2 fun c hc ↦ Bool.eq_false_iff.1 (hs.chars c hc).2.2
  rw [toAscii, hs.plainLabels_eq]
  simp only [Option.bind_eq_bind, Option.bind_some, hwritable, horderly, hlabels,
    List.intercalate_splitOn, hallowed]
  rfl

end IsPlainName

end AuditFeed.Url.Domain
