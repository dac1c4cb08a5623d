import AuditFeed.Proofs.Url
import AuditFeed.Proofs.Url.Domain
import AuditFeed.Proofs.Text.Part

/-!
# Web addresses that are read as they are written

An address of a plain domain name and a path is read as just that (`Url.parse_webAddress`), and a
path of plain segments as these, up to its last one (`Url.readSegments_of_plain`). So the URL of a
lookup is known up to the segment that its email makes, whatever the email is.

## Plain segments

What is not plain about a segment is a sign that separates or that has to be encoded, and the two
meanings a segment can have: here and up (`Url.IsPlainSegment`). The last segment of a path is left
open in `Url.readSegments_of_plain`: it only has to hold no sign that separates or is encoded, since
what it may mean is the question there.

## Dots

Each of the two meanings has several writings, with a dot as itself or as its code, in capitals or
in small letters. Each writing stands for the bytes of one dot or of two
(`Url.percentBytes_of_here`, `Url.percentBytes_of_up`): so a segment that was encoded from a text
can only mean here or up if the text is that dot or these two.

## Main statements

* `Url.parse_webAddress`: an address is read as its host and its path.
* `Url.readSegments_of_plain`: plain segments are read as they are.
* `Url.percentBytes_of_here`, `Url.percentBytes_of_up`: what the two meanings are written with.
-/

namespace AuditFeed

namespace Url

/-! ### Texts that stay -/

/-- There is nothing to clean off a text of visible characters. -/
theorem cleaned_of_visible {s : List Char} (h : ∀ c ∈ s, 0x20 < c.toNat) : cleaned s = s := by
  have hedge : ∀ c ∈ s, isEdge c = false := fun c hc ↦
    decide_eq_false (Nat.not_le.2 (h c hc))
  have hfront : s.dropWhile isEdge = s := by
    cases s with
    | nil => rfl
    | cons c s => exact List.dropWhile_cons_of_neg (by rw [hedge c List.mem_cons_self]; decide)
  have hback : s.reverse.dropWhile isEdge = s.reverse := by
    rcases hs : s.reverse with _ | ⟨c, rest⟩
    · rfl
    · have hc : c ∈ s := List.mem_reverse.1 (hs ▸ List.mem_cons_self)
      exact List.dropWhile_cons_of_neg (by rw [hedge c hc]; decide)
  rw [cleaned, hfront, hback, List.reverse_reverse, List.filter_eq_self]
  intro c hc
  have hlt := h c hc
  have hne : ∀ d : Char, d.toNat ≤ 0x20 → (c != d) = true := fun d hd ↦
    bne_iff_ne.2 fun heq ↦ by
      rw [heq] at hlt
      omega
  rw [hne '\t' (by decide), hne '\n' (by decide), hne '\r' (by decide)]
  rfl

/-- A text of characters that are kept is encoded as itself. -/
theorem percentEncode_of_keep {keep : Char → Bool} {s : List Char} (h : ∀ c ∈ s, keep c = true) :
    Text.percentEncode keep s = s := by
  induction s with
  | nil => rfl
  | cons c s ih =>
    rw [Text.percentEncode, List.flatMap_cons, if_pos (h c List.mem_cons_self)]
    exact congrArg (c :: ·) (ih fun d hd ↦ h d (List.mem_cons_of_mem c hd))

/-- Without a colon and a bracket, all of an authority is its host. -/
theorem hostPart_of_not_mem {s : List Char} (hcolon : ':' ∉ s) (hbracket : '[' ∉ s) :
    hostPart false s = s := by
  induction s with
  | nil => rfl
  | cons c s ih =>
    rw [List.mem_cons, not_or] at hcolon hbracket
    have hopen : (c == '[' || (false && c != ']')) = false := by
      rw [Bool.false_and, Bool.or_false]
      exact beq_eq_false_iff_ne.2 (Ne.symm hbracket.1)
    rw [hostPart, if_neg fun h ↦ hcolon.1 h.1.symm, hopen, ih hcolon.2 hbracket.2]

/-! ### Hosts -/

/-- A name of a host that is read as it is: a plain domain name that is no address. -/
structure IsHostName (host : List Char) : Prop extends Domain.IsPlainName host where
  ne_nil : host ≠ []
  not_number : Host.endsInNumber host = false

namespace IsHostName

variable {host : List Char} (h : IsHostName host)
include h

/-- A name of a host holds no sign that is forbidden in one. -/
theorem not_mem {c : Char} (hc : Domain.isForbidden c = true) : c ∉ host := fun hmem ↦
  Bool.false_ne_true ((h.chars c hmem).2.2.symm.trans hc)

theorem visible {c : Char} (hc : c ∈ host) : 0x20 < c.toNat := by
  have hallowed := (h.chars c hc).2.2
  rw [Domain.isForbidden, Bool.or_eq_false_iff, Bool.or_eq_false_iff] at hallowed
  exact Nat.lt_of_not_le (of_decide_eq_false hallowed.1.1)

theorem isSlash_eq_false {c : Char} (hc : c ∈ host) : Manner.web.isSlash c = false := by
  have hne : ∀ sign, Domain.isForbidden sign = true → c ≠ sign := fun sign hsign heq ↦
    h.not_mem hsign (heq ▸ hc)
  rw [Manner.isSlash, beq_eq_false_iff_ne.2 (hne '/' (by decide)),
    beq_eq_false_iff_ne.2 (hne '\\' (by decide))]
  rfl

theorem endsAuthority_eq_false {c : Char} (hc : c ∈ host) :
    Manner.web.endsAuthority c = false := by
  have hne : ∀ sign, Domain.isForbidden sign = true → c ≠ sign := fun sign hsign heq ↦
    h.not_mem hsign (heq ▸ hc)
  rw [Manner.endsAuthority, h.isSlash_eq_false hc, beq_eq_false_iff_ne.2 (hne '?' (by decide)),
    beq_eq_false_iff_ne.2 (hne '#' (by decide))]
  rfl

/-- Such a name is read as the domain that it is. -/
theorem parse_eq : Host.parse host = .ok (.domain host) := by
  have hpercent : Text.percentDecode host = host := by
    rw [Text.percentDecode, Text.decodeUtf8Lossy]
    have hbytes : Text.percentBytes host = Text.utf8 host := by
      have hkept : Text.percentEncode (· != '%') host = host :=
        percentEncode_of_keep fun c hc ↦
          bne_iff_ne.2 fun heq ↦ h.not_mem (c := '%') (by decide) (heq ▸ hc)
      have hback : Text.percentBytes (Text.percentEncode (· != '%') host) = Text.utf8 host :=
        Text.percentBytes_percentEncode rfl host
      rwa [hkept] at hback
    rw [hbytes, Text.decodeUtf8_utf8]
  have hempty : host.isEmpty = false := List.isEmpty_eq_false_iff.2 h.ne_nil
  have hbracket : ∀ rest, host ≠ '[' :: rest := fun rest heq ↦
    h.not_mem (c := '[') (by decide) (heq ▸ List.mem_cons_self)
  rw [Host.parse.eq_2 _ hbracket, hpercent, h.toAscii_eq]
  simp only [hempty, h.not_number]
  rfl

/-- As an authority it is a host alone, with no user and no port. -/
theorem readAuthority_eq (closed : Bool) :
    readAuthority "https".toList .web closed host =
      .ok (⟨[], [], .domain host, none⟩, []) := by
  have hempty : host.isEmpty = false := List.isEmpty_eq_false_iff.2 h.ne_nil
  have hsplit : splitCredentials host = (none, host) := by
    rw [splitCredentials, if_neg]
    exact fun hmem ↦ h.not_mem (c := '@') (by decide) (List.contains_iff_mem.1 hmem)
  have hpart : hostPart false host = host :=
    hostPart_of_not_mem (h.not_mem (by decide)) (h.not_mem (by decide))
  rw [readAuthority, hsplit]
  simp only [hpart, List.drop_length, hempty, h.parse_eq]
  rfl

end IsHostName

/-! ### Paths -/

/-- Is this a character that a segment is read with: no slash of either kind, and none that has to
be encoded? -/
def IsSegmentChar (c : Char) : Prop :=
  0x20 < c.toNat ∧ c.toNat < 0x7F ∧ c ≠ '/' ∧ c ≠ '\\' ∧ c ∉ pathOthers

instance (c : Char) : Decidable (IsSegmentChar c) :=
  inferInstanceAs (Decidable (_ ∧ _))

theorem IsSegmentChar.isSlash_eq_false {c : Char} (h : IsSegmentChar c) :
    Manner.web.isSlash c = false := by
  obtain ⟨-, -, hslash, hback, -⟩ := h
  rw [Manner.isSlash, beq_eq_false_iff_ne.2 hslash, beq_eq_false_iff_ne.2 hback]
  rfl

/-- A segment that is read as it is. -/
structure IsPlainSegment (segment : List Char) : Prop where
  /-- It holds what a segment is read with. -/
  chars : ∀ c ∈ segment, IsSegmentChar c
  /-- It does not mean "here". -/
  not_here : String.ofList (segment.map Char.toLower) ∉ hereNames
  /-- It does not mean "up". -/
  not_up : String.ofList (segment.map Char.toLower) ∉ upNames

instance (segment : List Char) : Decidable (IsPlainSegment segment) :=
  decidable_of_iff
    (segment.all (IsSegmentChar ·) = true ∧
      String.ofList (segment.map Char.toLower) ∉ hereNames ∧
      String.ofList (segment.map Char.toLower) ∉ upNames)
    ⟨fun h ↦ ⟨Text.forall_mem_of_all h.1, h.2.1, h.2.2⟩,
      fun h ↦ ⟨List.all_eq_true.2 fun c hc ↦ decide_eq_true (h.chars c hc), h.not_here, h.not_up⟩⟩

/-- There is nothing to encode in a text of such characters. -/
theorem encodeAll_pathOthers {segment : List Char} (h : ∀ c ∈ segment, IsSegmentChar c) :
    encodeAll pathOthers segment = segment :=
  percentEncode_of_keep fun c hc ↦ by
    obtain ⟨hlow, hhigh, -, -, hother⟩ := h c hc
    have hother : pathOthers.contains c = false :=
      Bool.eq_false_iff.2 fun hmem ↦ hother (List.contains_iff_mem.1 hmem)
    rw [hother, decide_eq_true hlow.le, decide_eq_true hhigh]
    rfl

/-- Plain segments are put behind those that are there. -/
theorem resolve_append_of_plain {names : List (List Char)} (h : ∀ name ∈ names, IsPlainSegment name)
    (before rest : List (List Char)) :
    resolve .web before (names ++ rest) = resolve .web (names.reverse ++ before) rest := by
  induction names generalizing before with
  | nil => rfl
  | cons name names ih =>
    have hname := h name List.mem_cons_self
    have hup : upNames.contains (String.ofList (name.map Char.toLower)) = false :=
      Bool.eq_false_iff.2 fun hmem ↦ hname.not_up (List.contains_iff_mem.1 hmem)
    have hhere : hereNames.contains (String.ofList (name.map Char.toLower)) = false :=
      Bool.eq_false_iff.2 fun hmem ↦ hname.not_here (List.contains_iff_mem.1 hmem)
    rw [List.cons_append, resolve]
    simp only [hup, hhere, encodeAll_pathOthers hname.chars, Bool.false_eq_true, if_false,
      reduceCtorEq, false_and]
    rw [ih fun name' hname' ↦ h name' (List.mem_cons_of_mem name hname')]
    simp

/-- Segments with slashes between them are split at these. -/
theorem splitOnP_isSlash {names : List (List Char)} {last : List Char}
    (hnames : ∀ name ∈ names, ∀ c ∈ name, Manner.web.isSlash c = false)
    (hlast : ∀ c ∈ last, Manner.web.isSlash c = false) :
    (names.flatMap (· ++ ['/']) ++ last).splitOnP Manner.web.isSlash = names ++ [last] := by
  induction names with
  | nil => exact List.splitOnP_eq_singleton hlast
  | cons name names ih =>
    rw [List.flatMap_cons, List.append_assoc, List.append_assoc, List.singleton_append,
      List.splitOnP_append_cons_of_forall_mem (hnames name List.mem_cons_self) '/' rfl,
      ih fun name' hname' ↦ hnames name' (List.mem_cons_of_mem name hname')]
    rfl

/-- **A path of plain segments is read as these**, up to its last segment. -/
theorem readSegments_of_plain {names : List (List Char)} {last : List Char}
    (hnames : ∀ name ∈ names, IsPlainSegment name) (hlast : ∀ c ∈ last, IsSegmentChar c) :
    readSegments .web (names.flatMap (· ++ ['/']) ++ last) =
      resolve .web names.reverse [last] := by
  have hfront : ∀ name ∈ names, ∀ c ∈ name, Manner.web.isSlash c = false := fun name hname c hc ↦
    ((hnames name hname).chars c hc).isSlash_eq_false
  rw [readSegments, splitOnP_isSlash hfront fun c hc ↦ (hlast c hc).isSlash_eq_false,
    resolve_append_of_plain hnames, List.append_nil]

/-! ### Dots -/

/-- What a character is that a small one stands for. -/
theorem eq_or_of_toLower_eq {c d : Char} (h : c.toLower = d) :
    c = d ∨ 65 ≤ c.toNat ∧ c.toNat ≤ 90 ∧ d.toNat = c.toNat + 32 := by
  by_cases hupper : c.val ≥ 'A'.val ∧ c.val ≤ 'Z'.val
  · have hlow : 65 ≤ c.toNat := UInt32.le_iff_toNat_le.1 hupper.1
    have hhigh : c.toNat ≤ 90 := UInt32.le_iff_toNat_le.1 hupper.2
    refine .inr ⟨hlow, hhigh, ?_⟩
    have hval : d.val = c.val + 32 := h ▸ congrArg Char.val (dif_pos hupper)
    show d.val.toNat = _
    rw [hval, UInt32.toNat_add]
    exact Nat.mod_eq_of_lt (by
      show c.toNat + 32 < _
      omega)
  · exact .inl ((dif_neg hupper).symm.trans h)

/-- A text whose small form begins with a character begins with one whose small form that is. -/
theorem map_toLower_eq_cons {s rest : List Char} {d : Char}
    (h : s.map Char.toLower = d :: rest) :
    ∃ c s', s = c :: s' ∧ c.toLower = d ∧ s'.map Char.toLower = rest := by
  cases s with
  | nil => cases h
  | cons c s => exact ⟨c, s, rfl, (List.cons.inj h).1, (List.cons.inj h).2⟩

/-- A character whose small form is before the small letters is that form. -/
theorem eq_of_toLower_eq {c d : Char} (hd : d.toNat < 97) (h : c.toLower = d) : c = d := by
  rcases eq_or_of_toLower_eq h with h | h
  · exact h
  · omega

/-- The writings of a dot, in small letters. -/
def dotWritings : List (List Char) := [['.'], ['%', '2', 'e']]

/-- The writings of "here" are those of a dot. -/
theorem map_toList_hereNames : hereNames.map String.toList = dotWritings := by
  decide

/-- The writings of "up" are those of a dot, twice, in all ways to put them together. -/
theorem map_toList_upNames : upNames.map String.toList =
    dotWritings.flatMap fun first ↦ dotWritings.map (first ++ ·) := by
  decide

/-- A dot stands for its byte, in each of its writings. -/
theorem percentBytes_dot {s mark rest : List Char} (hmark : mark ∈ dotWritings)
    (h : s.map Char.toLower = mark ++ rest) :
    ∃ s', s'.map Char.toLower = rest ∧ Text.percentBytes s = 0x2E :: Text.percentBytes s' := by
  rw [dotWritings, List.mem_cons, List.mem_singleton] at hmark
  -- Only the letter of the code may be a capital one.
  rcases hmark with rfl | rfl
  · obtain ⟨c, s, rfl, hc, hs⟩ := map_toLower_eq_cons h
    obtain rfl := eq_of_toLower_eq (by decide) hc
    exact ⟨s, hs, Text.percentBytes_cons_of_ne (by decide) s⟩
  · obtain ⟨c, s, rfl, hc, h₁⟩ := map_toLower_eq_cons h
    obtain ⟨d, s, rfl, hd, h₂⟩ := map_toLower_eq_cons h₁
    obtain ⟨e, s, rfl, he, hs⟩ := map_toLower_eq_cons h₂
    obtain rfl := eq_of_toLower_eq (by decide) hc
    obtain rfl := eq_of_toLower_eq (by decide) hd
    refine ⟨s, hs, ?_⟩
    rcases eq_or_of_toLower_eq he with rfl | ⟨-, -, hnat⟩
    · rfl
    · obtain rfl : e = 'E' := by
        have hnumber : e.toNat = 69 := Nat.add_right_cancel hnat.symm
        rw [← Char.ofNat_toNat e, hnumber]
      rfl

/-- **A segment that means "here" stands for one dot.** -/
theorem percentBytes_of_here {s : List Char}
    (h : String.ofList (s.map Char.toLower) ∈ hereNames) : Text.percentBytes s = [0x2E] := by
  have hmark := List.mem_map_of_mem (f := String.toList) h
  rw [map_toList_hereNames, String.toList_ofList] at hmark
  obtain ⟨s', hs', hbytes⟩ := percentBytes_dot hmark (List.append_nil _).symm
  obtain rfl := List.map_eq_nil_iff.1 hs'
  exact hbytes

/-- **A segment that means "up" stands for two dots.** -/
theorem percentBytes_of_up {s : List Char}
    (h : String.ofList (s.map Char.toLower) ∈ upNames) : Text.percentBytes s = [0x2E, 0x2E] := by
  have hmarks := List.mem_map_of_mem (f := String.toList) h
  rw [map_toList_upNames, String.toList_ofList] at hmarks
  obtain ⟨first, hfirst, hmarks⟩ := List.mem_flatMap.1 hmarks
  obtain ⟨second, hsecond, hs⟩ := List.mem_map.1 hmarks
  obtain ⟨s₁, hs₁, hbytes₁⟩ := percentBytes_dot hfirst hs.symm
  obtain ⟨s₂, hs₂, hbytes₂⟩ := percentBytes_dot hsecond (hs₁.trans (List.append_nil _).symm)
  obtain rfl := List.map_eq_nil_iff.1 hs₂
  rw [hbytes₁, hbytes₂]
  rfl

/-! ### Whole addresses -/

/-- The URL of a place on a host of the web. -/
def ofHost (host : List Char) (names : List (List Char)) : Url :=
  ⟨"https".toList, some ⟨[], [], .domain host, none⟩, .segments names, none, none⟩

/-- What follows the scheme is split into the host and the path. -/
theorem IsHostName.readHierarchy_eq {host : List Char} (h : IsHostName host) (path : List Char) :
    readHierarchy "https".toList .web false ("//".toList ++ (host ++ '/' :: path)) =
      .ok (some ⟨[], [], .domain host, none⟩, .segments (readSegments .web path)) := by
  have hends : ∀ c ∈ host, (!Manner.web.endsAuthority c) = true := fun c hc ↦ by
    rw [h.endsAuthority_eq_false hc]
    rfl
  have hslashes : ("//".toList ++ (host ++ '/' :: path)).dropWhile Manner.web.isSlash =
      host ++ '/' :: path := by
    rw [List.dropWhile_append_of_pos (Text.forall_mem_of_all (by decide))]
    rcases host with _ | ⟨c, rest⟩
    · exact absurd rfl h.ne_nil
    · refine List.dropWhile_cons_of_neg ?_
      rw [h.isSlash_eq_false List.mem_cons_self]
      decide
  have htake : (host ++ '/' :: path).takeWhile (!Manner.web.endsAuthority ·) = host := by
    rw [List.takeWhile_append_of_pos hends]
    exact List.append_nil host
  have hdrop : (host ++ '/' :: path).dropWhile (!Manner.web.endsAuthority ·) = '/' :: path := by
    rw [List.dropWhile_append_of_pos hends]
    rfl
  rw [readHierarchy]
  simp only [hslashes, htake, hdrop, h.readAuthority_eq]
  rfl

/-- **A web address is read as its host and the segments of its path.** -/
theorem parse_webAddress {raw : String} {host path : List Char} (hhost : IsHostName host)
    (hpath : ∀ c ∈ path, 0x20 < c.toNat ∧ c ≠ '#' ∧ c ≠ '?')
    (hraw : raw.toList = "https://".toList ++ (host ++ '/' :: path)) :
    parse raw = .ok (ofHost host (readSegments .web path)) := by
  have hvisible : ∀ c ∈ raw.toList, 0x20 < c.toNat := fun c hc ↦ by
    rw [hraw, List.mem_append, List.mem_append, List.mem_cons] at hc
    rcases hc with hc | hc | rfl | hc
    · exact Text.forall_mem_of_all (P := fun c ↦ 0x20 < c.toNat) (by decide) c hc
    · exact hhost.visible hc
    · decide
    · exact (hpath c hc).1
  have hnot : ∀ sign, sign = '#' ∨ sign = '?' → sign ∉ "//".toList ++ (host ++ '/' :: path) :=
    fun sign hsign hc ↦ by
      rw [List.mem_append, List.mem_append, List.mem_cons] at hc
      rcases hc with hc | hc | rfl | hc
      · rcases hsign with rfl | rfl <;> exact absurd hc (by decide)
      · rcases hsign with rfl | rfl <;> exact hhost.not_mem (by decide) hc
      · exact absurd hsign (by decide)
      · exact hsign.elim (hpath sign hc).2.1 (hpath sign hc).2.2
  have hscheme : splitScheme ("https://".toList ++ (host ++ '/' :: path)) =
      .ok ("https".toList, "//".toList ++ (host ++ '/' :: path)) := rfl
  have hmanner : Manner.ofScheme "https".toList = .web := by decide
  have hhash := cut_eq_of_not_mem (hnot '#' (.inl rfl))
  have hquestion := cut_eq_of_not_mem (hnot '?' (.inr rfl))
  rw [parse, cleaned_of_visible hvisible, hraw, hscheme]
  simp only [bind, Except.bind, hmanner, hhash, hquestion, Option.isSome_none, Bool.or_self,
    hhost.readHierarchy_eq]
  rfl

end Url

end AuditFeed
