import AuditFeed.Proofs.Fetch
import AuditFeed.Proofs.Url.Path

/-!
# Where a lookup goes

A lookup in the directory asks for the entry of an email in a collection. Under the provider's own
address its URL names just that entry, with the email as the last segment of its path, unless the
email is one dot or two: a dot is not encoded, and a URL takes such a segment for "here" or "up"
(`Collection.lookup_account`). Two lookups go to the same place only if they ask for the same entry,
or both for two dots.

## What it is to name an entry

`Url.NamesEntry` is told by the texts of a URL and not by how it was built: the scheme and the host
of the provider, a path with one segment behind the collection that is read as the email, and
nothing else. The segment is found in the text of the path. So a URL that was led elsewhere does not
name the entry, even if the address that it was parsed from looks as if it did.

## Two collections at once

`Collection` stands for the two ways to look up, which differ by a name only. `Collection.address`
and `Collection.lookup` tie it to the functions that are called, and everything after that is stated
once for both.

## Dots

Encoding leaves letters, digits and four signs as they are, a dot among them. An encoded email holds
no slash, so it is a segment like any other, with the two exceptions that a URL makes for dots. A
URL makes them for encoded dots as well, which does not matter here, as no email is encoded as these
(`eq_of_percentBytes`).

## Main statements

* `Collection.lookup_account`: the URL of a lookup, what it names, what is sent, and which lookups
  share it.
-/

namespace AuditFeed

open Call

variable {ω : Type}

/-- The collections of the directory that are searched by email. -/
inductive Collection where
  | groups
  | users
deriving DecidableEq

namespace Collection

/-- The name of a collection. -/
def name : Collection → String
  | groups => "groups"
  | users => "users"

/-- Where the entry with an email is. -/
def address (k : Collection) (e : Endpoints) (email : String) : String :=
  match k with
  | groups => e.group email
  | users => e.user email

/-- Looks up the entry with an email. -/
def lookup (k : Collection) (p : Provider ω) (grant : Grant) (email : String) :
    Call ω RequestError Lookup :=
  match k with
  | groups => p.lookupGroup grant email
  | users => p.lookupUser grant email

/-- A lookup in a collection is one at its address. -/
theorem lookup_eq (k : Collection) (p : Provider ω) (grant : Grant) (email : String) :
    k.lookup p grant email = p.lookup grant (k.address p.endpoints email) := by
  cases k <;> rfl

/-! ### Addresses -/

/-- The host of the provider. -/
def providerHost : List Char := "admin.googleapis.com".toList

/-- The host of the provider is a name that a URL may have. -/
theorem isHostName_providerHost : Url.IsHostName providerHost where
  toIsPlainName := by decide
  ne_nil := by decide
  not_number := by decide

/-- The segments above the collections. -/
def root : List (List Char) := ["admin".toList, "directory".toList, "v1".toList]

/-- The segments of a collection. -/
def path (k : Collection) : List (List Char) := root ++ [k.name.toList]

/-- The segments of a collection are read as they are. -/
theorem isPlainSegment_path (k : Collection) : ∀ name ∈ k.path, Url.IsPlainSegment name := by
  cases k <;> decide

/-- The address of an entry, piece by piece. -/
theorem toList_address (k : Collection) (email : String) :
    (k.address .standard email).toList = "https://".toList ++ (providerHost ++ '/' ::
      (k.path.flatMap (· ++ ['/']) ++ (Text.encodePart email).toList)) := by
  cases k <;> simp only [address, Endpoints.group, Endpoints.user, String.toList_append] <;> rfl

/-- An encoded email holds only what may stand in a segment. -/
theorem isSegmentChar_encodePart (email : String) :
    ∀ c ∈ (Text.encodePart email).toList, Url.IsSegmentChar c := by
  have hsigns : ∀ sign ∈ '/' :: '\\' :: Url.pathOthers, sign ∉ (Text.encodePart email).toList := by
    have hall : ∀ sign ∈ '/' :: '\\' :: Url.pathOthers,
        Text.isUnreserved sign = false ∧ sign ≠ '%' := Text.forall_mem_of_all (by decide)
    exact fun sign hsign ↦ Text.not_mem_encodePart (hall sign hsign).1 (hall sign hsign).2
  intro c hc
  obtain ⟨hlow, hhigh⟩ := Text.toNat_of_mem_encodePart hc
  refine ⟨hlow, hhigh, ?_, ?_, fun hother ↦ ?_⟩
  · rintro rfl
    exact hsigns _ List.mem_cons_self hc
  · rintro rfl
    exact hsigns _ (List.mem_cons_of_mem _ List.mem_cons_self) hc
  · exact hsigns c (List.mem_cons_of_mem _ (List.mem_cons_of_mem _ hother)) hc

/-- An email that is encoded as the writing of dots is these dots. -/
theorem eq_of_percentBytes {email dots : String}
    (h : Text.percentBytes (Text.encodePart email).toList = Text.utf8 dots.toList) :
    email = dots := by
  have hemail := Text.percentDecode_encodePart email
  rw [Text.percentDecode, Text.decodeUtf8Lossy, h, Text.decodeUtf8_utf8] at hemail
  exact (String.toList_inj.1 hemail).symm

/-- One dot is the only email that means "here". -/
theorem here_encodePart_iff {email : String} :
    String.ofList ((Text.encodePart email).toList.map Char.toLower) ∈ Url.hereNames ↔
      email = "." := by
  refine ⟨fun h ↦ eq_of_percentBytes (Url.percentBytes_of_here h), ?_⟩
  rintro rfl
  decide

/-- Two dots are the only one that means "up". -/
theorem up_encodePart_iff {email : String} :
    String.ofList ((Text.encodePart email).toList.map Char.toLower) ∈ Url.upNames ↔
      email = ".." := by
  refine ⟨fun h ↦ eq_of_percentBytes (Url.percentBytes_of_up h), ?_⟩
  rintro rfl
  decide

/-- What an email is read as behind its collection, unless it leads out of that: one dot as nothing.
-/
def lastSegment (email : String) : List Char :=
  if email = "." then [] else (Text.encodePart email).toList

/-- The segments that the address of an entry is read as. -/
def segments (k : Collection) (email : String) : List (List Char) :=
  if email = ".." then root ++ [[]] else k.path ++ [lastSegment email]

/-- Any other email stays in its collection. -/
theorem segments_of_ne (k : Collection) {email : String} (h : email ≠ "..") :
    k.segments email = k.path ++ [lastSegment email] :=
  if_neg h

/-- Two dots are told by the number of segments. -/
theorem length_segments (k : Collection) (email : String) :
    (k.segments email).length = if email = ".." then 4 else 5 := by
  rw [segments]
  split <;> rfl

/-- **A path is followed to the entry**, or to where the dots lead. -/
theorem resolve_eq (k : Collection) (email : String) :
    Url.resolve .web k.path.reverse [(Text.encodePart email).toList] = k.segments email := by
  by_cases hdots : email = ".."
  · subst hdots
    cases k <;> decide
  by_cases hdot : email = "."
  · subst hdot
    cases k <;> decide
  have hplain : Url.IsPlainSegment (Text.encodePart email).toList :=
    ⟨isSegmentChar_encodePart email, mt here_encodePart_iff.1 hdot, mt up_encodePart_iff.1 hdots⟩
  have hresolve :=
    Url.resolve_append_of_plain (List.forall_mem_singleton.2 hplain) k.path.reverse []
  rw [List.append_nil] at hresolve
  rw [hresolve, Url.resolve, segments_of_ne k hdots, lastSegment, if_neg hdot]
  simp

/-- **Where the address of an entry leads.** -/
theorem parse_address (k : Collection) (email : String) :
    Url.parse (k.address .standard email) =
      .ok (Url.ofHost providerHost (k.segments email)) := by
  have hfixed : ∀ c ∈ k.path.flatMap (· ++ ['/']), 0x20 < c.toNat ∧ c ≠ '#' ∧ c ≠ '?' :=
    Text.forall_mem_of_all (by cases k <;> decide)
  have hpath : ∀ c ∈ k.path.flatMap (· ++ ['/']) ++ (Text.encodePart email).toList,
      0x20 < c.toNat ∧ c ≠ '#' ∧ c ≠ '?' := fun c hc ↦ by
    rcases List.mem_append.1 hc with hc | hc
    · exact hfixed c hc
    · obtain ⟨hlow, -, -, -, hother⟩ := isSegmentChar_encodePart email c hc
      exact ⟨hlow, fun h ↦ hother (h ▸ by decide), fun h ↦ hother (h ▸ by decide)⟩
  rw [Url.parse_webAddress isHostName_providerHost hpath (k.toList_address email),
    Url.readSegments_of_plain k.isPlainSegment_path (isSegmentChar_encodePart email), k.resolve_eq]

end Collection

/-! ### Entries -/

/-- Does a URL name the entry of a collection that has an email, and nothing besides? -/
structure Url.NamesEntry (u : Url) (k : Collection) (email : String) : Prop where
  /-- It leads to the provider. -/
  place : u.scheme = "https".toList ∧
    u.authority = some ⟨[], [], .domain "admin.googleapis.com".toList, none⟩
  /-- Its path is that of the collection and one segment behind it, which is read as the email. -/
  path : ∃ segment, u.pathText = "/admin/directory/v1/" ++ k.name ++ "/" ++ segment ∧
    '/' ∉ segment.toList ∧ Text.percentDecode segment.toList = email.toList
  /-- Nothing follows the path. -/
  rest : u.query = none ∧ u.fragment = none

namespace Collection

/-- The text of a path in a collection. -/
theorem pathText_ofHost (k : Collection) (segment : List Char) :
    (Url.ofHost providerHost (k.path ++ [segment])).pathText =
      "/admin/directory/v1/" ++ k.name ++ "/" ++ String.ofList segment := by
  rw [← String.toList_inj]
  simp only [Url.pathText, Url.ofHost, Url.Path.text, String.toList_append, String.toList_ofList,
    List.flatMap_append, List.flatMap_singleton]
  cases k <;> rfl

/-- An email of one dot leads to the collection. -/
theorem pathText_dot (k : Collection) :
    (Url.ofHost providerHost (k.segments ".")).pathText =
      "/admin/directory/v1/" ++ k.name ++ "/" := by
  cases k <;> decide

/-- An email of two dots leads out of the collection. -/
theorem pathText_dots (k : Collection) :
    (Url.ofHost providerHost (k.segments "..")).pathText = "/admin/directory/v1/" := by
  cases k <;> decide

/-- **The URL of an entry names that entry**, unless its email is one dot or two. -/
theorem namesEntry_iff (k : Collection) (email : String) :
    (Url.ofHost providerHost (k.segments email)).NamesEntry k email ↔
      email ≠ "." ∧ email ≠ ".." := by
  constructor
  · -- A dot leaves an empty segment, and two dots leave not even the name of the collection.
    rintro ⟨-, ⟨segment, hpath, -, hsegment⟩, -⟩
    have hpath := congrArg String.toList hpath
    constructor
    · rintro rfl
      simp only [pathText_dot, String.toList_append] at hpath
      rw [List.self_eq_append_right.1 hpath] at hsegment
      exact absurd (hsegment.symm.trans (Text.percentDecode_encodePart "")) (by decide)
    · rintro rfl
      simp only [pathText_dots, String.toList_append, List.append_assoc] at hpath
      have hname := (List.append_eq_nil_iff.1 (List.self_eq_append_right.1 hpath)).1
      exact absurd hname (by cases k <;> decide)
  · rintro ⟨hdot, hdots⟩
    rw [segments_of_ne k hdots, lastSegment, if_neg hdot]
    refine ⟨⟨rfl, rfl⟩, ⟨Text.encodePart email, ?_, ?_, Text.percentDecode_encodePart email⟩,
      ⟨rfl, rfl⟩⟩
    · rw [pathText_ofHost, String.ofList_toList]
    · exact Text.not_mem_encodePart rfl (by decide)

/-- A collection is told by its path. -/
theorem path_injective {k k' : Collection} (h : k.path = k'.path) : k = k' := by
  revert h
  cases k <;> cases k' <;> decide

/-- Emails that are not empty are told apart by the last segment. -/
theorem lastSegment_injective {email email' : String} (hne : email ≠ "") (hne' : email' ≠ "")
    (h : lastSegment email = lastSegment email') : email = email' := by
  -- A dot becomes an empty segment, and no other email but the empty one does.
  have hfull : ∀ s : String, s ≠ "" → (Text.encodePart s).toList ≠ [] := fun s hs heq ↦
    hs (Text.encodePart_injective (String.toList_inj.1 heq))
  rw [lastSegment, lastSegment] at h
  split at h
  · split at h
    · rename_i hdot hdot'
      exact hdot.trans hdot'.symm
    · exact absurd h.symm (hfull email' hne')
  · split at h
    · exact absurd h (hfull email hne)
    · exact Text.encodePart_injective (String.toList_inj.1 h)

/-- **Entries that share an address**: the same one, or two with two dots for an email. -/
theorem segments_eq_iff {k k' : Collection} {email email' : String} (hne : email ≠ "")
    (hne' : email' ≠ "") :
    k.segments email = k'.segments email' ↔
      k = k' ∧ email = email' ∨ email = ".." ∧ email' = ".." := by
  constructor
  · intro h
    -- The number of segments tells two dots from any other email, so both are that or neither is.
    have hlength := congrArg List.length h
    rw [length_segments, length_segments] at hlength
    by_cases hdots : email = ".." <;> by_cases hdots' : email' = ".."
    · exact .inr ⟨hdots, hdots'⟩
    · rw [if_pos hdots, if_neg hdots'] at hlength
      cases hlength
    · rw [if_neg hdots, if_pos hdots'] at hlength
      cases hlength
    · rw [segments_of_ne k hdots, segments_of_ne k' hdots'] at h
      obtain ⟨hpath, hlast⟩ := List.append_inj' h rfl
      exact .inl ⟨path_injective hpath,
        lastSegment_injective hne hne' (List.singleton_inj.1 hlast)⟩
  · rintro (⟨rfl, rfl⟩ | ⟨rfl, rfl⟩) <;> rfl

/-! ### Lookups -/

/-- **Where lookups go.** Under the provider's own address each lookup by email has one URL, and
asks for tokens and for that URL only; it asks for it before it answers. The URL names the entry of
the collection that has the email, unless the email is one dot or two: then it leads to the
collection or to what is above the collections. Two lookups by emails that are not empty share
their URL exactly if they are for the same email in the same collection, or both for two dots. -/
theorem lookup_account (k : Collection) (email : String) :
    ∃ url, Url.parse (k.address .standard email) = .ok url ∧
      (url.NamesEntry k email ↔ email ≠ "." ∧ email ≠ "..") ∧
      (email = "." → url.pathText = "/admin/directory/v1/" ++ k.name ++ "/") ∧
      (email = ".." → url.pathText = "/admin/directory/v1/") ∧
      (∀ (ω : Type) (network : Network ω) (policy : RetryPolicy) (tokens : TokenSupply ω)
        (grant : Grant) (s t : Session ω) (r : Except RequestError Lookup),
        (k.lookup ⟨network, policy, .standard, tokens.source⟩ grant email).outcome s =
          .ok (r, t) →
        ∃ work, Session.Notes (Provider.MayFetch url) s t work ∧
          ∀ answer, r = .ok answer → ∃ request, .attempt request ∈ work ∧ request.Gets url) ∧
      ∀ (k' : Collection) (email' : String), email ≠ "" → email' ≠ "" →
        (Url.parse (k'.address .standard email') = .ok url ↔
          k = k' ∧ email = email' ∨ email = ".." ∧ email' = "..") := by
  refine ⟨_, k.parse_address email, k.namesEntry_iff email, ?_, ?_, ?_,
    fun k' email' hne hne' ↦ ?_⟩
  · rintro rfl
    exact k.pathText_dot
  · rintro rfl
    exact k.pathText_dots
  · intro ω network policy tokens grant s t r h
    rw [lookup_eq] at h
    exact Provider.exists_notes_lookup rfl (k.parse_address email) h
  · rw [k'.parse_address, Except.ok.injEq, Url.ofHost, Url.ofHost, Url.mk.injEq,
      Url.Path.segments.injEq, eq_comm (a := k'.segments email'), segments_eq_iff hne hne']
    simp

/-- **An email of two dots leads out of its collection**, to a place that is no entry and that is
the same for both. -/
theorem not_namesEntry_dots :
    ∃ url, Url.parse (Endpoints.standard.group "..") = .ok url ∧
      Url.parse (Endpoints.standard.user "..") = .ok url ∧
      url.pathText = "/admin/directory/v1/" ∧ ¬ url.NamesEntry .groups ".." :=
  ⟨_, groups.parse_address "..", users.parse_address "..", groups.pathText_dots,
    fun h ↦ ((groups.namesEntry_iff "..").1 h).2 rfl⟩

end Collection

end AuditFeed
