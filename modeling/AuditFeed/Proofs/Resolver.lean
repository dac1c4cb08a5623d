import AuditFeed.Proofs.Session
import AuditFeed.Resolver

/-!
# What a resolved email rests on

`Directory.Answers` says where the answer for an email comes from: from what is kept, without a
lookup, or from the one lookup that is made. It is the only place where the kept answers and the
directory meet, and `Directory.resolve` is exactly it (`Answers.outcome_resolve`).

An answer is an id or nothing, and that there is nothing is kept like an id. A failure is no answer.
It is not kept, so the next call for the same email asks again. An email is asked for and kept in
its normalized form, and the key of an answer holds the type besides, so a group and a user of one
address do not get into each other's way.

## Two demands on a directory

Most of what is proved of polls asks little of the directory:

* `IsSteady` only has each lookup end and not cancel. The answers may change from lookup to lookup,
  and may depend on all that was asked before.
* `HasTable` has it say the same of an email whenever it is asked. The kept answers cannot be told
  from it then, so all answers are those of one table from the start (`Answers.eq_tableAnswer`).
  That table is `tableAnswer`: what is kept, and behind it what the directory says, since nobody
  promises that what was kept at first agrees with it.

Both are about sessions in which the caller has not cancelled. What a directory says to a caller who
has is not looked at here.
-/

namespace AuditFeed

variable {ω : Type}

/-- What an email is remembered by. -/
def lookupKey (type : ResourceType) (email : String) : LookupKey :=
  (type, normalizedEmail email)

/-- An answer that is kept is found under its key; under every other key there is what there was. -/
theorem Session.known?_keep {s t : Session ω} (hids : t.ids = s.ids) (key key' : LookupKey)
    (id : Option String) :
    Session.known? { t with ids := (key, id) :: t.ids } key' =
      if key' = key then some id else s.known? key' := by
  rw [known?, known?, List.lookup_cons, hids]
  by_cases hkey : key' = key
  · rw [if_pos hkey, beq_iff_eq.2 hkey]
  · rw [if_neg hkey, beq_eq_false_iff_ne.2 hkey]

namespace Directory

open Call

/-- An email is answered in `s`, which leaves `t`. A kept answer needs no lookup; the answer of a
lookup is kept, that there is nothing included; a lookup that fails keeps nothing. -/
inductive Answers (d : Directory ω) (type : ResourceType) (email : String) :
    Session ω → Except RequestError (Option String) → Session ω → Prop
  | kept {s : Session ω} {id : Option String} (h : s.known? (lookupKey type email) = some id) :
      Answers d type email s (.ok id) s
  | asked {s t : Session ω} {answer : Lookup} (h : s.known? (lookupKey type email) = none)
      (hd : (d type (normalizedEmail email)).Returns s answer t) :
      Answers d type email s (.ok answer.id?)
        { t with ids := (lookupKey type email, answer.id?) :: t.ids }
  | failed {s t : Session ω} {e : RequestError} (h : s.known? (lookupKey type email) = none)
      (hd : (d type (normalizedEmail email)).Fails s e t) :
      Answers d type email s (.error e) t

/-- What the caller sees of a lookup that fails. -/
def refusal (type : ResourceType) (email : String) (e : RequestError) : SyncError :=
  e.classify s!"resolving {type.name} {normalizedEmail email}"

variable {d : Directory ω} {type : ResourceType} {email : String} {s t : Session ω}
  {answer : Except RequestError (Option String)}

/-- **An email is resolved as it is answered.** -/
theorem Answers.outcome_resolve (h : d.Answers type email s answer t) :
    (d.resolve type email).outcome s = .ok (answer.mapError (refusal type email), t) := by
  cases h with
  | kept h =>
    have hknown : s.known? (type, normalizedEmail email) = _ := h
    rw [resolve, outcome_bind, outcome_get]
    simp only [hknown]
    rfl
  | asked h hd =>
    have hknown : s.known? (type, normalizedEmail email) = _ := h
    rw [resolve, outcome_bind, outcome_get]
    simp only [hknown, outcome_bind, outcome_mapError]
    rw [hd]
    rfl
  | failed h hd =>
    have hknown : s.known? (type, normalizedEmail email) = _ := h
    rw [resolve, outcome_bind, outcome_get]
    simp only [hknown, outcome_bind, outcome_mapError]
    rw [hd]
    rfl

/-- Does each lookup end, with an answer or an error, and without cancelling? -/
def IsSteady (d : Directory ω) : Prop :=
  ∀ type email s, s.cancelled = false →
    ∃ r t, (d type email).outcome s = .ok (r, t) ∧ t.cancelled = false

/-- A steady directory leaves no email without an answer or an error. -/
theorem IsSteady.exists_answers (hd : d.IsSteady) (hs : s.cancelled = false) :
    ∃ answer t, d.Answers type email s answer t ∧ t.cancelled = false := by
  cases h : s.known? (lookupKey type email) with
  | some id => exact ⟨_, s, .kept h, hs⟩
  | none =>
    obtain ⟨r, t, hr, ht⟩ := hd type (normalizedEmail email) s hs
    cases r with
    | ok answer => exact ⟨_, _, .asked h hr, ht⟩
    | error e => exact ⟨_, _, .failed h hr, ht⟩

/-! ### Directories that are tables -/

/-- Does the directory say what the table says, whenever it is asked, and leave the kept answers
alone? -/
def HasTable (d : Directory ω) (table : ResourceType → String → Except RequestError Lookup) :
    Prop :=
  ∀ type email s, s.cancelled = false →
    ∃ t, (d type email).outcome s = .ok (table type email, t) ∧ t.cancelled = false ∧ t.ids = s.ids

/-- What is kept for an email, or else what the table says of it. -/
def tableAnswer (table : ResourceType → String → Except RequestError Lookup) (s : Session ω)
    (type : ResourceType) (email : String) : Except RequestError (Option String) :=
  match s.known? (lookupKey type email) with
  | some id => .ok id
  | none => (table type (normalizedEmail email)).map Lookup.id?

/-- Keeping what the table says changes no answer. -/
theorem tableAnswer_keep {table : ResourceType → String → Except RequestError Lookup}
    {found : Lookup} (h : s.known? (lookupKey type email) = none)
    (htable : table type (normalizedEmail email) = .ok found) (hids : t.ids = s.ids) :
    tableAnswer table { t with ids := (lookupKey type email, found.id?) :: t.ids } =
      tableAnswer table s := by
  funext type' email'
  rw [tableAnswer, tableAnswer, Session.known?_keep hids]
  by_cases hkey : lookupKey type' email' = lookupKey type email
  · obtain ⟨rfl, hemail⟩ := Prod.mk.inj hkey
    rw [if_pos hkey, hkey, h, hemail, htable]
    rfl
  · rw [if_neg hkey]

/-- **Where a directory is a table, its answers and those kept are one table**, which no answer
changes. -/
theorem Answers.eq_tableAnswer {table : ResourceType → String → Except RequestError Lookup}
    (hd : d.HasTable table) (hs : s.cancelled = false) (h : d.Answers type email s answer t) :
    answer = tableAnswer table s type email ∧ tableAnswer table t = tableAnswer table s ∧
      t.cancelled = false := by
  cases h with
  | kept h => exact ⟨by rw [tableAnswer, h], rfl, hs⟩
  | asked h hr =>
    obtain ⟨u, hu, hcancelled, hids⟩ := hd type (normalizedEmail email) s hs
    obtain ⟨htable, rfl⟩ := Prod.mk.inj (Except.ok.inj (hu.symm.trans hr))
    refine ⟨?_, tableAnswer_keep h htable hids, hcancelled⟩
    rw [tableAnswer, h, htable]
    rfl
  | failed h hr =>
    obtain ⟨u, hu, hcancelled, hids⟩ := hd type (normalizedEmail email) s hs
    obtain ⟨htable, rfl⟩ := Prod.mk.inj (Except.ok.inj (hu.symm.trans hr))
    refine ⟨?_, ?_, hcancelled⟩
    · rw [tableAnswer, h, htable]
      rfl
    · funext type' email'
      rw [tableAnswer, tableAnswer, Session.known?, Session.known?, hids]

end Directory

end AuditFeed
