import AuditFeed.Activity.Usage
import Mathlib.Data.List.Forall2
import Mathlib.Data.List.TakeWhile

/-!
# All of an activity or nothing

What an activity of the token log says is settled event by event. An event that is no authorization
says nothing, and neither does the authorization of one of the provider's own applications. Any
other authorization says one thing, or it lacks something: the client id, the name of the
application or the user, and of these the first is told (`settles_authorization`).

The events are then taken together. The first that lacks something is the refusal of the whole
activity, and if none does, there is one event for each authorization of a foreign application, in
order (`usage_account`).

## What is said without the interpreter

The right side of each statement is told by the record alone:

* `ActivityEvent.Holds` is a value under a name. Only the first parameter of the name counts, even
  if its value is blank and a later one has one. A number counts where there is no text.
* `IsOwnApp` is the shape of a client id, as digits and an ending, without the scan that looks for
  it.
* `Lacks` lists what is looked for, in this order. The user comes last and only for a foreign
  application, so an activity without a user is refused for no other reason than such an
  application.
* `Reports` is the event that a feed tells of. It holds the id, the time and the user of the
  activity, and both values as the event holds them, without blanks.

## The order of two searches

A refusal is the first of two kinds at once: of all events the first one that lacks something, and
of what that event lacks the first. `Lacks.unique` takes care of the second. The first is a fact
about `mapM` in `Except` (`mapM_eq_error_iff`), which is where the events before it are seen to lack
nothing.

What a refusal says is spelled out (`eq_lacking_iff`), since a caller has no other way to find the
record that was left out.

## Main statements

* `Activity.usage_account`: when an activity is refused and what the refusal says, which events it
  has otherwise, and which applications are the provider's own.
-/

namespace AuditFeed

open Text

/-! ### Lists up to the first error -/

section

variable {α β ε : Type} {f : α → Except ε β}

/-- A list is gone through without an error if every item is. -/
theorem mapM_eq_ok_iff {as : List α} {bs : List β} :
    as.mapM f = .ok bs ↔ List.Forall₂ (fun a b ↦ f a = .ok b) as bs := by
  induction as generalizing bs with
  | nil => cases bs <;> simp [pure, Except.pure]
  | cons a as ih =>
    rw [List.mapM_cons, List.forall₂_cons_left_iff]
    cases ha : f a with
    | error e => simp [bind, Except.bind]
    | ok b =>
      cases has : as.mapM f with
      | error e => simp [bind, Except.bind, ← ih, has]
      | ok rest => simp [bind, Except.bind, pure, Except.pure, ← ih, has, eq_comm]

/-- Otherwise the first item with an error decides. -/
theorem mapM_eq_error_iff {as : List α} {e : ε} :
    as.mapM f = .error e ↔
      ∃ before a after, as = before ++ a :: after ∧ (∀ b ∈ before, ∃ y, f b = .ok y) ∧
        f a = .error e := by
  constructor
  · intro h
    induction as with
    | nil => cases h
    | cons a as ih =>
      rw [List.mapM_cons] at h
      cases ha : f a with
      | error e' =>
        rw [ha] at h
        cases h
        exact ⟨[], a, as, rfl, by simp, ha⟩
      | ok y =>
        rw [ha] at h
        cases has : as.mapM f with
        | ok bs =>
          rw [has] at h
          cases h
        | error e' =>
          rw [has] at h
          cases h
          obtain ⟨before, b, after, rfl, hbefore, hb⟩ := ih has
          exact ⟨a :: before, b, after, rfl, List.forall_mem_cons.2 ⟨⟨y, ha⟩, hbefore⟩, hb⟩
  · rintro ⟨before, a, after, rfl, hbefore, ha⟩
    induction before with
    | nil =>
      rw [List.nil_append, List.mapM_cons, ha]
      rfl
    | cons c before ih =>
      obtain ⟨⟨y, hc⟩, hbefore⟩ := List.forall_mem_cons.1 hbefore
      rw [List.cons_append, List.mapM_cons, hc, ih hbefore]
      rfl

end

/-! ### The provider's own applications -/

/-- Is an application one of the provider's own: its client id is its name, and made of digits, at
least one, with nothing or the usual ending after them? -/
def IsOwnApp (clientId appName : String) : Prop :=
  clientId = appName ∧ ∃ digits : List Char, digits ≠ [] ∧ (∀ c ∈ digits, '0' ≤ c ∧ c ≤ '9') ∧
    (clientId.toList = digits ∨
      clientId.toList = digits ++ ".apps.googleusercontent.com".toList)

/-- The scan for a client id finds the texts of that shape and no others. -/
theorem isProjectClientId_iff {s : List Char} :
    isProjectClientId s = true ↔
      ∃ digits : List Char, digits ≠ [] ∧ (∀ c ∈ digits, isDigit c = true) ∧
        (s = digits ∨ s = digits ++ clientIdSuffix) := by
  rw [isProjectClientId, Bool.and_eq_true, Bool.or_eq_true, beq_iff_eq, beq_iff_eq,
    decide_eq_true_iff]
  constructor
  · rintro ⟨hshorter, hrest⟩
    have hsplit : s = s.takeWhile isDigit ++ s.dropWhile isDigit :=
      List.takeWhile_append_dropWhile.symm
    refine ⟨s.takeWhile isDigit, fun hnil ↦ ?_, fun c hc ↦ List.mem_takeWhile_imp hc, ?_⟩
    · rw [hnil, List.nil_append] at hsplit
      rw [← hsplit] at hshorter
      exact Nat.lt_irrefl _ hshorter
    · rcases hrest with hrest | hrest
      · rw [hrest, List.append_nil] at hsplit
        exact .inl hsplit
      · rw [hrest] at hsplit
        exact .inr hsplit
  · rintro ⟨digits, hne, hdigits, hs⟩
    -- The digits are all of the leading ones, since the ending does not start with one.
    obtain ⟨rest, hrest, hends, rfl⟩ : ∃ rest, (rest = [] ∨ rest = clientIdSuffix) ∧
        rest.dropWhile isDigit = rest ∧ s = digits ++ rest := by
      rcases hs with rfl | rfl
      · exact ⟨[], .inl rfl, rfl, (List.append_nil _).symm⟩
      · exact ⟨clientIdSuffix, .inr rfl, by decide, rfl⟩
    rw [List.dropWhile_append_of_pos hdigits, hends, List.length_append]
    exact ⟨Nat.lt_add_of_pos_left (List.length_pos_of_ne_nil hne), hrest⟩

/-- **The provider's own applications** are told by their client id and their name alone. -/
theorem isPrivateApp_iff {clientId appName : String} :
    isPrivateApp clientId appName = true ↔ IsOwnApp clientId appName := by
  rw [isPrivateApp, Bool.and_eq_true, decide_eq_true_iff, isProjectClientId_iff, IsOwnApp]
  simp only [isDigit, Bool.and_eq_true, decide_eq_true_iff]
  exact Iff.rfl

/-! ### Parameters -/

namespace ActivityEvent

/-- Does an event hold a value under a name? Only its first parameter of that name counts. The value
is the text of that parameter, or the number if it has no text, without blanks around it; a blank
one is none. -/
def Holds (s : ActivityEvent) (name value : String) : Prop :=
  ∃ before p after raw, s.parameters = before ++ p :: after ∧ (∀ q ∈ before, q.name ≠ name) ∧
    p.name = name ∧ (p.value = some raw ∨ p.value = none ∧ p.intValue = some raw) ∧
    value = trim raw ∧ value ≠ ""

variable {s : ActivityEvent} {name value : String}

/-- **The value under a name** is that of its first parameter, unless it is blank. -/
theorem param?_eq_some_iff : s.param? name = some value ↔ s.Holds name value := by
  have hparam : s.param? name = (s.parameters.find? (·.name = name)).bind fun p ↦
      (p.value <|> p.intValue).bind fun raw ↦ if trim raw = "" then none else some (trim raw) := rfl
  have hraw (p : Parameter) (raw : String) : (p.value <|> p.intValue) = some raw ↔
      p.value = some raw ∨ p.value = none ∧ p.intValue = some raw := by
    cases p.value <;> simp
  rw [hparam, Holds]
  constructor
  · intro h
    obtain ⟨p, hfind, h⟩ := Option.bind_eq_some_iff.1 h
    obtain ⟨raw, hp, h⟩ := Option.bind_eq_some_iff.1 h
    obtain ⟨hname, before, after, hparameters, hbefore⟩ := List.find?_eq_some_iff_append.1 hfind
    split at h
    · cases h
    · rename_i hblank
      cases h
      exact ⟨before, p, after, raw, hparameters, by simpa using hbefore, by simpa using hname,
        (hraw p raw).1 hp, rfl, hblank⟩
  · rintro ⟨before, p, after, raw, hparameters, hbefore, hname, hp, rfl, hblank⟩
    have hfind : s.parameters.find? (·.name = name) = some p :=
      List.find?_eq_some_iff_append.2
        ⟨by simpa using hname, before, after, hparameters, by simpa using hbefore⟩
    rw [hfind, Option.bind_some, (hraw p raw).2 hp, Option.bind_some, if_neg hblank]

/-- Otherwise there is none. -/
theorem param?_eq_none_iff : s.param? name = none ↔ ∀ value, ¬ s.Holds name value := by
  rw [Option.eq_none_iff_forall_ne_some]
  exact forall_congr' fun value ↦ not_congr param?_eq_some_iff

/-- There is one value at most under a name. -/
theorem Holds.unique {value' : String} (h : s.Holds name value) (h' : s.Holds name value') :
    value = value' :=
  Option.some.inj ((param?_eq_some_iff.2 h).symm.trans (param?_eq_some_iff.2 h'))

/-- Does an event authorize an application that is not one of the provider's own? -/
def AuthorizesForeign (s : ActivityEvent) : Prop :=
  s.name = "authorize" ∧ ∃ clientId appName, s.Holds "client_id" clientId ∧
    s.Holds "app_name" appName ∧ ¬ IsOwnApp clientId appName

/-- The same, by what is found under the two names. So it can be decided. -/
theorem authorizesForeign_iff :
    s.AuthorizesForeign ↔
      s.name = "authorize" ∧ ∃ clientId ∈ s.param? "client_id", ∃ appName ∈ s.param? "app_name",
        isPrivateApp clientId appName = false := by
  simp only [AuthorizesForeign, Option.mem_def, param?_eq_some_iff, ← Bool.not_eq_true,
    isPrivateApp_iff, exists_and_left]

instance : DecidablePred AuthorizesForeign := fun _ ↦
  decidable_of_iff _ authorizesForeign_iff.symm

/-- With both values at hand, only the application decides. -/
theorem authorizesForeign_iff_of_holds {clientId appName : String} (hname : s.name = "authorize")
    (hclient : s.Holds "client_id" clientId) (happ : s.Holds "app_name" appName) :
    s.AuthorizesForeign ↔ ¬ IsOwnApp clientId appName := by
  constructor
  · rintro ⟨-, clientId', appName', hclient', happ', hforeign⟩
    rwa [hclient.unique hclient', happ.unique happ']
  · exact fun hforeign ↦ ⟨hname, clientId, appName, hclient, happ, hforeign⟩

end ActivityEvent

namespace Activity

/-! ### What an activity lacks -/

/-- What an authorization needs, in the order in which it is looked for. -/
inductive Need where
  | clientId
  | appName
  | actor
deriving DecidableEq

/-- The name of a need. -/
def Need.name : Need → String
  | clientId => "client_id"
  | appName => "app_name"
  | actor => "actor"

/-- Is the user with this durable id and this email behind an activity? The id may not be empty. -/
def IsBy (a : Activity) (id email : String) : Prop :=
  a.actor.profileId = some id ∧ id ≠ "" ∧ a.actor.email = some email

/-- **What an event of an activity lacks first.** The user is needed for foreign applications
only. -/
inductive Lacks (a : Activity) (s : ActivityEvent) : Need → Prop
  /-- There is no client id. -/
  | clientId (hname : s.name = "authorize") (h : ∀ value, ¬ s.Holds "client_id" value) :
      Lacks a s .clientId
  /-- There is a client id, but no name. -/
  | appName {clientId : String} (hname : s.name = "authorize")
      (hclient : s.Holds "client_id" clientId) (h : ∀ value, ¬ s.Holds "app_name" value) :
      Lacks a s .appName
  /-- There are both, and no user. -/
  | actor (hforeign : s.AuthorizesForeign) (h : ∀ id email, ¬ a.IsBy id email) : Lacks a s .actor

/-- The event of a feed that tells of an authorization. -/
def Reports (a : Activity) (s : ActivityEvent) (event : Event) : Prop :=
  ∃ clientId appName id email, s.Holds "client_id" clientId ∧ s.Holds "app_name" appName ∧
    a.IsBy id email ∧
    event = ⟨a.id.uniqueQualifier, .ofActivityTime a.id.time,
      .usage ⟨.app, clientId, some appName⟩ ⟨id, email⟩⟩

/-- How an event of an activity is settled. -/
inductive Settles (a : Activity) (s : ActivityEvent) : Except SyncError (List Event) → Prop
  /-- It says nothing. -/
  | silent (h : ∀ need, ¬ a.Lacks s need) (hforeign : ¬ s.AuthorizesForeign) : Settles a s (.ok [])
  /-- It says that a foreign application was authorized. -/
  | use {event : Event} (h : ∀ need, ¬ a.Lacks s need) (hforeign : s.AuthorizesForeign)
      (hevent : a.Reports s event) : Settles a s (.ok [event])
  /-- It lacks something. -/
  | lacking {need : Need} (h : a.Lacks s need) : Settles a s (.error (a.lacking need.name))

variable {a : Activity} {s : ActivityEvent}

/-- Either the user is behind the activity, or the user is what it lacks. -/
theorem actorRef_cases (a : Activity) :
    (∃ id email, a.IsBy id email ∧ a.actorRef = .ok ⟨id, email⟩) ∨
      (∀ id email, ¬ a.IsBy id email) ∧ a.actorRef = .error (a.lacking "actor") := by
  rw [actorRef]
  split
  · rename_i id email hid hemail
    split
    · rename_i hempty
      refine .inr ⟨?_, rfl⟩
      rintro id' email' ⟨hid', hne, -⟩
      exact hne (Option.some.inj (hid'.symm.trans hid) ▸ hempty)
    · rename_i hne
      exact .inl ⟨id, email, ⟨hid, hne, hemail⟩, rfl⟩
  · rename_i hnone
    exact .inr ⟨fun id email h ↦ hnone id email h.1 h.2.2, rfl⟩

/-- Only an authorization can lack something. -/
theorem Lacks.name_eq {need : Need} (h : a.Lacks s need) : s.name = "authorize" := by
  cases h with
  | clientId hname => exact hname
  | appName hname => exact hname
  | actor hforeign => exact hforeign.1

/-- With both values at hand, only the user can be lacking. -/
theorem Lacks.of_holds {need : Need} {clientId appName : String} (h : a.Lacks s need)
    (hclient : s.Holds "client_id" clientId) (happ : s.Holds "app_name" appName) :
    s.AuthorizesForeign ∧ ∀ id email, ¬ a.IsBy id email := by
  cases h with
  | clientId _ h => exact absurd hclient (h clientId)
  | appName _ _ h => exact absurd happ (h appName)
  | actor hforeign h => exact ⟨hforeign, h⟩

/-- **Every event is settled** in one of the three ways. -/
theorem settles_authorization (a : Activity) (s : ActivityEvent) :
    a.Settles s (a.authorization s) := by
  rw [authorization]
  split
  · rename_i hname
    exact .silent (fun need h ↦ hname h.name_eq) fun h ↦ hname h.1
  · rename_i hname
    have hname : s.name = "authorize" := Decidable.not_not.1 hname
    rw [need, need]
    cases hclient : s.param? "client_id" with
    | none => exact .lacking (.clientId hname (ActivityEvent.param?_eq_none_iff.1 hclient))
    | some clientId =>
      have hclient := ActivityEvent.param?_eq_some_iff.1 hclient
      cases happ : s.param? "app_name" with
      | none => exact .lacking (.appName hname hclient (ActivityEvent.param?_eq_none_iff.1 happ))
      | some appName =>
        have happ := ActivityEvent.param?_eq_some_iff.1 happ
        have hiff := ActivityEvent.authorizesForeign_iff_of_holds hname hclient happ
        show a.Settles s (if isPrivateApp clientId appName then .ok [] else do
          let actor ← a.actorRef
          return [⟨a.id.uniqueQualifier, a.occurredAt,
            .usage ⟨.app, clientId, some appName⟩ actor⟩])
        split
        · rename_i hown
          have hsilent : ¬ s.AuthorizesForeign := fun h ↦ hiff.1 h (isPrivateApp_iff.1 hown)
          exact .silent (fun need h ↦ hsilent (h.of_holds hclient happ).1) hsilent
        · rename_i hforeign
          have hforeign : s.AuthorizesForeign := hiff.2 (mt isPrivateApp_iff.2 hforeign)
          rcases a.actorRef_cases with ⟨id, email, hby, hactor⟩ | ⟨hnobody, hactor⟩
          · rw [hactor]
            exact .use (fun need h ↦ (h.of_holds hclient happ).2 id email hby) hforeign
              ⟨clientId, appName, id, email, hclient, happ, hby, rfl⟩
          · rw [hactor]
            exact .lacking (.actor hforeign hnobody)

/-- An event lacks one thing first. -/
theorem Lacks.unique {need need' : Need} (h : a.Lacks s need) (h' : a.Lacks s need') :
    need = need' := by
  have hclient (hforeign : s.AuthorizesForeign) : ∃ value, s.Holds "client_id" value := by
    obtain ⟨-, clientId, -, hclient, -⟩ := hforeign
    exact ⟨clientId, hclient⟩
  have happ (hforeign : s.AuthorizesForeign) : ∃ value, s.Holds "app_name" value := by
    obtain ⟨-, -, appName, -, happ, -⟩ := hforeign
    exact ⟨appName, happ⟩
  cases h with
  | clientId _ h =>
    cases h' with
    | clientId => rfl
    | appName _ h' => exact absurd h' (h _)
    | actor h' => exact absurd (hclient h') (not_exists.2 h)
  | appName _ hclientId h =>
    cases h' with
    | clientId _ h' => exact absurd hclientId (h' _)
    | appName => rfl
    | actor h' => exact absurd (happ h') (not_exists.2 h)
  | actor h =>
    cases h' with
    | clientId _ h' => exact absurd (hclient h) (not_exists.2 h')
    | appName _ _ h' => exact absurd (happ h) (not_exists.2 h')
    | actor => rfl

/-- **What a refusal says**: it is an invalid argument, and its message names the activity and what
it lacks. It tells of no rate limit and has no cause. -/
theorem eq_lacking_iff {what : String} {e : SyncError} :
    e = a.lacking what ↔ e.kind = .invalidArgument ∧
      e.message = "activity " ++ a.id.uniqueQualifier ++ ": missing " ++ what ∧
        e.rateLimit = none ∧ e.source = none := by
  constructor
  · rintro rfl
    exact ⟨rfl, rfl, rfl, rfl⟩
  · obtain ⟨kind, message, rateLimit, source⟩ := e
    rintro ⟨rfl, rfl, rfl, rfl⟩
    rfl

/-- An event is refused exactly if it lacks something, and then for what it lacks first. -/
theorem authorization_eq_error_iff {e : SyncError} :
    a.authorization s = .error e ↔ ∃ need, a.Lacks s need ∧ e = a.lacking need.name := by
  have hsettles := a.settles_authorization s
  constructor
  · intro h
    rw [h] at hsettles
    cases hsettles with
    | lacking hlacks => exact ⟨_, hlacks, rfl⟩
  · rintro ⟨need, hlacks, rfl⟩
    generalize a.authorization s = outcome at hsettles
    cases hsettles with
    | silent h => exact absurd hlacks (h need)
    | use h => exact absurd hlacks (h need)
    | lacking h => rw [h.unique hlacks]

/-- An event that lacks nothing is read. -/
theorem exists_authorization_iff :
    (∃ events, a.authorization s = .ok events) ↔ ∀ need, ¬ a.Lacks s need := by
  constructor
  · rintro ⟨events, h⟩ need hlacks
    cases h.symm.trans (authorization_eq_error_iff.2 ⟨need, hlacks, rfl⟩)
  · intro h
    cases hauth : a.authorization s with
    | ok events => exact ⟨events, rfl⟩
    | error e =>
      obtain ⟨need, hlacks, -⟩ := authorization_eq_error_iff.1 hauth
      exact absurd hlacks (h need)

/-! ### The events together -/

/-- Where nothing is lacking, the foreign authorizations are told one by one. -/
theorem forall₂_reports {ss : List ActivityEvent} {told : List (List Event)}
    (h : List.Forall₂ (fun s events ↦ a.authorization s = .ok events) ss told) :
    List.Forall₂ a.Reports (ss.filter (·.AuthorizesForeign)) told.flatten := by
  induction h with
  | nil => exact .nil
  | @cons s events ss told hs _ ih =>
    have hsettles := a.settles_authorization s
    rw [hs] at hsettles
    rw [List.flatten_cons]
    cases hsettles with
    | silent _ hforeign =>
      rw [List.filter_cons_of_neg (by simpa using hforeign)]
      exact ih
    | use _ hforeign hevent =>
      rw [List.filter_cons_of_pos (by simpa using hforeign)]
      exact .cons hevent ih

/-- The first event that lacks something decides. -/
theorem usageEvents_eq_error_iff {e : SyncError} :
    a.usageEvents = .error e ↔
      ∃ before s after need, a.events = before ++ s :: after ∧
        (∀ b ∈ before, ∀ need, ¬ a.Lacks b need) ∧ a.Lacks s need ∧ e = a.lacking need.name := by
  have hmapM : a.usageEvents = .error e ↔ a.events.mapM a.authorization = .error e := by
    rw [usageEvents]
    cases a.events.mapM a.authorization <;> simp [bind, Except.bind, pure, Except.pure]
  simp only [hmapM, mapM_eq_error_iff, exists_authorization_iff, authorization_eq_error_iff,
    exists_and_left]

/-- Where there are events, nothing is lacking, and they are those of the foreign authorizations. -/
theorem of_usageEvents_eq_ok {events : List Event} (h : a.usageEvents = .ok events) :
    (∀ s ∈ a.events, ∀ need, ¬ a.Lacks s need) ∧
      List.Forall₂ a.Reports (a.events.filter (·.AuthorizesForeign)) events := by
  rw [usageEvents] at h
  cases hmapM : a.events.mapM a.authorization with
  | error e =>
    rw [hmapM] at h
    cases h
  | ok told =>
    rw [hmapM] at h
    cases h
    have htold := mapM_eq_ok_iff.1 hmapM
    refine ⟨fun s hs ↦ exists_authorization_iff.1 ?_, forall₂_reports htold⟩
    obtain ⟨i, hi, rfl⟩ := List.getElem_of_mem hs
    exact ⟨_, htold.get hi (htold.length_eq ▸ hi)⟩

/-- **What an activity of the token log says**, for every activity.

* It is refused exactly if one of its events lacks something. The refusal is an invalid argument
  whose message names the activity and what the first such event lacks first, and it holds nothing
  else.
* Otherwise it has exactly one event for each authorization of a foreign application, in order.
* An application is the provider's own exactly if its client id is its name, and made of digits, at
  least one, with nothing or `.apps.googleusercontent.com` after them. -/
theorem usage_account (a : Activity) :
    ((∃ e, a.usageEvents = .error e) ↔ ∃ s ∈ a.events, ∃ need, a.Lacks s need) ∧
      (∀ e, a.usageEvents = .error e ↔
        ∃ before s after need, a.events = before ++ s :: after ∧
          (∀ b ∈ before, ∀ need, ¬ a.Lacks b need) ∧ a.Lacks s need ∧
          e.kind = .invalidArgument ∧
          e.message = "activity " ++ a.id.uniqueQualifier ++ ": missing " ++ need.name ∧
          e.rateLimit = none ∧ e.source = none) ∧
      ((∀ s ∈ a.events, ∀ need, ¬ a.Lacks s need) → ∃ events, a.usageEvents = .ok events ∧
        List.Forall₂ a.Reports (a.events.filter (·.AuthorizesForeign)) events) ∧
      ∀ clientId appName, isPrivateApp clientId appName = true ↔ IsOwnApp clientId appName := by
  have hrefusals (e : SyncError) := a.usageEvents_eq_error_iff (e := e)
  simp only [eq_lacking_iff] at hrefusals
  refine ⟨⟨?_, ?_⟩, hrefusals, fun hnone ↦ ?_, fun _ _ ↦ isPrivateApp_iff⟩
  · rintro ⟨e, h⟩
    obtain ⟨before, s, after, need, hevents, -, hlacks, -⟩ := usageEvents_eq_error_iff.1 h
    exact ⟨s, by simp [hevents], need, hlacks⟩
  · rintro ⟨s, hs, need, hlacks⟩
    cases h : a.usageEvents with
    | error e => exact ⟨e, rfl⟩
    | ok events => exact absurd hlacks ((of_usageEvents_eq_ok h).1 s hs need)
  · cases h : a.usageEvents with
    | error e =>
      obtain ⟨before, s, after, need, hevents, -, hlacks, -⟩ := usageEvents_eq_error_iff.1 h
      exact absurd hlacks (hnone s (by simp [hevents]) need)
    | ok events => exact ⟨events, rfl, (of_usageEvents_eq_ok h).2⟩

end Activity

end AuditFeed
