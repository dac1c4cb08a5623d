import AuditFeed.Proofs.Cursor.Token
import AuditFeed.Proofs.Feed.Poll
import AuditFeed.Proofs.Resolver

/-!
# What each activity of a page contributes

A page is interpreted activity by activity, with the kept answers of the directory handed on. What
an activity contributes is stated first, by `Feed.Interprets`, from the answers that **its own**
lookups get: all of its events or none of them. `events_of_page` is then that a poll delivers these
contributions one after the other and nothing else, as long as the caller does not cancel.

## Contributions

The two kinds of activities contribute in their own way:

* An activity of the admin log is looked up change by change, up to the first lookup that fails
  (`Directory.AnswersAll`). The lookups that come after are not made, so there are no answers for
  them; `changeEvents` takes the list as it is, and a missing answer at its end makes the
  contribution empty.
* An activity of the token log asks nobody. Its contribution is a function of the record
  (`InterpretsAll.eq_of_usage`).

A resource that is gone is answered with nothing, which is no failure: its change has no event, and
the other events of the activity stay (`Activity.eventsOf`).

## What the others have to do with it

Which answers an activity gets may depend on all that was asked before, through the other side and
the kept answers. Where the directory is a table it does not: each contribution is then a function
of the activity alone (`Feed.contribution`, `InterpretsAll.eq_contributions`). A list that was cut
short by a failure is as good as the full one there (`AnswersAll.mapM_tableAnswer`), because both
have an answer missing.

Times are noted in any case, those of activities without a contribution included. This is part of
the result, since the next window starts behind them.

## Main statements

* `Feed.events_of_page`: the events of a poll are the contributions of the activities of its page.
-/

namespace AuditFeed

variable {ω : Type}

/-! ### The events of one activity -/

namespace Activity

/-- The events of changes with the answers for their emails, in order. What is gone has none. -/
def eventsOf (a : Activity) (changes : List (PendingChange × Option String)) : List Event :=
  changes.filterMap fun (c, id) ↦
    id.map fun id ↦ ⟨a.id.uniqueQualifier, a.occurredAt, .resourceChange c.type id⟩

/-- The events of an activity of the admin log with these answers for its changes; none if one of
them is missing. -/
def changeEvents (a : Activity) (answers : List (Except RequestError (Option String))) :
    List Event :=
  match answers.mapM Except.toOption with
  | some ids => a.eventsOf (a.adminChanges.zip ids)
  | none => []

/-- The events of an activity of the token log; none if it lacks something. -/
def usageEventsOrNone (a : Activity) : List Event :=
  match a.usageEvents with
  | .ok events => events
  | .error _ => []

end Activity

/-- Changes are looked up in order, starting in `s`, up to the first lookup that fails. -/
inductive Directory.AnswersAll (d : Directory ω) : Session ω → List PendingChange →
    List (Except RequestError (Option String)) → Session ω → Prop
  | done {s : Session ω} : AnswersAll d s [] [] s
  | next {s u t : Session ω} {c : PendingChange} {id : Option String} {cs : List PendingChange}
      {answers : List (Except RequestError (Option String))}
      (h : d.Answers c.type c.email s (.ok id) u) (hs : AnswersAll d u cs answers t) :
      AnswersAll d s (c :: cs) (.ok id :: answers) t
  | stop {s t : Session ω} {c : PendingChange} {e : RequestError} {cs : List PendingChange}
      (h : d.Answers c.type c.email s (.error e) t) :
      AnswersAll d s (c :: cs) [.error e] t

namespace Directory

variable {d : Directory ω} {s t : Session ω}

/-- A steady directory answers changes up to the first failure, if there is one. -/
theorem IsSteady.exists_answersAll (hd : d.IsSteady) (cs : List PendingChange)
    (hs : s.cancelled = false) :
    ∃ answers t, d.AnswersAll s cs answers t ∧ t.cancelled = false := by
  induction cs generalizing s with
  | nil => exact ⟨[], s, .done, hs⟩
  | cons c cs ih =>
    obtain ⟨answer, u, hanswer, hu⟩ := hd.exists_answers hs
    cases answer with
    | ok id =>
      obtain ⟨answers, t, hanswers, ht⟩ := ih hu
      exact ⟨_, t, .next hanswer hanswers, ht⟩
    | error e => exact ⟨_, u, .stop hanswer, hu⟩

/-- The answers of a table, up to the first that is missing, are as good as all of them. -/
theorem AnswersAll.mapM_tableAnswer {table : ResourceType → String → Except RequestError Lookup}
    (hd : d.HasTable table) {cs : List PendingChange}
    {answers : List (Except RequestError (Option String))} (h : d.AnswersAll s cs answers t)
    (hs : s.cancelled = false) :
    answers.mapM Except.toOption =
        (cs.map fun c ↦ tableAnswer table s c.type c.email).mapM Except.toOption ∧
      tableAnswer table t = tableAnswer table s ∧ t.cancelled = false := by
  -- The table does not change from lookup to lookup, so each answer is one of the first session.
  induction h with
  | done => exact ⟨rfl, rfl, hs⟩
  | next h _ ih =>
    obtain ⟨hanswer, htable, hu⟩ := h.eq_tableAnswer hd hs
    obtain ⟨hanswers, htable', ht⟩ := ih hu
    refine ⟨?_, htable'.trans htable, ht⟩
    rw [List.map_cons, List.mapM_cons, List.mapM_cons, ← hanswer, hanswers, htable]
  | stop h =>
    obtain ⟨hanswer, htable, ht⟩ := h.eq_tableAnswer hd hs
    refine ⟨?_, htable, ht⟩
    rw [List.map_cons, List.mapM_cons, List.mapM_cons, ← hanswer]
    rfl

end Directory

namespace Feed

open Call

variable {f : Feed ω} {s t u : Session ω}

/-- **The changes of an activity are all or nothing**: their events where every lookup is answered,
and an error where one of them fails. -/
theorem changes_of_answersAll {a : Activity} {cs : List PendingChange}
    {answers : List (Except RequestError (Option String))}
    (h : f.directory.AnswersAll s cs answers t) :
    ∃ r, (f.changes a cs).outcome s = .ok (r, t) ∧
      r.toOption = (answers.mapM Except.toOption).map fun ids ↦ a.eventsOf (cs.zip ids) := by
  induction h with
  | done => exact ⟨.ok [], rfl, rfl⟩
  | @next s u t c id cs answers h _ ih =>
    obtain ⟨r, hr, hevents⟩ := ih
    have hresolve : (f.directory.resolve c.type c.email).outcome s = .ok (.ok id, u) :=
      h.outcome_resolve
    rw [changes, outcome_bind, hresolve]
    dsimp only
    rw [outcome_bind, hr]
    cases r with
    -- A later lookup failed, and with it the whole, whatever was answered before.
    | error e =>
      refine ⟨.error e, rfl, ?_⟩
      have hnone : answers.mapM Except.toOption = none := Option.map_eq_none_iff.1 hevents.symm
      rw [List.mapM_cons, hnone]
      rfl
    | ok rest =>
      obtain ⟨ids, hids, hrest⟩ := Option.map_eq_some_iff.1 hevents.symm
      rw [List.mapM_cons, hids]
      cases id with
      | none => exact ⟨.ok rest, rfl, congrArg some hrest.symm⟩
      | some id =>
        refine ⟨_, rfl, congrArg some ?_⟩
        rw [← hrest]
        rfl
  | @stop s t c e cs h =>
    refine ⟨.error (Directory.refusal c.type c.email e), ?_, rfl⟩
    rw [changes, outcome_bind, h.outcome_resolve]
    rfl

/-- An activity contributes these events, starting in `s`, which leaves `t`. -/
def Interprets (f : Feed ω) (s : Session ω) (a : Activity) (events : List Event)
    (t : Session ω) : Prop :=
  match f.kind with
  | .admin => ∃ answers,
      f.directory.AnswersAll s a.adminChanges answers t ∧ events = a.changeEvents answers
  | .usage => events = a.usageEventsOrNone ∧ t = s

/-- The activities of a page contribute these events, one list for each of them, starting in `s`,
which leaves `t`. -/
inductive InterpretsAll (f : Feed ω) : Session ω → List Activity → List (List Event) →
    Session ω → Prop
  | done {s : Session ω} : InterpretsAll f s [] [] s
  | next {s u t : Session ω} {a : Activity} {events : List Event} {as : List Activity}
      {rest : List (List Event)} (h : f.Interprets s a events u)
      (hs : InterpretsAll f u as rest t) : InterpretsAll f s (a :: as) (events :: rest) t

/-- As long as the caller does not cancel, an activity that fails only has no events. -/
theorem returns_own {a : Activity} {r : Except SyncError (List Event)}
    (h : (f.interpret a).outcome s = .ok (r, t)) (ht : t.cancelled = false) :
    (f.own a).Returns s (r.toOption.getD []) t := by
  rw [own]
  refine returns_bind.2 ⟨r, t, returns_attempt.2 h, ?_⟩
  cases r with
  | ok events => exact returns_pure.2 ⟨rfl, rfl⟩
  | error e =>
    refine returns_bind.2 ⟨t, t, returns_get.2 ⟨rfl, rfl⟩, ?_⟩
    rw [ht]
    exact returns_pure.2 ⟨rfl, rfl⟩

/-- **Each activity contributes all of its events or none**, whatever the directory does. -/
theorem exists_interprets (hd : f.directory.IsSteady) (a : Activity) (hs : s.cancelled = false) :
    ∃ events t, f.Interprets s a events t ∧ (f.own a).Returns s events t ∧
      t.cancelled = false := by
  cases hkind : f.kind with
  | admin =>
    obtain ⟨answers, t, hanswers, ht⟩ := hd.exists_answersAll a.adminChanges hs
    obtain ⟨r, hr, hevents⟩ := changes_of_answersAll (a := a) hanswers
    have hinterpret : (f.interpret a).outcome s = .ok (r, t) := by
      rw [interpret, hkind]
      exact hr
    refine ⟨a.changeEvents answers, t, ?_, ?_, ht⟩
    · rw [Interprets, hkind]
      exact ⟨answers, hanswers, rfl⟩
    · have hown := returns_own hinterpret ht
      have heq : r.toOption.getD [] = a.changeEvents answers := by
        rw [hevents, Activity.changeEvents]
        cases answers.mapM Except.toOption <;> rfl
      rwa [heq] at hown
  | usage =>
    have hinterpret : (f.interpret a).outcome s = .ok (a.usageEvents, s) := by
      rw [interpret, hkind]
      exact outcome_ofExcept _ _
    refine ⟨a.usageEventsOrNone, s, ?_, ?_, hs⟩
    · rw [Interprets, hkind]
      exact ⟨rfl, rfl⟩
    · have hown := returns_own hinterpret hs
      have heq : a.usageEvents.toOption.getD [] = a.usageEventsOrNone := by
        rw [Activity.usageEventsOrNone]
        cases a.usageEvents <;> rfl
      rwa [heq] at hown

/-- A page is interpreted to the end: its events are the contributions in order, and its times are
noted. -/
theorem exists_interpretsAll (hd : f.directory.IsSteady) (as : List Activity) (c : Cursor)
    (hs : s.cancelled = false) :
    ∃ contributions t, f.InterpretsAll s as contributions t ∧
      (f.interpretAll c as).Returns s
        (contributions.flatten, c.observeAll (as.map (·.occurredAt))) t ∧
      t.cancelled = false := by
  induction as generalizing s c with
  | nil => exact ⟨[], s, .done, returns_pure.2 ⟨rfl, rfl⟩, hs⟩
  | cons a as ih =>
    obtain ⟨events, u, hevents, hown, hu⟩ := exists_interprets hd a hs
    obtain ⟨rest, t, hrest, hall, ht⟩ := ih (c.observe a.occurredAt) hu
    refine ⟨events :: rest, t, .next hevents hrest, ?_, ht⟩
    rw [interpretAll_cons]
    refine returns_bind.2 ⟨events, u, hown, ?_⟩
    refine returns_bind.2 ⟨_, t, hall, ?_⟩
    exact returns_pure.2 ⟨rfl, rfl⟩

/-- An activity of the token log is interpreted without asking anyone. -/
theorem InterpretsAll.eq_of_usage (hkind : f.kind = .usage) {as : List Activity}
    {contributions : List (List Event)} (h : f.InterpretsAll s as contributions t) :
    contributions = as.map (·.usageEventsOrNone) ∧ t = s := by
  induction h with
  | done => exact ⟨rfl, rfl⟩
  | next h _ ih =>
    rw [Interprets, hkind] at h
    obtain ⟨rfl, rfl⟩ := h
    obtain ⟨rfl, rfl⟩ := ih
    exact ⟨rfl, rfl⟩

/-! ### Directories that are tables -/

/-- What an activity contributes where `answer` says what there is for an email. -/
def contribution (f : Feed ω) (answer : ResourceType → String → Except RequestError (Option String))
    (a : Activity) : List Event :=
  match f.kind with
  | .admin => a.changeEvents (a.adminChanges.map fun c ↦ answer c.type c.email)
  | .usage => a.usageEventsOrNone

/-- With a table, what an activity contributes is told by the table as it was at first. -/
theorem Interprets.eq_contribution {table : ResourceType → String → Except RequestError Lookup}
    (hd : f.directory.HasTable table) {a : Activity} {events : List Event}
    (h : f.Interprets s a events t) (hs : s.cancelled = false) :
    events = f.contribution (Directory.tableAnswer table s) a ∧
      Directory.tableAnswer table t = Directory.tableAnswer table s ∧ t.cancelled = false := by
  rw [contribution]
  rw [Interprets] at h
  cases hkind : f.kind with
  | admin =>
    rw [hkind] at h
    obtain ⟨answers, hanswers, rfl⟩ := h
    obtain ⟨hall, htable, ht⟩ := hanswers.mapM_tableAnswer hd hs
    exact ⟨by rw [Activity.changeEvents, hall, Activity.changeEvents], htable, ht⟩
  | usage =>
    rw [hkind] at h
    obtain ⟨rfl, rfl⟩ := h
    exact ⟨rfl, rfl, hs⟩

/-- **With a table, no activity has a say in what another one contributes.** -/
theorem InterpretsAll.eq_contributions {table : ResourceType → String → Except RequestError Lookup}
    (hd : f.directory.HasTable table) {as : List Activity} {contributions : List (List Event)}
    (h : f.InterpretsAll s as contributions t) (hs : s.cancelled = false) :
    contributions = as.map (f.contribution (Directory.tableAnswer table s)) := by
  induction h with
  | done => rfl
  | next h _ ih =>
    obtain ⟨rfl, htable, hu⟩ := h.eq_contribution hd hs
    rw [List.map_cons, ih hu, htable]

/-- **One bad activity costs only itself.** Let a token be accepted, a start be given and a page be
had, and let the caller not cancel. Then the poll returns, whatever the directory answers and
whatever is kept. Its events are the contributions of the activities of the page, in order, each of
them all of the activity's events or none, by what its own lookups got; the time of every activity
is noted. Where the directory is a table, each contribution depends on nothing but the activity, the
table and what was kept at first. -/
theorem events_of_page (hd : f.directory.IsSteady) {token : String} {given : Cursor}
    (hdecode : Cursor.decode token = .ok given) {start : Instant} {requested : UInt32}
    {page : ActivityPage}
    (hpage : (f.source (f.query (f.opened given start requested))).Returns s page u)
    (hu : u.cancelled = false) :
    ∃ contributions r t, (f.poll token requested (some start)).Returns s r t ∧
      f.InterpretsAll u page.items contributions t ∧ r.events = contributions.flatten ∧
      (∃ next, next = ((f.opened given start requested).observeAll
          (page.items.map (·.occurredAt))).advance page.nextPageToken ∧
        r.cursor = next.encode ∧ r.hasMore = next.isMidWindow) ∧
      ∀ table, f.directory.HasTable table →
        contributions = page.items.map (f.contribution (Directory.tableAnswer table u)) := by
  obtain ⟨contributions, t, hcontributions, hall, ht⟩ :=
    exists_interpretsAll hd page.items (f.opened given start requested) hu
  refine ⟨contributions, _, t, returns_poll.2 ⟨given, start, s, page, u, _, _, hdecode,
    returns_pure.2 ⟨rfl, rfl⟩, hpage, hall, rfl⟩, hcontributions, rfl, ⟨_, rfl, rfl, rfl⟩, ?_⟩
  exact fun table htable ↦ hcontributions.eq_contributions htable hu

/-! ### A page with a failed lookup -/

/-- A directory that cannot be asked for users and has one group. -/
def groupTable (type : ResourceType) (email : String) : Except RequestError Lookup :=
  match type with
  | .group => .ok (if email = "eng@example.com" then .found "g-eng" else .absent)
  | _ => .error (.decode .malformed)

/-- An event of a group, with the emails of its parameters. -/
def groupEvent (name : String) (emails : List (String × String)) : ActivityEvent :=
  ⟨"GROUP_SETTINGS", name, emails.map fun (param, email) ↦ ⟨param, some email, [], none⟩⟩

/-- A page with a change of a group and a user, and then with changes of the same group and of one
that is gone. -/
def groupPage : ActivityPage where
  items :=
    [⟨⟨"10", "1", "admin", none⟩, ⟨none, none⟩, [groupEvent "ADD_GROUP_MEMBER"
        [("GROUP_EMAIL", "eng@example.com"), ("USER_EMAIL", "jane@example.com")]]⟩,
      ⟨⟨"20", "2", "admin", none⟩, ⟨none, none⟩,
        [groupEvent "CREATE_GROUP" [("GROUP_EMAIL", " Eng@example.com")],
          groupEvent "CREATE_GROUP" [("GROUP_EMAIL", "gone@example.com")]]⟩]
  nextPageToken := none

/-- A feed with that page and that directory. -/
def groupFeed : Feed Unit where
  kind := .admin
  config := .standard
  source _ := pure groupPage
  directory type email := Call.ofExcept (groupTable type email)

/-- The directory of that feed is the table. -/
theorem hasTable_groupFeed : groupFeed.directory.HasTable groupTable :=
  fun _ _ s hs ↦ ⟨s, rfl, hs, rfl⟩

/-- Each of its lookups ends. -/
theorem isSteady_groupFeed : groupFeed.directory.IsSteady :=
  fun _ _ s hs ↦ ⟨_, s, rfl, hs⟩

/-- The first activity costs its own event of the group, and the second one loses nothing. -/
theorem events_of_page_groupFeed :
    ∃ r t, (groupFeed.poll "" 0 (some .epoch)).Returns (.start () .epoch) r t ∧
      r.events = [⟨"2", Activity.occurredAt ⟨⟨"20", "2", "admin", none⟩, ⟨none, none⟩, []⟩,
        .resourceChange .group "g-eng"⟩] := by
  have hpage : (groupFeed.source (groupFeed.query (groupFeed.opened .initial .epoch 0))).Returns
      (.start () .epoch) groupPage (.start () .epoch) := returns_pure.2 ⟨rfl, rfl⟩
  obtain ⟨contributions, r, t, hpoll, -, hevents, -, htable⟩ :=
    events_of_page isSteady_groupFeed Cursor.decode_empty hpage rfl
  refine ⟨r, t, hpoll, ?_⟩
  rw [hevents, htable groupTable hasTable_groupFeed]
  decide +kernel

end Feed

end AuditFeed
