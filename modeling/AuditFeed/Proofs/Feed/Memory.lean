import AuditFeed.Proofs.Feed.Delivery
import AuditFeed.Proofs.Moves

/-!
# Kept answers do not show

The answers of a directory are kept for good, by polls that succeed, fail or are cancelled alike.
What is kept when a poll starts is therefore an accident of what was polled before, and where the
directory has one answer for each email it must not show in what the poll comes to.

## What may be kept

`KeptByPolls` says which answers may be kept at all: those that some history of polls leaves. Along
such a history only one thing has to be known, that each kept answer is one of the directory
(`KeptByPolls.agrees`); a lookup that fails keeps nothing, so a poll that ends halfway leaves no
more than a poll of a shorter page would. The polls of a history may be of any feeds, with any
sources, as long as the directory is the same table.

## What a poll comes to

A call is followed by what it **comes to**, whatever is kept (`Call.ComesTo`), and `Feed.verdict` is
what a poll comes to: a function of its arguments, the table and the answer for its page, in which
no session occurs. So there is nothing in it that a kept answer could show in, and two polls with
different answers kept are compared by comparing both with the verdict.

`ComesTo` leaves room for a caller who cancels. Such a call may end with anything, but has to leave
answers of the table all the same, or the polls after it would not be covered.

## Directories that are cancelled

`Directory.Tells` is weaker than being a table. What is found has to be the answer also where the
caller cancels, since it is kept; an error need not be, since it is not.

## Main statements

* `Feed.kept_answers_do_not_show`: a poll ends with its verdict, from whatever is kept, and once
  more when it is repeated.
-/

namespace AuditFeed

open Call

variable {ω : Type}

/-! ### Directories with one answer for each email -/

/-- An id, nothing, or a failure for each type and email. -/
abbrev Table := ResourceType → String → Except RequestError Lookup

namespace Table

/-- What a table says of an email, in whatever form it comes. -/
def answer (table : Table) (type : ResourceType) (email : String) :
    Except RequestError (Option String) :=
  (table type (normalizedEmail email)).map Lookup.id?

/-- Are all kept answers those of the table? -/
def Agrees (table : Table) (ids : List (LookupKey × Option String)) : Prop :=
  ∀ entry ∈ ids, (table entry.1.1 entry.1.2).map Lookup.id? = .ok entry.2

variable {table : Table} {ids : List (LookupKey × Option String)}

/-- An answer of the table can be kept with the others. -/
theorem Agrees.cons (h : table.Agrees ids) {key : LookupKey} {found : Lookup}
    (hfound : table key.1 key.2 = .ok found) : table.Agrees ((key, found.id?) :: ids) := by
  intro entry hentry
  rcases List.mem_cons.1 hentry with rfl | hentry
  · rw [hfound]
    rfl
  · exact h entry hentry

/-- What is known of an email is what the table says of it. -/
theorem Agrees.answer_of_known {s : Session ω} (h : table.Agrees s.ids) {type : ResourceType}
    {email : String} {id : Option String} (hknown : s.known? (lookupKey type email) = some id) :
    table.answer type email = .ok id := by
  obtain ⟨newer, older, hids, -⟩ := List.lookup_eq_some_iff.1 hknown
  have hmem : (lookupKey type email, id) ∈ s.ids := by
    rw [hids]
    exact List.mem_append_right _ List.mem_cons_self
  exact h _ hmem

end Table

/-- A lookup in `s` ends with `r` and leaves `t`, where `value` is the answer. Only a caller who
cancels gets anything else, and then an error. -/
structure Told (value : Except RequestError Lookup) (s : Session ω)
    (r : Except RequestError Lookup) (t : Session ω) : Prop where
  /-- A lookup keeps nothing itself. -/
  ids : t.ids = s.ids
  /-- A caller who has cancelled has done so for good. -/
  cancelled : s.cancelled = true → t.cancelled = true
  /-- What is found is the answer. -/
  found : ∀ answer, r = .ok answer → value = .ok answer
  /-- Unless the caller cancels, an error is the answer as well. -/
  live : t.cancelled = false → r = value

/-- Does the directory say what the table says, whenever it is asked, unless the caller cancels? -/
def Directory.Tells (d : Directory ω) (table : Table) : Prop :=
  ∀ type email s, ∃ r t, (d type email).outcome s = .ok (r, t) ∧ Told (table type email) s r t

/-- Whatever a lookup of such a directory ends with is told so. -/
theorem Directory.Tells.told {d : Directory ω} {table : Table} (hd : d.Tells table)
    {type : ResourceType} {email : String} {s t : Session ω} {r : Except RequestError Lookup}
    (h : (d type email).outcome s = .ok (r, t)) : Told (table type email) s r t := by
  obtain ⟨r', t', h', htold⟩ := hd type email s
  cases h.symm.trans h'
  exact htold

/-! ### What polls keep -/

/-- Does a source leave the kept answers alone? -/
def ActivitySource.LeavesIds (source : ActivitySource ω) : Prop :=
  ∀ query s r t, (source query).outcome s = .ok (r, t) → t.ids = s.ids

/-- **The answers that polls can have kept**: none at first, and then those that any poll of any
feed leaves whose emails the table answers, however the poll ends. Between two polls everything but
the kept answers may change. -/
inductive KeptByPolls (table : Table) : List (LookupKey × Option String) → Prop
  | none : KeptByPolls table []
  | poll {ω : Type} {f : Feed ω} (hd : f.directory.Tells table) (hsource : f.source.LeavesIds)
      {token : String} {requested : UInt32} {start : Option Instant} {s t : Session ω}
      {r : Except SyncError PollResult} (hs : KeptByPolls table s.ids)
      (h : (f.poll token requested start).outcome s = .ok (r, t)) : KeptByPolls table t.ids

variable {table : Table}

/-- A poll keeps what the table says: its page keeps nothing, and a lookup its answer. -/
theorem Feed.takes_poll_of_tells {f : Feed ω} (hd : f.directory.Tells table)
    (hsource : f.source.LeavesIds) (token : String) (requested : UInt32) (start : Option Instant) :
    (f.poll token requested start).Takes fun s t ↦ table.Agrees s.ids → table.Agrees t.ids := by
  refine takes_poll (fun query s r t h ↦ .single fun hs ↦ ?_) (fun type email ↦ ?_) token requested
    start
  · rwa [hsource query s r t h]
  · refine Directory.takes_resolve (fun type email s r t h ↦ .single fun hs ↦ ?_) type email
      fun s answer t u h hu ↦ ?_
    · rwa [(hd.told h).ids]
    · exact hu.cons ((hd.told h).found answer rfl)

/-- **Whatever was polled, what is kept is what the table says.** -/
theorem KeptByPolls.agrees {ids : List (LookupKey × Option String)} (h : KeptByPolls table ids) :
    table.Agrees ids := by
  induction h with
  | none => exact fun entry hentry ↦ absurd hentry List.not_mem_nil
  | poll hd hsource _ h ih =>
    exact (Feed.takes_poll_of_tells hd hsource _ _ _).keeps (P := fun s ↦ table.Agrees s.ids)
      (fun s t hstep ↦ hstep) h ih

/-! ### What a call comes to -/

namespace Call

variable {ε ε' α β : Type} {c : Call ω ε α} {value : Except ε α}

/-- Whatever is kept, as long as it is what the table says, the call ends, and unless the caller
cancels it ends with `value`. -/
def ComesTo (table : Table) (c : Call ω ε α) (value : Except ε α) : Prop :=
  ∀ s, table.Agrees s.ids → ∃ r t, c.outcome s = .ok (r, t) ∧ table.Agrees t.ids ∧
    (s.cancelled = true → t.cancelled = true) ∧ (t.cancelled = false → r = value)

namespace ComesTo

/-- A value comes to itself, whatever is kept. -/
theorem pure (a : α) : (Pure.pure a : Call ω ε α).ComesTo table (.ok a) :=
  fun s hs ↦ ⟨_, s, outcome_pure a s, hs, fun h ↦ h, fun _ ↦ rfl⟩

/-- So does an error. -/
theorem ofExcept (r : Except ε α) : (Call.ofExcept r : Call ω ε α).ComesTo table r :=
  fun s hs ↦ ⟨_, s, outcome_ofExcept r s, hs, fun h ↦ h, fun _ ↦ rfl⟩

/-- **One call after another** comes to what their values come to. -/
theorem bind {f : α → Call ω ε β} {w : α → Except ε β} (h : c.ComesTo table value)
    (hf : ∀ a, (f a).ComesTo table (w a)) : (c >>= f).ComesTo table (value >>= w) := by
  intro s hs
  obtain ⟨r, u, hc, hu, hcancelled, hr⟩ := h s hs
  cases r with
  | error e =>
    refine ⟨.error e, u, by rw [outcome_bind, hc], hu, hcancelled, fun hlive ↦ ?_⟩
    rw [← hr hlive]
    rfl
  | ok a =>
    obtain ⟨r, t, hfa, ht, hcancelled', hr'⟩ := hf a u hu
    refine ⟨r, t, by rw [outcome_bind, hc]; exact hfa, ht, hcancelled' ∘ hcancelled, fun hlive ↦ ?_⟩
    -- A caller who has not cancelled at the end had not cancelled in between.
    have hlive' : u.cancelled = false :=
      Bool.eq_false_iff.2 fun hu ↦ Bool.false_ne_true (hlive.symm.trans (hcancelled' hu))
    rw [← hr hlive', hr' hlive]
    rfl

/-- An error that is looked at is a value of what follows. -/
theorem attempt_bind {f : Except ε α → Call ω ε' β} {w : Except ε α → Except ε' β}
    (h : c.ComesTo table value) (hf : ∀ r, (f r).ComesTo table (w r)) :
    (c.attempt >>= f).ComesTo table (w value) := by
  have hattempt : (c.attempt : Call ω ε' (Except ε α)).ComesTo table (.ok value) := by
    intro s hs
    obtain ⟨r, t, hc, ht, hcancelled, hr⟩ := h s hs
    exact ⟨.ok r, t, by rw [outcome_attempt, hc]; rfl, ht, hcancelled, fun hlive ↦ by rw [hr hlive]⟩
  exact hattempt.bind hf

end ComesTo

end Call

/-- **A kept answer is as good as a lookup.** -/
theorem Directory.comesTo_resolve {d : Directory ω} (hd : d.Tells table) (type : ResourceType)
    (email : String) :
    (d.resolve type email).ComesTo table
      ((table.answer type email).mapError (refusal type email)) := by
  intro s hs
  cases hknown : s.known? (lookupKey type email) with
  | some id =>
    refine ⟨_, s, (Answers.kept hknown).outcome_resolve, hs, fun h ↦ h, fun _ ↦ ?_⟩
    rw [hs.answer_of_known hknown]
  | none =>
    obtain ⟨r, t, hr, htold⟩ := hd type (normalizedEmail email) s
    cases r with
    | ok found =>
      have htable := htold.found found rfl
      refine ⟨_, _, (Answers.asked hknown hr).outcome_resolve, ?_, htold.cancelled, fun _ ↦ ?_⟩
      · show table.Agrees ((lookupKey type email, found.id?) :: t.ids)
        rw [htold.ids]
        exact hs.cons htable
      · rw [Table.answer, htable]
        rfl
    | error e =>
      refine ⟨_, t, (Answers.failed hknown hr).outcome_resolve, by rwa [htold.ids],
        htold.cancelled, fun hlive ↦ ?_⟩
      rw [Table.answer, ← htold.live hlive]
      rfl

namespace Feed

variable {f : Feed ω}

/-- The changes of an activity come to their events, or to an error where one of the answers is
missing. -/
theorem comesTo_changes (hd : f.directory.Tells table) (a : Activity) (cs : List PendingChange) :
    ∃ value, (f.changes a cs).ComesTo table value ∧
      value.toOption = ((cs.map fun c ↦ table.answer c.type c.email).mapM Except.toOption).map
        fun ids ↦ a.eventsOf (cs.zip ids) := by
  induction cs with
  | nil => exact ⟨.ok [], .pure [], rfl⟩
  | cons c cs ih =>
    obtain ⟨rest, hrest, hevents⟩ := ih
    have hhead := Directory.comesTo_resolve hd c.type c.email
    refine ⟨_, hhead.bind fun id ↦
      hrest.bind (w := fun rest ↦ .ok (a.eventsOf [(c, id)] ++ rest)) fun rest ↦ ?_, ?_⟩
    · cases id <;> exact .pure _
    rw [List.map_cons, List.mapM_cons]
    -- A missing answer ends the list on both sides, here or further on.
    cases table.answer c.type c.email with
    | error e => rfl
    | ok id =>
      cases rest with
      | error e =>
        have hnone : (cs.map fun c ↦ table.answer c.type c.email).mapM Except.toOption = none :=
          Option.map_eq_none_iff.1 hevents.symm
        rw [hnone]
        rfl
      | ok rest =>
        obtain ⟨ids, hids, hrest⟩ := Option.map_eq_some_iff.1 hevents.symm
        rw [hids]
        refine congrArg some ?_
        rw [← hrest]
        cases id <;> rfl

/-- An activity comes to its contribution. -/
theorem comesTo_own (hd : f.directory.Tells table) (a : Activity) :
    (f.own a).ComesTo table (.ok (f.contribution table.answer a)) := by
  obtain ⟨value, hvalue, hevents⟩ : ∃ value, (f.interpret a).ComesTo table value ∧
      value.toOption.getD [] = f.contribution table.answer a := by
    rw [interpret, contribution]
    cases f.kind with
    | admin =>
      obtain ⟨value, hvalue, hevents⟩ := comesTo_changes hd a a.adminChanges
      refine ⟨value, hvalue, ?_⟩
      rw [hevents, Activity.changeEvents]
      cases List.mapM Except.toOption _ <;> rfl
    | usage =>
      refine ⟨a.usageEvents, .ofExcept _, ?_⟩
      rw [Activity.usageEventsOrNone]
      cases a.usageEvents <;> rfl
  rw [← hevents, own]
  refine hvalue.attempt_bind (w := fun r ↦ .ok (r.toOption.getD [])) fun r ↦ ?_
  cases r with
  | ok events => exact .pure events
  | error e =>
    -- An error ends the poll of a caller who has cancelled, and costs one activity otherwise.
    intro s hs
    rw [outcome_bind, outcome_get]
    dsimp only
    split
    · rename_i hcancelled
      exact ⟨_, s, outcome_throw _ s, hs, fun h ↦ h, fun hlive ↦
        absurd (hlive.symm.trans hcancelled) Bool.false_ne_true⟩
    · exact ⟨_, s, outcome_pure _ s, hs, fun h ↦ h, fun _ ↦ rfl⟩

/-- A page comes to the contributions of its activities, and its times are noted. -/
theorem comesTo_interpretAll (hd : f.directory.Tells table) (c : Cursor) (as : List Activity) :
    (f.interpretAll c as).ComesTo table
      (.ok ((as.map (f.contribution table.answer)).flatten,
        c.observeAll (as.map (·.occurredAt)))) := by
  induction as generalizing c with
  | nil => exact .pure _
  | cons a as ih =>
    rw [interpretAll_cons]
    exact (comesTo_own hd a).bind fun events ↦ (ih (c.observe a.occurredAt)).bind fun rest ↦
      .pure (events ++ rest.1, rest.2)

/-! ### What a poll comes to -/

/-- **What a poll comes to** with this answer for its page, where the directory is the table. There
is no session in it, and so nothing that is kept. -/
def verdict (f : Feed ω) (table : Table) (token : String) (requested : UInt32) (start : Instant)
    (answer : Except RequestError ActivityPage) : Except SyncError PollResult := do
  let given ← Cursor.decode token
  let page ← answer.mapError f.refusal
  let next := ((f.opened given start requested).observeAll
    (page.items.map (·.occurredAt))).advance page.nextPageToken
  return ⟨(page.items.map (f.contribution table.answer)).flatten, next.encode, next.isMidWindow⟩

/-- Is this the answer for the page of a poll in `s`? A token that is refused asks for no page. -/
def PageIs (f : Feed ω) (token : String) (requested : UInt32) (start : Instant) (s : Session ω)
    (answer : Except RequestError ActivityPage) : Prop :=
  ∀ given, Cursor.decode token = .ok given →
    ∃ u, (f.source (f.query (f.opened given start requested))).outcome s = .ok (answer, u)

variable {token : String} {requested : UInt32} {start : Instant}
  {answer : Except RequestError ActivityPage} {s : Session ω}

/-- A poll comes to its verdict, whatever is kept. -/
theorem poll_comesTo_verdict (hd : f.directory.Tells table) (hsource : f.source.LeavesIds)
    (hs : table.Agrees s.ids) (hpage : f.PageIs token requested start s answer) :
    ∃ r t, (f.poll token requested (some start)).outcome s = .ok (r, t) ∧
      (t.cancelled = false → r = f.verdict table token requested start answer) := by
  rw [verdict]
  cases hdecode : Cursor.decode token with
  | error e =>
    exact ⟨_, s, fails_poll_of_decode hdecode requested (some start) s, fun _ ↦ rfl⟩
  | ok given =>
    obtain ⟨u, hu⟩ := hpage given hdecode
    have hids := hsource _ s _ u hu
    cases answer with
    | error e => exact ⟨_, u, fails_poll_of_source hdecode rfl hu, fun _ ↦ rfl⟩
    | ok page =>
      -- Kept answers are read from here on, and what is kept is what it was at the start.
      have hrest := (comesTo_interpretAll hd (f.opened given start requested) page.items).bind
        fun seen ↦ ComesTo.pure (⟨seen.1, (seen.2.advance page.nextPageToken).encode,
          (seen.2.advance page.nextPageToken).isMidWindow⟩ : PollResult)
      obtain ⟨r, t, hr, -, -, heq⟩ := hrest u (hids ▸ hs)
      refine ⟨r, t, ?_, heq⟩
      rw [outcome_poll_of_begin hdecode rfl, outcome_bind, outcome_mapError, hu]
      exact hr

/-- **Kept answers do not show.** Let a directory have one answer for each type and email, and let
anything be kept that polls can have kept. Then a poll with a given start and a given answer for its
page ends, and unless the caller cancels it ends with its verdict, in which no kept answer occurs:
the same events, cursor and `hasMore`, or the same error. So it ends with the same where anything
else is kept that polls can have kept; and it ends with its verdict also when it is made once more,
however it ended and whatever it kept. -/
theorem kept_answers_do_not_show (hd : f.directory.Tells table) (hsource : f.source.LeavesIds)
    (hs : KeptByPolls table s.ids) (hpage : f.PageIs token requested start s answer) :
    ∃ r t, (f.poll token requested (some start)).outcome s = .ok (r, t) ∧
      (t.cancelled = false → r = f.verdict table token requested start answer) ∧
      (∀ s', KeptByPolls table s'.ids → f.PageIs token requested start s' answer →
        ∃ r' t', (f.poll token requested (some start)).outcome s' = .ok (r', t') ∧
          (t.cancelled = false → t'.cancelled = false → r' = r)) ∧
      ∀ s', s'.ids = t.ids → f.PageIs token requested start s' answer →
        ∃ r' t', (f.poll token requested (some start)).outcome s' = .ok (r', t') ∧
          (t'.cancelled = false → r' = f.verdict table token requested start answer) := by
  obtain ⟨r, t, h, hr⟩ := poll_comesTo_verdict hd hsource hs.agrees hpage
  refine ⟨r, t, h, hr, fun s' hs' hpage' ↦ ?_, fun s' hids hpage' ↦ ?_⟩
  · obtain ⟨r', t', h', hr'⟩ := poll_comesTo_verdict hd hsource hs'.agrees hpage'
    exact ⟨r', t', h', fun ht ht' ↦ (hr' ht').trans (hr ht).symm⟩
  · have hleft : KeptByPolls table t.ids := .poll hd hsource hs h
    exact poll_comesTo_verdict hd hsource (hids ▸ hleft.agrees) hpage'

/-! ### A poll that is cancelled halfway -/

/-- Answers that a table gives make a directory that says what the table says. -/
theorem tells_of_replies {replies : Replies ω LookupKey RequestError Lookup}
    (h : ∀ key peer, (replies.reply key peer).1.answer = table key.1 key.2) :
    Directory.Tells (fun type email ↦ replies.ask .cancelled (type, email)) table := by
  intro type email s
  rw [Replies.outcome_ask]
  split
  · rename_i hgone
    have hs : s.cancelled = true := (Bool.and_eq_true_iff.1 hgone).1
    exact ⟨_, s, rfl, rfl, fun h ↦ h, nofun, fun hlive ↦
      absurd (hlive.symm.trans hs) Bool.false_ne_true⟩
  · have hanswer := h (type, email) s.peer
    dsimp only
    split
    · exact ⟨_, _, rfl, Session.ids_cancel _, fun _ ↦ Session.cancelled_cancel _, nofun, fun hlive ↦
        absurd (hlive.symm.trans (Session.cancelled_cancel _)) Bool.false_ne_true⟩
    · exact ⟨_, _, rfl, Session.ids_cancel _, fun _ ↦ Session.cancelled_cancel _,
        fun answer hr ↦ hanswer.symm.trans hr, fun _ ↦ hanswer⟩
    · exact ⟨_, _, rfl, rfl, fun h ↦ h, fun answer hr ↦ hanswer.symm.trans hr, fun _ ↦ hanswer⟩

/-- No supply of pages keeps an answer. -/
theorem leavesIds_source (x : FeedSupply ω) : x.source.LeavesIds := by
  intro query s r t h
  obtain ⟨pages, emails⟩ := x
  have hmoves : Relation.ReflTransGen (Session.Move (fun _ ↦ True) fun _ _ ↦ False) s t := by
    cases pages with
    | inl replies => exact replies.takes_ask .cancelled query s r t h
    | inr p =>
      have htokens : ∀ scope, (p.provider.tokens scope).Takes
          (Session.Move (fun _ ↦ True) fun _ _ ↦ False) := p.tokens.takes_source fun _ _ ↦ trivial
      exact Provider.takes_activities htokens query (fun _ _ _ _ _ ↦ trivial) s r t h
  exact Session.ids_eq_of_moves hmoves

/-- A record of two new groups. -/
def twoGroups : Activity where
  id := ⟨"10", "1", "admin", none⟩
  actor := ⟨none, none⟩
  events := [groupEvent "CREATE_GROUP" [("GROUP_EMAIL", "a@x.de")],
    groupEvent "CREATE_GROUP" [("GROUP_EMAIL", "b@x.de")]]

/-- A table with one id for all there is. -/
def oneId : Table := fun _ _ ↦ .ok (.found "g")

/-- A supply with that record and that table, whose caller cancels during the second lookup. -/
def halfwaySupply : FeedSupply Nat where
  pages := .inl ⟨fun _ asked ↦ (⟨.ok ⟨[twoGroups], none⟩, none⟩, asked), true⟩
  emails := .inl ⟨fun key asked ↦
    (⟨oneId key.1 key.2, if asked = 1 then some .inFlight else none⟩, asked + 1), true⟩

/-- The feed of that supply. -/
def halfway : Feed Nat :=
  halfwaySupply.feed .admin .standard

/-- A session in which two lookups were made already. -/
def later (ids : List (LookupKey × Option String)) : Session Nat :=
  { Session.start 2 .epoch with ids }

/-- What is kept by a poll that is cancelled halfway. -/
def halfwayIds : List (LookupKey × Option String) :=
  [((.group, "a@x.de"), some "g")]

/-- A poll of that feed: whether it returns, and what is kept after it. -/
def pollLeaves (s : Session Nat) : Option (Bool × List (LookupKey × Option String)) :=
  ((halfway.poll "" 0 (some .epoch)).outcome s).toOption.map fun (r, t) ↦ (r.toOption.isSome, t.ids)

/-- Has the caller cancelled after a poll of that feed? -/
def pollCancelled (s : Session Nat) : Option Bool :=
  ((halfway.poll "" 0 (some .epoch)).outcome s).toOption.map fun (_, t) ↦ t.cancelled

/-- What three polls of the feed come to: the first one is cancelled halfway and keeps one answer,
the others are not cancelled. -/
theorem polls_halfway :
    pollLeaves (.start 0 .epoch) = some (false, halfwayIds) ∧
      pollCancelled (later halfwayIds) = some false ∧ pollCancelled (later []) = some false := by
  decide +kernel

/-- The first poll fails, and has kept an answer by then. -/
theorem fails_halfway :
    ∃ e t, (halfway.poll "" 0 (some .epoch)).Fails (.start 0 .epoch) e t ∧ t.ids = halfwayIds := by
  have hleaves := polls_halfway.1
  rw [pollLeaves] at hleaves
  rcases h : (halfway.poll "" 0 (some .epoch)).outcome (.start 0 .epoch) with o | ⟨e | r, t⟩
  · rw [h] at hleaves
    cases hleaves
  · rw [h] at hleaves
    exact ⟨e, t, h, (Prod.mk.inj (Option.some.inj hleaves)).2⟩
  · rw [h] at hleaves
    exact absurd (Prod.mk.inj (Option.some.inj hleaves)).1 Bool.noConfusion

/-- Nobody has cancelled after a poll of which that is said. -/
theorem live_of_pollCancelled {s t : Session Nat} {r : Except SyncError PollResult}
    (hs : pollCancelled s = some false)
    (h : (halfway.poll "" 0 (some .epoch)).outcome s = .ok (r, t)) : t.cancelled = false := by
  rw [pollCancelled, h] at hs
  exact Option.some.inj hs

/-- A poll that is cancelled after its first lookup leaves an answer, with which the same poll comes
to what it comes to without. -/
theorem kept_answers_do_not_show_halfway :
    ∃ e t r t' t'', (halfway.poll "" 0 (some .epoch)).Fails (.start 0 .epoch) e t ∧
      t.ids = halfwayIds ∧
      (halfway.poll "" 0 (some .epoch)).Returns (later t.ids) r t' ∧
      (halfway.poll "" 0 (some .epoch)).Returns (later []) r t'' ∧
      r.events = [⟨"1", twoGroups.occurredAt, .resourceChange .group "g"⟩,
        ⟨"1", twoGroups.occurredAt, .resourceChange .group "g"⟩] := by
  have htells : halfway.directory.Tells oneId := tells_of_replies fun _ _ ↦ rfl
  have hsource : halfway.source.LeavesIds := leavesIds_source halfwaySupply
  have hpage (ids : List (LookupKey × Option String)) :
      halfway.PageIs "" 0 .epoch (later ids) (.ok ⟨[twoGroups], none⟩) := fun _ _ ↦ ⟨_, rfl⟩
  obtain ⟨e, t, hfails, hids⟩ := fails_halfway
  have hkept : KeptByPolls oneId t.ids :=
    .poll (s := Session.start 0 .epoch) htells hsource .none hfails
  obtain ⟨r, t', hpoll, hr, hother, -⟩ :=
    kept_answers_do_not_show (s := later t.ids) htells hsource hkept (hpage t.ids)
  obtain ⟨r', t'', hpoll', hsame⟩ := hother (later []) .none (hpage [])
  have ht' : t'.cancelled = false := live_of_pollCancelled (hids ▸ polls_halfway.2.1) hpoll
  have heq : r' = r := hsame ht' (live_of_pollCancelled polls_halfway.2.2 hpoll')
  obtain ⟨result, hresult, hevents⟩ : ∃ result, halfway.verdict oneId "" 0 .epoch
      (.ok ⟨[twoGroups], none⟩) = .ok result ∧
      result.events = [⟨"1", twoGroups.occurredAt, .resourceChange .group "g"⟩,
        ⟨"1", twoGroups.occurredAt, .resourceChange .group "g"⟩] := by
    rw [verdict, Cursor.decode_empty]
    refine ⟨_, rfl, ?_⟩
    decide +kernel
  rw [hresult] at hr
  rw [heq, hr ht'] at hpoll'
  rw [hr ht'] at hpoll
  exact ⟨e, t, result, t', t'', hfails, hids, hpoll, hpoll', hevents⟩

end Feed

end AuditFeed
