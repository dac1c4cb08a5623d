import AuditFeed.Proofs.Cursor.Token
import AuditFeed.Proofs.Feed.Poll
import AuditFeed.Proofs.Supply

/-!
# Polls of callers who cancel

A poll in which the caller cancels either goes on as if nothing had happened or fails. What would be
wrong is a third way, a page that is passed without the events of an activity whose lookup was
cancelled. The interpretation of a page swallows every error, but looks first whether the caller has
cancelled by then; since no cancellation is lost on the way to that place
(`FeedSupply.calm_directory`), this is enough.

## Step by step

The poll is compared with the same poll of the calm supply, part by part and with the rules of
`Call.Calm`. Only `calm_own` needs an argument of its own. It is the one place above the directory
where an error is looked at, and there the two runs part: in the calm one the activity is skipped
for its error, and in the other one the poll ends, if the caller has cancelled. What the rule asks
for is that this end is an error, and that the caller has cancelled.

From there on every error may stand for a cancellation, so the class of errors is that of all of
them.

## What is compared

The two polls start in sessions that differ in nothing but the cancellation, and the calm poll is a
poll of the same supply, asked for the same. That it returns too is part of the result, and so is
that the grants and the kept answers it leaves are the same. Hence a caller who cancels may use what
a poll returned after all, and may poll again from the cursor.

A failure is told apart only as far as the caller can see it: either the caller has cancelled, or
the same poll fails in the same way without that. Which error a cancelled poll has is said
elsewhere.

## Main statements

* `poll_of_isCalm`: a poll of any supply, with a cancellation at any point, against the same poll
  without one.
-/

namespace AuditFeed.Feed

open Call

variable {ω : Type} (x : FeedSupply ω) (kind : FeedKind) (config : FeedConfig)

/-- **An email is resolved in step**, from what is kept or from the directory. -/
theorem calm_resolve (type : ResourceType) (email : String) :
    Calm (fun _ ↦ True) (x.directory.resolve type email) (x.calm.directory.resolve type email) := by
  rw [Directory.resolve, Directory.resolve]
  refine Calm.get_bind fun s s' hs ↦ ?_
  rw [Session.known?, Session.known?, hs.ids]
  split
  · exact Calm.pure _ s s' hs
  · refine Calm.bind ?_ (fun answer ↦ ?_) s s' hs
    · exact (x.calm_directory type _).mapError fun _ _ ↦ trivial
    · refine Calm.bind (Calm.modify fun u u' hu ↦ ?_) fun _ ↦ .pure _
      exact ⟨hu.peer, hu.now, hu.grants, by rw [hu.ids], hu.cancelled, hu.patience⟩

/-- So are the changes of an activity, in order. -/
theorem calm_changes (a : Activity) (cs : List PendingChange) :
    Calm (fun _ ↦ True) ((x.feed kind config).changes a cs)
      ((x.calm.feed kind config).changes a cs) := by
  induction cs with
  | nil => exact .pure []
  | cons c cs ih =>
    rw [changes, changes]
    refine Calm.bind (calm_resolve x c.type c.email) fun id ↦ ?_
    refine Calm.bind ih fun rest ↦ ?_
    cases id with
    | none => exact .pure _
    | some id => exact .pure _

/-- So is an activity interpreted. Errors are passed on here. -/
theorem calm_interpret (a : Activity) :
    Calm (fun _ ↦ True) ((x.feed kind config).interpret a)
      ((x.calm.feed kind config).interpret a) := by
  cases kind with
  | admin => exact calm_changes x .admin config a _
  | usage => exact .ofExcept _

/-- **An activity is not skipped for a cancellation.** Its failure is looked at together with
whether the caller has cancelled, and ends the poll then. -/
theorem calm_own (a : Activity) :
    Calm (fun _ ↦ True) ((x.feed kind config).own a) ((x.calm.feed kind config).own a) := by
  rw [own, own]
  refine Calm.attempt_bind (calm_interpret x kind config a) (fun r ↦ ?_) fun e s _ hs r t hc ↦ ?_
  · cases r with
    | ok events => exact .pure events
    | error e =>
      refine Calm.get_bind fun s s' hs ↦ ?_
      rw [if_neg (Bool.eq_false_iff.1 hs.cancelled)]
      -- Both have failed alike; without cancellation the activity is skipped.
      split
      · rename_i hcancelled
        intro r t hc
        cases hc
        exact .inr ⟨_, rfl, trivial, hcancelled⟩
      · exact Calm.pure [] s s' hs
  -- Only the cancelled one has failed, and it does not skip the activity.
  · rw [outcome_bind, outcome_get] at hc
    dsimp only at hc
    rw [if_pos hs] at hc
    cases hc
    exact ⟨_, rfl, trivial, hs⟩

/-- A page is interpreted in step, up to the activity at which the caller has cancelled. -/
theorem calm_interpretAll (c : Cursor) (as : List Activity) :
    Calm (fun _ ↦ True) ((x.feed kind config).interpretAll c as)
      ((x.calm.feed kind config).interpretAll c as) := by
  induction as generalizing c with
  | nil => exact .pure _
  | cons a as ih =>
    rw [interpretAll_cons, interpretAll_cons]
    refine Calm.bind (calm_own x kind config a) fun events ↦ ?_
    refine Calm.bind (ih (c.observe a.occurredAt)) fun rest ↦ ?_
    exact .pure _

/-- The clock shows the same in both runs. -/
theorem calm_defaultStart (start : Option Instant) :
    Calm (fun _ ↦ True) ((x.feed kind config).defaultStart start)
      ((x.calm.feed kind config).defaultStart start) := by
  cases start with
  | some time => exact .pure time
  | none =>
    refine Calm.get_bind fun s s' hs ↦ ?_
    rw [hs.now]
    exact Calm.checked _ s s' hs

/-- **A poll goes in step with the calm one**, or the caller has cancelled. -/
theorem calm_poll (token : String) (requested : UInt32) (start : Option Instant) :
    Calm (fun _ ↦ True) ((x.feed kind config).poll token requested start)
      ((x.calm.feed kind config).poll token requested start) := by
  rw [poll, poll]
  refine Calm.bind (.ofExcept _) fun c ↦ ?_
  refine Calm.bind (calm_defaultStart x kind config start) fun begin ↦ ?_
  refine Calm.bind ?_ fun page ↦ ?_
  · exact (x.calm_source _).mapError fun _ _ ↦ trivial
  refine Calm.bind (calm_interpretAll x kind config _ page.items) fun seen ↦ ?_
  exact .pure _

variable {x kind config}

/-- **Cancellation never makes a poll lose events.** Let a feed have its pages, emails and tokens
from answers of any kind, with a caller who cancels at any point of them: before the poll, while a
request is under way, together with an answer, or in a pause. If the poll returns nevertheless, the
same poll with the same answers and without cancellation returns the same events, the same cursor
and the same `hasMore`, and leaves the same grants and resolved emails. If it fails, then the caller
has cancelled or it fails in the same way without cancellation. -/
theorem poll_of_isCalm {s s' : Session ω} (hs : s.IsCalm s') (token : String) (requested : UInt32)
    (start : Option Instant) :
    (∀ r t, ((x.feed kind config).poll token requested start).Returns s r t →
      ∃ t', ((x.calm.feed kind config).poll token requested start).Returns s' r t' ∧
        t.IsCalm t') ∧
    ∀ e t, ((x.feed kind config).poll token requested start).Fails s e t →
      t.cancelled = true ∨
        ∃ t', ((x.calm.feed kind config).poll token requested start).Fails s' e t' ∧
          t.IsCalm t' := by
  refine ⟨fun r t h ↦ ?_, fun e t h ↦ ?_⟩
  · rcases calm_poll x kind config token requested start s s' hs _ t h with h | ⟨e, he, -⟩
    · exact h
    · cases he
  · rcases calm_poll x kind config token requested start s s' hs _ t h with h | ⟨_, -, -, ht⟩
    · exact .inr h
    · exact .inl ht

/-! ### A caller who cancels together with an answer -/

/-- The record of a new group. -/
def newGroup : Activity :=
  ⟨⟨"10", "1", "admin", none⟩, ⟨none, none⟩, [⟨"GROUP_SETTINGS", "CREATE_GROUP",
    [⟨"GROUP_EMAIL", some "eng@example.com", [], none⟩]⟩]⟩

/-- A supply with that record and that group, whose caller cancels together with the answer of the
lookup. -/
def lateCancel : FeedSupply Unit where
  pages := .inl ⟨fun _ _ ↦ (⟨.ok ⟨[newGroup], none⟩, none⟩, ()), true⟩
  emails := .inl ⟨fun _ _ ↦ (⟨.ok (.found "g-eng"), some .withAnswer⟩, ()), true⟩

/-- The poll of that supply returns, although the caller has cancelled by its end. -/
theorem returns_poll_lateCancel :
    ∃ r t, ((lateCancel.feed .admin .standard).poll "" 0 (some .epoch)).Returns (.start () .epoch)
      r t ∧ t.cancelled = true ∧
      r.events = [⟨"1", newGroup.occurredAt, .resourceChange .group "g-eng"⟩] :=
  ⟨_, _, returns_poll.2 ⟨.initial, .epoch, _, ⟨[newGroup], none⟩, _, _, _, Cursor.decode_empty, rfl,
    rfl, rfl, rfl⟩, rfl, rfl⟩

/-- The caller has cancelled in the poll, which returns as it does without that. -/
theorem poll_of_isCalm_lateCancel :
    ∃ r t t', ((lateCancel.feed .admin .standard).poll "" 0 (some .epoch)).Returns
        (.start () .epoch) r t ∧ t.cancelled = true ∧
      ((lateCancel.calm.feed .admin .standard).poll "" 0 (some .epoch)).Returns
        (.start () .epoch) r t' ∧ t'.cancelled = false ∧
      r.events = [⟨"1", newGroup.occurredAt, .resourceChange .group "g-eng"⟩] := by
  obtain ⟨r, t, hpoll, hcancelled, hevents⟩ := returns_poll_lateCancel
  have hs : (Session.start () .epoch).IsCalm (.start () .epoch) := ⟨rfl, rfl, rfl, rfl, rfl, rfl⟩
  obtain ⟨t', hcalm, ht'⟩ := (poll_of_isCalm hs "" 0 (some .epoch)).1 r t hpoll
  exact ⟨r, t, t', hpoll, hcancelled, hcalm, ht'.cancelled, hevents⟩

end AuditFeed.Feed
