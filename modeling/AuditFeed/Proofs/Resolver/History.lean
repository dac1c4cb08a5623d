import AuditFeed.Proofs.Feed.Memory
import AuditFeed.Proofs.Recording
import Mathlib.Data.Finset.Card

/-!
# What was resolved before

An email is resolved over and over, by one poll after another and by the feeds in turn, and between
two of these calls everything but the kept answers may change, the directory included.

## One call

There are three ways for a call to end: the answer is kept, the directory is asked and answers, or
it is asked and fails (`Directory.Resolves.cases`). What is asked is told by a record, as it is for
the scopes of tokens: `Directory.recorded` is the same directory, which also writes down each key
that it is asked for.

## Many calls

A `Directory.History` is the list of the calls so far, each with what the directory was asked and
with its result. It says all that there is to know about the kept answers
(`Directory.History.remembers`): what is kept under a key is what a call for it has returned.

So the next call is told by the calls before it. If one for the same key has returned, it returns
the same without asking, whatever the directory has become; if none has, it asks once more, in the
normalized form of the email (`Directory.History.resolved`). Calls that have failed are in the list
and count for nothing, which is why the next one asks again.

All that is needed of the directory is that it leaves the kept answers alone
(`Directory.LeavesIds`), and every supply of emails does.

## Main statements

* `Directory.History.remembers`: a history says what is kept.
* `Directory.History.resolved_once`: what the calls of a history have come to, what the next one
  comes to, and how many answers are kept.
-/

namespace AuditFeed

open Call

variable {ω : Type}

/-! ### The record of what is asked for -/

/-- One call: for what, what the directory was asked for, and the result. -/
structure Resolution where
  /-- The type of the resource. -/
  type : ResourceType
  /-- The email, as the caller has it. -/
  email : String
  /-- What the directory was asked for. -/
  asked : List LookupKey
  /-- The result. -/
  result : Except SyncError (Option String)

namespace Resolution

/-- What the email is remembered by. -/
def key (c : Resolution) : LookupKey :=
  lookupKey c.type c.email

end Resolution

namespace Directory

/-- The same directory, which also writes down each key that it is asked for. -/
def recorded (d : Directory ω) : Directory (ω × List LookupKey) := fun type email ↦
  (d type email).recorded fun _ ↦ (type, email)

/-- The call is made in `s`, which leaves `t`: the record of what was asked for before grows by what
is asked for now. -/
def Resolves (d : Directory ω) (c : Resolution) (s t : Session ω) : Prop :=
  ∀ past, (d.recorded.resolve c.type c.email).outcome (s.beside past) =
    .ok (c.result, t.beside (past ++ c.asked))

variable {d : Directory ω} {type : ResourceType} {email : String} {s t : Session ω}
  {c : Resolution}

/-- A call goes in one way only. -/
theorem Resolves.unique {asked : List LookupKey} {result : Except SyncError (Option String)}
    {u : Session ω} (h : d.Resolves c s t) (h' : d.Resolves ⟨c.type, c.email, asked, result⟩ s u) :
    c.asked = asked ∧ c.result = result ∧ t = u := by
  have heq := Except.ok.inj ((h []).symm.trans (h' []))
  obtain ⟨hresult, hleft⟩ := Prod.mk.inj heq
  obtain ⟨rfl, hasked⟩ := Session.beside_inj hleft
  exact ⟨by simpa using hasked, hresult, rfl⟩

/-! ### The three ways of a call -/

/-- What is kept is not asked for. -/
theorem resolves_kept (d : Directory ω) {id : Option String}
    (h : s.known? (lookupKey type email) = some id) : d.Resolves ⟨type, email, [], .ok id⟩ s s := by
  intro past
  have hkept : d.recorded.Answers type email (s.beside past) (.ok id) (s.beside past) :=
    .kept h
  rw [hkept.outcome_resolve, List.append_nil]
  rfl

/-- What is not kept is asked for in its normalized form, and then it is kept. -/
theorem resolves_asked {answer : Lookup} (h : s.known? (lookupKey type email) = none)
    (hd : (d type (normalizedEmail email)).Returns s answer t) :
    d.Resolves ⟨type, email, [lookupKey type email], .ok answer.id?⟩ s
      { t with ids := (lookupKey type email, answer.id?) :: t.ids } := by
  intro past
  have hnone : (s.beside past).known? (lookupKey type email) = none := h
  have hrecorded : (d.recorded type (normalizedEmail email)).Returns (s.beside past) answer
      (t.beside (past ++ [lookupKey type email])) := outcome_recorded_iff.2 ⟨t, rfl, hd⟩
  exact (Answers.asked hnone hrecorded).outcome_resolve

/-- A lookup that fails is told to the caller. -/
theorem resolves_failed {cause : RequestError} (h : s.known? (lookupKey type email) = none)
    (hd : (d type (normalizedEmail email)).Fails s cause t) :
    d.Resolves ⟨type, email, [lookupKey type email], .error (refusal type email cause)⟩ s t := by
  intro past
  have hnone : (s.beside past).known? (lookupKey type email) = none := h
  have hrecorded : (d.recorded type (normalizedEmail email)).Fails (s.beside past) cause
      (t.beside (past ++ [lookupKey type email])) := outcome_recorded_iff.2 ⟨t, rfl, hd⟩
  exact (Answers.failed hnone hrecorded).outcome_resolve

/-- A lookup that leaves the range of times has no result. -/
theorem outcome_resolve_of_overflow {o : Overflow} (h : s.known? (lookupKey type email) = none)
    (hd : (d type (normalizedEmail email)).outcome s = .error o) :
    (d.resolve type email).outcome s = .error o := by
  have hknown : s.known? (type, normalizedEmail email) = none := h
  rw [resolve, outcome_bind, outcome_get]
  simp only [hknown, outcome_bind, outcome_mapError]
  rw [hd]
  rfl

/-- **There is no other way**: the key is kept, and nothing is asked, or it is not, and the
directory is asked for it. -/
theorem Resolves.cases (h : d.Resolves c s t) :
    (∃ id, s.known? c.key = some id ∧ c.asked = [] ∧ c.result = .ok id ∧ t = s) ∨
      s.known? c.key = none ∧ c.asked = [c.key] ∧
        ((∃ answer u, (d c.type (normalizedEmail c.email)).Returns s answer u ∧
            c.result = .ok answer.id? ∧ t = { u with ids := (c.key, answer.id?) :: u.ids }) ∨
          ∃ cause, (d c.type (normalizedEmail c.email)).Fails s cause t ∧
            c.result = .error (refusal c.type c.email cause)) := by
  cases hkey : s.known? c.key with
  | some id =>
    obtain ⟨hasked, hresult, rfl⟩ := h.unique (d.resolves_kept hkey)
    exact .inl ⟨id, rfl, hasked, hresult, rfl⟩
  | none =>
    refine .inr ⟨rfl, ?_⟩
    rcases hd : (d c.type (normalizedEmail c.email)).outcome s with o | ⟨cause | answer, u⟩
    -- A lookup without a result leaves the call without one.
    · have hnone : (s.beside ([] : List LookupKey)).known? c.key = none := hkey
      have hover : (d.recorded c.type (normalizedEmail c.email)).outcome (s.beside []) =
          .error o := by
        rw [recorded, outcome_recorded, hd]
        rfl
      cases (h []).symm.trans (outcome_resolve_of_overflow hnone hover)
    · obtain ⟨hasked, hresult, rfl⟩ := h.unique (resolves_failed hkey hd)
      exact ⟨hasked, .inr ⟨cause, hd, hresult⟩⟩
    · obtain ⟨hasked, hresult, rfl⟩ := h.unique (resolves_asked hkey hd)
      exact ⟨hasked, .inl ⟨answer, u, hd, hresult, rfl⟩⟩

/-- A call that ends is one of these. -/
theorem exists_resolves {r : Except SyncError (Option String)}
    (h : (d.resolve type email).outcome s = .ok (r, t)) :
    ∃ asked, d.Resolves ⟨type, email, asked, r⟩ s t := by
  cases hkey : s.known? (lookupKey type email) with
  | some id =>
    cases h.symm.trans (Answers.kept (d := d) hkey).outcome_resolve
    exact ⟨[], d.resolves_kept hkey⟩
  | none =>
    rcases hd : (d type (normalizedEmail email)).outcome s with o | ⟨cause | answer, u⟩
    · cases h.symm.trans (outcome_resolve_of_overflow hkey hd)
    · cases h.symm.trans (Answers.failed hkey hd).outcome_resolve
      exact ⟨_, resolves_failed hkey hd⟩
    · cases h.symm.trans (Answers.asked hkey hd).outcome_resolve
      exact ⟨_, resolves_asked hkey hd⟩

/-! ### Histories -/

/-- Does a directory leave the kept answers alone? -/
def LeavesIds (d : Directory ω) : Prop :=
  ∀ type email s r t, (d type email).outcome s = .ok (r, t) → t.ids = s.ids

/-- **The calls so far, in order, and the session that they leave.** Nothing is kept at first.
Between two calls everything but the kept answers may change. -/
inductive History (d : Directory ω) : List Resolution → Session ω → Prop
  | start {s : Session ω} (h : s.ids = []) : History d [] s
  | elapse {calls : List Resolution} {s t : Session ω} (h : History d calls s)
      (hids : t.ids = s.ids) : History d calls t
  | call {calls : List Resolution} {c : Resolution} {s t : Session ω} (h : History d calls s)
      (hc : d.Resolves c s t) : History d (calls ++ [c]) t

/-- Has one of the calls returned this for a key? -/
def Answered (calls : List Resolution) (key : LookupKey) (id : Option String) : Prop :=
  ∃ c ∈ calls, c.key = key ∧ c.result = .ok id

/-- The keys that calls have returned for. -/
def answeredKeys (calls : List Resolution) : List LookupKey :=
  (calls.filter (·.result.isOk)).map Resolution.key

/-- What is kept is what calls have returned, in one entry for each key. -/
structure Remembers (calls : List Resolution) (s : Session ω) : Prop where
  known_iff (key : LookupKey) (id : Option String) :
    s.known? key = some id ↔ Answered calls key id
  keys_nodup : (s.ids.map (·.1)).Nodup

section

variable {calls before after : List Resolution} {key : LookupKey} {id : Option String}

/-- One more call answers what it returns. -/
theorem answered_concat_iff :
    Answered (calls ++ [c]) key id ↔ Answered calls key id ∨ c.key = key ∧ c.result = .ok id := by
  simp [Answered, or_and_right, exists_or]

theorem mem_answeredKeys : key ∈ answeredKeys calls ↔ ∃ id, Answered calls key id := by
  rw [answeredKeys, List.mem_map]
  constructor
  · rintro ⟨c, hc, hkey⟩
    obtain ⟨hmem, hok⟩ := List.mem_filter.1 hc
    cases hresult : c.result with
    | error e =>
      rw [hresult] at hok
      cases hok
    | ok id => exact ⟨id, c, hmem, hkey, hresult⟩
  · rintro ⟨id, c, hmem, hkey, hresult⟩
    refine ⟨c, List.mem_filter.2 ⟨hmem, ?_⟩, hkey⟩
    rw [hresult]
    rfl

namespace Remembers

/-- Nothing is kept under a key exactly if no call for it has returned. -/
theorem known?_eq_none_iff (h : Remembers calls s) :
    s.known? key = none ↔ ∀ id, ¬ Answered calls key id := by
  rw [Option.eq_none_iff_forall_ne_some]
  exact forall_congr' fun id ↦ not_congr (h.known_iff key id)

/-- The keys of what is kept are those that calls have returned for. -/
theorem mem_keys_iff (h : Remembers calls s) :
    key ∈ s.ids.map (·.1) ↔ key ∈ answeredKeys calls := by
  have hknown : key ∈ s.ids.map (·.1) ↔ ∃ id, s.known? key = some id := by
    rw [← Option.isSome_iff_exists, Session.known?, List.lookup_isSome_iff, List.mem_map]
    exact exists_congr fun entry ↦ and_congr_right fun _ ↦ eq_comm.trans beq_iff_eq.symm
  rw [hknown, mem_answeredKeys]
  exact exists_congr fun id ↦ h.known_iff key id

/-- **As many answers are kept as keys have an answer.** -/
theorem length_ids (h : Remembers calls s) :
    s.ids.length = (answeredKeys calls).toFinset.card := by
  have hkeys : (s.ids.map (·.1)).toFinset = (answeredKeys calls).toFinset := by
    ext key
    rw [List.mem_toFinset, List.mem_toFinset, h.mem_keys_iff]
  rw [← hkeys, List.toFinset_card_of_nodup h.keys_nodup, List.length_map]

/-- What is kept is all that matters. -/
theorem of_ids_eq (h : Remembers calls s) (hids : t.ids = s.ids) : Remembers calls t := by
  refine ⟨fun key id ↦ ?_, hids ▸ h.keys_nodup⟩
  rw [← h.known_iff, Session.known?, Session.known?, hids]

/-- A call that returns nothing new. -/
theorem concat (h : Remembers calls s) (hold : ∀ id, c.result = .ok id → Answered calls c.key id) :
    Remembers (calls ++ [c]) s := by
  refine ⟨fun key id ↦ ?_, h.keys_nodup⟩
  rw [h.known_iff, answered_concat_iff, or_iff_left_of_imp]
  rintro ⟨rfl, hresult⟩
  exact hold id hresult

/-- A call that returns for a new key. -/
theorem concat_asked (h : Remembers calls s) (hnone : s.known? c.key = none)
    (hresult : c.result = .ok id) :
    Remembers (calls ++ [c]) { s with ids := (c.key, id) :: s.ids } := by
  have hfresh : ∀ id, ¬ Answered calls c.key id := h.known?_eq_none_iff.1 hnone
  refine ⟨fun key id' ↦ ?_, List.nodup_cons.2 ⟨fun hmem ↦ ?_, h.keys_nodup⟩⟩
  · rw [Session.known?_keep rfl, answered_concat_iff]
    by_cases hkey : key = c.key
    · rw [if_pos hkey, hkey, hresult, or_iff_right (hfresh id')]
      simp
    · rw [if_neg hkey, h.known_iff, or_iff_left fun hc ↦ hkey hc.1.symm]
  · obtain ⟨id', hid'⟩ := mem_answeredKeys.1 (h.mem_keys_iff.1 hmem)
    exact hfresh id' hid'

end Remembers

/-- **A history says what is kept.** -/
theorem History.remembers (hd : d.LeavesIds) (h : History d calls s) : Remembers calls s := by
  induction h with
  | start h => exact ⟨fun key id ↦ by simp [Session.known?, h, Answered], by simp [h]⟩
  | elapse _ hids ih => exact ih.of_ids_eq hids
  | call _ hc ih =>
    rcases hc.cases with ⟨id, hid, -, hresult, rfl⟩ | ⟨hnone, -, hway⟩
    · refine ih.concat fun id' hid' ↦ ?_
      obtain rfl := Except.ok.inj (hresult.symm.trans hid')
      exact (ih.known_iff _ _).1 hid
    · rcases hway with ⟨answer, u, hu, hresult, rfl⟩ | ⟨cause, ht, hresult⟩
      · have hids := hd _ _ _ _ _ hu
        refine (ih.of_ids_eq hids).concat_asked ?_ hresult
        rw [Session.known?, hids]
        exact hnone
      · refine (ih.of_ids_eq (hd _ _ _ _ _ ht)).concat fun id hid ↦ ?_
        cases hresult.symm.trans hid

/-- Each call of a history was made after the calls before it. -/
theorem History.split (h : History d (before ++ c :: after) s) :
    ∃ u v, History d before u ∧ d.Resolves c u v := by
  generalize hcalls : before ++ c :: after = calls at h
  induction h generalizing after with
  | start => simp at hcalls
  | elapse _ _ ih => exact ih hcalls
  | @call calls c' u v h hc ih =>
    -- The last call is the one in question, or that one is in the history before it.
    rcases append_cons_eq_concat hcalls with ⟨rfl, rfl⟩ | ⟨rest, hrest⟩
    · exact ⟨u, v, h, hc⟩
    · exact ih hrest

/-- **A call of a history is told by the calls before it.** -/
theorem History.resolved (hd : d.LeavesIds) (h : History d (before ++ c :: after) s) :
    (∀ id, Answered before c.key id → c.asked = [] ∧ c.result = .ok id) ∧
      ((∀ id, ¬ Answered before c.key id) →
        c.asked = [c.key] ∧ ∀ e, c.result = .error e → ∃ cause u v, History d before u ∧
          (d c.type (normalizedEmail c.email)).Fails u cause v ∧
            e = refusal c.type c.email cause) := by
  obtain ⟨u, v, hbefore, hc⟩ := h.split
  have hu := hbefore.remembers hd
  refine ⟨fun id hid ↦ ?_, fun hfresh ↦ ?_⟩
  · obtain ⟨hasked, hresult, -⟩ := hc.unique (d.resolves_kept ((hu.known_iff _ _).2 hid))
    exact ⟨hasked, hresult⟩
  · rcases hc.cases with ⟨id, hid, -⟩ | ⟨-, hasked, hway⟩
    · exact absurd ((hu.known_iff _ _).1 hid) (hfresh id)
    · refine ⟨hasked, fun e he ↦ ?_⟩
      rcases hway with ⟨answer, w, -, hresult, -⟩ | ⟨cause, hfails, hresult⟩
      · cases hresult.symm.trans he
      · exact ⟨cause, u, v, hbefore, hfails, Except.error.inj (he.symm.trans hresult)⟩

/-- A poll of a feed makes calls, and keeps nothing by itself. -/
theorem History.poll {f : Feed ω} (hsource : f.source.LeavesIds)
    (h : History f.directory calls s) {token : String} {requested : UInt32}
    {start : Option Instant} {r : Except SyncError PollResult}
    (hpoll : (f.poll token requested start).outcome s = .ok (r, t)) :
    ∃ more, History f.directory (calls ++ more) t := by
  have htakes : (f.poll token requested start).Takes fun u v ↦
      v.ids = u.ids ∨ ∃ c, f.directory.Resolves c u v := by
    refine Feed.takes_poll (fun query u r v h ↦ ?_) (fun type email u r v h ↦ ?_) token requested
      start
    · exact .single (.inl (hsource query u r v h))
    · obtain ⟨asked, hc⟩ := exists_resolves h
      exact .single (.inr ⟨_, hc⟩)
  refine htakes.keeps (P := fun u ↦ ∃ more, History f.directory (calls ++ more) u) ?_ hpoll
    ⟨[], by rwa [List.append_nil]⟩
  rintro u v (hids | ⟨c, hc⟩) ⟨more, hu⟩
  · exact ⟨more, hu.elapse hids⟩
  · refine ⟨more ++ [c], ?_⟩
    rw [← List.append_assoc]
    exact hu.call hc

/-- **What was resolved is resolved for good.** Take any history of calls over a directory that
leaves the kept answers alone, for any types and emails, and with any behaviour of the directory
from call to call:

* a call for a key that an earlier call has returned for asks nothing and returns the same; any
  other call asks the directory once, for the key itself, and an error is that of the lookup, behind
  the type and the normalized email;
* whatever the directory has become, and whatever else has happened since, the next call for a key
  that has an answer returns that answer, asks nothing and changes nothing;
* the next call for any other key asks the directory: an answer is returned and kept, and after a
  failure the same answers are kept as before, so that the call after it asks again;
* as many answers are kept as there are keys that a call has returned for;
* a poll of a feed over this directory makes more such calls, and keeps nothing by itself. -/
theorem History.resolved_once (hd : d.LeavesIds) (h : History d calls s) :
    (∀ before c after, calls = before ++ c :: after →
      (∀ id, Answered before c.key id → c.asked = [] ∧ c.result = .ok id) ∧
        ((∀ id, ¬ Answered before c.key id) →
          c.asked = [c.key] ∧ ∀ e, c.result = .error e → ∃ cause u v, History d before u ∧
            (d c.type (normalizedEmail c.email)).Fails u cause v ∧
              e = refusal c.type c.email cause)) ∧
      (∀ type email id, Answered calls (lookupKey type email) id →
        ∀ (d' : Directory ω) (t : Session ω), t.ids = s.ids →
          d'.Resolves ⟨type, email, [], .ok id⟩ t t) ∧
      (∀ type email, (∀ id, ¬ Answered calls (lookupKey type email) id) →
        (∀ answer t, (d type (normalizedEmail email)).Returns s answer t →
          d.Resolves ⟨type, email, [lookupKey type email], .ok answer.id?⟩ s
            { t with ids := (lookupKey type email, answer.id?) :: s.ids }) ∧
        ∀ cause t, (d type (normalizedEmail email)).Fails s cause t →
          d.Resolves ⟨type, email, [lookupKey type email], .error (refusal type email cause)⟩ s t ∧
            t.ids = s.ids) ∧
      s.ids.length = (answeredKeys calls).toFinset.card ∧
      ∀ f : Feed ω, f.directory = d → f.source.LeavesIds → ∀ token requested start r t,
        (f.poll token requested start).outcome s = .ok (r, t) →
          ∃ more, History d (calls ++ more) t := by
  have hs := h.remembers hd
  refine ⟨?_, ?_, ?_, hs.length_ids, ?_⟩
  · rintro before c after rfl
    exact h.resolved hd
  · intro type email id hid d' t ht
    exact d'.resolves_kept (((hs.of_ids_eq ht).known_iff _ _).2 hid)
  · intro type email hfresh
    have hnone := hs.known?_eq_none_iff.2 hfresh
    refine ⟨fun answer t ht ↦ ?_, fun cause t ht ↦ ⟨resolves_failed hnone ht, hd _ _ _ _ _ ht⟩⟩
    rw [← hd _ _ _ _ _ ht]
    exact resolves_asked hnone ht
  · rintro f rfl hsource token requested start r t hpoll
    exact h.poll hsource hpoll

end

/-! ### A directory that changes its mind -/

/-- No supply of emails keeps an answer. -/
theorem leavesIds_directory (x : FeedSupply ω) : x.directory.LeavesIds := by
  intro type email s r t h
  obtain ⟨pages, emails⟩ := x
  have hmoves : Relation.ReflTransGen (Session.Move (fun _ ↦ True) fun _ _ ↦ False) s t := by
    cases emails with
    | inl replies => exact replies.takes_ask .cancelled (type, email) s r t h
    | inr p =>
      have htokens : ∀ scope, (p.provider.tokens scope).Takes
          (Session.Move (fun _ ↦ True) fun _ _ ↦ False) := p.tokens.takes_source fun _ _ ↦ trivial
      exact Provider.takes_directory htokens type email (fun _ _ ↦ trivial) s r t h
  exact Session.ids_eq_of_moves hmoves

/-- The first lookup fails, the second one finds a group, and from then on there is nothing. -/
def fickleSupply : FeedSupply Nat where
  pages := .inl ⟨fun _ asked ↦ (⟨.error .cancelled, none⟩, asked), true⟩
  emails := .inl ⟨fun _ asked ↦
    (⟨match asked with
      | 0 => .error (.transport (.ofMessage "no route"))
      | 1 => .ok (.found "g1")
      | _ => .ok .absent, none⟩, asked + 1), true⟩

/-- Three calls over it, two of them for the same key. -/
def fickleCalls : List Resolution :=
  [⟨.group, "A@x.de ", [(.group, "a@x.de")],
      .error (refusal .group "A@x.de " (.transport (.ofMessage "no route")))⟩,
    ⟨.group, " a@X.de", [(.group, "a@x.de")], .ok (some "g1")⟩,
    ⟨.user, "a@x.de", [(.user, "a@x.de")], .ok none⟩]

/-- Capitals and blanks do not count. -/
theorem normalizedEmail_forms :
    ∀ email ∈ ["a@x.de", "A@x.de ", " a@X.de", "a@X.DE"], normalizedEmail email = "a@x.de" := by
  decide +kernel

theorem lookupKey_forms (type : ResourceType) {email : String}
    (h : email ∈ ["a@x.de", "A@x.de ", " a@X.de", "a@X.DE"]) :
    lookupKey type email = (type, "a@x.de") :=
  congrArg (Prod.mk type) (normalizedEmail_forms email h)

/-- The three calls are a history over it. -/
theorem exists_history_fickle : ∃ s, History fickleSupply.directory fickleCalls s := by
  have hpadded : lookupKey .group "A@x.de " = (.group, "a@x.de") := lookupKey_forms _ (by simp)
  have hcapital : lookupKey .group " a@X.de" = (.group, "a@x.de") := lookupKey_forms _ (by simp)
  have huser : lookupKey .user "a@x.de" = (.user, "a@x.de") := lookupKey_forms _ (by simp)
  let found : Session Nat :=
    { Session.start 2 .epoch with ids := [((.group, "a@x.de"), some "g1")] }
  have hfails : (fickleSupply.directory .group (normalizedEmail "A@x.de ")).Fails (.start 0 .epoch)
      (.transport (.ofMessage "no route")) (.start 1 .epoch) := rfl
  have hfinds : (fickleSupply.directory .group (normalizedEmail " a@X.de")).Returns
      (.start 1 .epoch) (.found "g1") (.start 2 .epoch) := rfl
  have hmisses : (fickleSupply.directory .user (normalizedEmail "a@x.de")).Returns found .absent
      { found with peer := 3 } := rfl
  have hnone : found.known? (lookupKey .user "a@x.de") = none := by
    rw [huser]
    rfl
  have hfirst := (History.start rfl).call (resolves_failed rfl hfails)
  have hsecond := hfirst.call (resolves_asked rfl hfinds)
  rw [hpadded, hcapital] at hsecond
  have hthird := hsecond.call (resolves_asked hnone hmisses)
  rw [huser] at hthird
  exact ⟨_, hthird⟩

/-- Two of them have returned, for different keys. -/
theorem answeredKeys_fickle :
    answeredKeys fickleCalls = [(.group, "a@x.de"), (.user, "a@x.de")] := by
  have hgroup : lookupKey .group " a@X.de" = (.group, "a@x.de") := lookupKey_forms _ (by simp)
  have huser : lookupKey .user "a@x.de" = (.user, "a@x.de") := lookupKey_forms _ (by simp)
  rw [← hgroup, ← huser]
  rfl

/-- The group that was found is found for good, in whatever form its email comes and from a
directory that has lost it, and the two answers are all that is kept. -/
theorem resolved_once_fickle :
    fickleSupply.directory.LeavesIds ∧
      ∃ s, History fickleSupply.directory fickleCalls s ∧ s.ids.length = 2 ∧
        ∀ d : Directory Nat, d.Resolves ⟨.group, "a@X.DE", [], .ok (some "g1")⟩ s s := by
  have hd : fickleSupply.directory.LeavesIds := leavesIds_directory fickleSupply
  have hasked : lookupKey .group " a@X.de" = (.group, "a@x.de") := lookupKey_forms _ (by simp)
  have hnext : lookupKey .group "a@X.DE" = (.group, "a@x.de") := lookupKey_forms _ (by simp)
  obtain ⟨s, hs⟩ := exists_history_fickle
  obtain ⟨-, hkept, -, hcount, -⟩ := hs.resolved_once hd
  have hanswered : Answered fickleCalls (lookupKey .group "a@X.DE") (some "g1") :=
    ⟨fickleCalls[1], List.getElem_mem _, hasked.trans hnext.symm, rfl⟩
  refine ⟨hd, s, hs, ?_, fun d ↦ hkept .group "a@X.DE" (some "g1") hanswered d s rfl⟩
  rw [hcount, answeredKeys_fickle]
  rfl

end Directory

end AuditFeed
