import AuditFeed.Proofs.Activity.Numbers
import AuditFeed.Proofs.Feed.Records

/-!
# Polls over pages with numbers for texts

A poll brings the same, to the last digit of each identifier and with the same cursor, whether its
page gives an integer of 64 bits as a number or as a text, wherever a record is read leniently
(`Feed.poll_of_alike`). A poll sees nothing of the text that it is served but the page that it
denotes (`Feed.returns_poll_of_serves`), so what is left is that the two texts denote the same page,
and that is a fact about their values.

## Which texts are compared

Two texts are compared if their values are alike (`Json.Shape.Alike`), which is told by the shape of
a page: the one has an integer where the other has its numeral, at any number of places, in either
direction and in the same text. Integers of 64 bits are meant with a sign and without one, so an
identifier beyond the signed ones is covered, as in the last example.

Where a field is read strictly, alike values are the same value. Nothing is said of a number in such
a place, which costs the whole page.

## Sources

The two polls have different sources and are otherwise of one feed. That nothing but the listing
depends on the source is seen part by part (`interpretAll_with_source`). Both sources have to leave
the same session behind, since the directory is asked from there, and its answers may depend on it.

## Main statements

* `Feed.poll_of_alike`: alike texts denote one page, an integer is read as its digits, and polls
  over the two texts agree.
-/

namespace AuditFeed

open Call

variable {ω : Type}

namespace Feed

variable {f : Feed ω} {s t u : Session ω}

/-- **What a poll that is served a text brings** is settled by the page that the text denotes. -/
theorem returns_poll_of_serves {token : String} {given : Cursor}
    (hdecode : Cursor.decode token = .ok given) {start : Option Instant} {begin : Instant}
    (hbegin : f.begin? start s.now = some begin) {requested : UInt32} {text : String}
    (hserved : f.source.Serves (f.query (f.opened given begin requested)) s text u)
    {r : PollResult} :
    (f.poll token requested start).Returns s r t ↔
      ∃ page events seen, Json.activityPage.parse text = .ok page ∧
        (f.interpretAll (f.opened given begin requested) page.items).Returns u (events, seen) t ∧
        r = ⟨events, (seen.advance page.nextPageToken).encode,
          (seen.advance page.nextPageToken).isMidWindow⟩ := by
  have hstart : (f.defaultStart start).Returns s begin s := by
    rw [Returns, outcome_defaultStart, hbegin]
  have hsource : ∀ page v,
      (f.source (f.query (f.opened given begin requested))).Returns s page v ↔
        Json.activityPage.parse text = .ok page ∧ v = u := fun page v ↦ by
    rw [Returns, hserved]
    cases Json.activityPage.parse text with
    | error e => simp [Except.mapError]
    | ok page' => simp [Except.mapError, eq_comm]
  rw [returns_poll]
  constructor
  · rintro ⟨given', begin', u', page, v, events, seen, hdecode', hstart', hpage, hall, hr⟩
    obtain rfl : given' = given := Except.ok.inj (hdecode'.symm.trans hdecode)
    obtain ⟨rfl, rfl⟩ := hstart.unique hstart'
    obtain ⟨hparse, rfl⟩ := (hsource page v).1 hpage
    exact ⟨page, events, seen, hparse, hall, hr⟩
  · rintro ⟨page, events, seen, hparse, hall, hr⟩
    exact ⟨given, begin, s, page, u, events, seen, hdecode, hstart,
      (hsource page u).2 ⟨hparse, rfl⟩, hall, hr⟩

/-! ### Sources that serve the same -/

section

variable (source : ActivitySource ω)

/-- Changes are resolved without the source. -/
theorem changes_with_source (a : Activity) (cs : List PendingChange) :
    ({ f with source } : Feed ω).changes a cs = f.changes a cs := by
  induction cs with
  | nil => rfl
  | cons c cs ih => rw [changes, changes, ih]

/-- So are the events of an activity found. -/
theorem own_with_source (a : Activity) : ({ f with source } : Feed ω).own a = f.own a := by
  rw [own, own, interpret, interpret, changes_with_source]
  rfl

/-- The activities of a page are interpreted without the source. -/
theorem interpretAll_with_source (c : Cursor) (as : List Activity) :
    ({ f with source } : Feed ω).interpretAll c as = f.interpretAll c as := by
  induction as generalizing c with
  | nil => rfl
  | cons a as ih => rw [interpretAll_cons, interpretAll_cons, own_with_source, ih]

end

/-- **Numbers and their numerals are interchangeable.** Take two texts whose values are alike: at
any places where a record of the log is read leniently, the second one has an integer of 64 bits,
with a sign or without one, in the place of its decimal numeral, or the numeral in the place of the
integer. They denote the same page, if they denote one. What is read of such an integer is its
numeral, digit for digit, whichever way it is written. And a poll that is served the one text brings
what it would bring if it were served the other: the same events, the same cursor and the same
session. -/
theorem poll_of_alike {text text' : String} {v w : Json.Value} (hv : Json.parse text = .ok v)
    (hw : Json.parse text' = .ok w) (h : Json.activityPage.shape.Alike v w) :
    (∀ page, Json.activityPage.parse text = .ok page ↔ Json.activityPage.parse text' = .ok page) ∧
    (∀ n, Json.IsWordSized n → ∀ room,
      Json.textOrNumber room (.int n) = some (Decimal.text n) ∧
        Json.textOrNumber room (.text (Decimal.text n)) = some (Decimal.text n)) ∧
    ∀ (ω : Type) (f : Feed ω) (source' : ActivitySource ω) (token : String) (given : Cursor)
      (start : Option Instant) (begin : Instant) (requested : UInt32) (s u : Session ω),
      Cursor.decode token = .ok given → f.begin? start s.now = some begin →
      f.source.Serves (f.query (f.opened given begin requested)) s text u →
      source'.Serves (f.query (f.opened given begin requested)) s text' u →
      ∀ r t, (f.poll token requested start).Returns s r t ↔
        (({ f with source := source' } : Feed ω).poll token requested start).Returns s r t := by
  refine ⟨fun page ↦ Json.parse_activityPage_of_alike hv hw h,
    fun n hn room ↦ ⟨Json.textOrNumber_int hn room, rfl⟩, ?_⟩
  intro ω f source' token given start begin requested s u hdecode hbegin hserved hserved' r t
  have hother := returns_poll_of_serves (f := { f with source := source' }) (r := r) (t := t)
    hdecode hbegin hserved'
  rw [returns_poll_of_serves hdecode hbegin hserved, hother]
  simp only [interpretAll_with_source, Json.parse_activityPage_of_alike hv hw h]
  rfl

/-! ### A qualifier beyond the signed integers -/

/-- The record of an authorization with this value for its qualifier. -/
def qualifiedRecord (qualifier : Json.Value) : Json.Value :=
  .object [("id", .object [("time", .text "2024-03-15T10:00:01Z"), ("uniqueQualifier", qualifier)]),
    ("actor", .object [("email", .text "jane@example.com"), ("profileId", .text "1122")]),
    ("events", .arr [.object [("type", .text "auth"), ("name", .text "authorize"),
      ("parameters", .arr [
        .object [("name", .text "client_id"), ("value", .text "mail.example.com")],
        .object [("name", .text "app_name"), ("value", .text "Mail")]])]])]

/-- The greatest integer of 64 bits. -/
def greatestWord : Int := 18446744073709551615

/-- A page with the greatest integer is alike to one with its numeral. -/
theorem alike_qualifiedRecord : Json.activityPage.shape.Alike
    (.object [("items", .arr [qualifiedRecord (.text (Decimal.text greatestWord))])])
    (.object [("items", .arr [qualifiedRecord (.int greatestWord)])]) := by
  have hid : Json.activityIdShape.Alike
      (.object [("time", .text "2024-03-15T10:00:01Z"),
        ("uniqueQualifier", .text (Decimal.text greatestWord))])
      (.object [("time", .text "2024-03-15T10:00:01Z"), ("uniqueQualifier", .int greatestWord)]) :=
    .member ("uniqueQualifier", .held, true) (.number (by decide)) (by simp)
      [(some "time", .text "2024-03-15T10:00:01Z")] []
  have hrecord : Json.activityShape.Alike (qualifiedRecord (.text (Decimal.text greatestWord)))
      (qualifiedRecord (.int greatestWord)) :=
    .member ("id", .orNull Json.activityIdShape, true) (.orNull hid) (by simp) [] _
  exact .member ("items", .orNull (.list Json.activityShape), true) (.orNull (hrecord.item [] []))
    (by simp) [] []

/-- The record is plain if its qualifier is. -/
theorem itemsPlain_qualifiedRecord {v : Json.Value} (hv : v.IsPlain) :
    Json.ItemsPlain [qualifiedRecord v] := by
  simp [qualifiedRecord, Json.Value.object, Json.Value.text, Json.ItemsPlain, Json.MembersPlain,
    Json.Value.IsPlain, hv]

/-- A poll over the page with the numeral brings the event, with the numeral for its identifier. -/
theorem returns_poll_qualifiedRecord :
    ∃ r t, ((pageFeed [qualifiedRecord (.text (Decimal.text greatestWord))]).poll "" 0
      (some .epoch)).Returns (.start () .epoch) r t ∧
        r.events.map (·.id) = ["18446744073709551615"] := by
  let f := pageFeed [qualifiedRecord (.text (Decimal.text greatestWord))]
  let opened := f.opened .initial .epoch 0
  have hbegin : f.begin? (some .epoch) (Session.start () .epoch).now = some .epoch := rfl
  have hread : ([qualifiedRecord (.text (Decimal.text greatestWord))].mapM
      (Json.activity Json.recordRoom)).map (fun items ↦
        (items.map (·.usageEventsOrNone)).flatten.map (·.id)) = some ["18446744073709551615"] := by
    decide +kernel
  obtain ⟨items, hitems, hids⟩ := Option.map_eq_some_iff.1 hread
  have hplain := itemsPlain_qualifiedRecord (v := .text (Decimal.text greatestWord)) trivial
  have hparse : Json.activityPage.parse
      (pageText [qualifiedRecord (.text (Decimal.text greatestWord))]) = .ok ⟨items, none⟩ :=
    (isPage_pageText hplain).parse_eq_ok_iff.2 ⟨rfl, Json.mapM_eq_some_iff.1 hitems⟩
  have hsteady : f.directory.IsSteady := fun _ _ s hs ↦ ⟨_, s, rfl, hs⟩
  obtain ⟨contributions, t, hcontributions, hall, -⟩ :=
    exists_interpretsAll hsteady items opened (s := .start () .epoch) rfl
  obtain ⟨rfl, rfl⟩ := hcontributions.eq_of_usage rfl
  exact ⟨_, _, (returns_poll_of_serves Cursor.decode_empty hbegin rfl).2
    ⟨⟨items, none⟩, _, _, hparse, hall, rfl⟩, hids⟩

/-- So does a poll over the page with the number: no digit of the identifier is lost. -/
theorem poll_of_alike_greatestWord :
    ∃ r t, ((pageFeed [qualifiedRecord (.int greatestWord)]).poll "" 0 (some .epoch)).Returns
      (.start () .epoch) r t ∧ r.events.map (·.id) = ["18446744073709551615"] := by
  obtain ⟨r, t, hpoll, hids⟩ := returns_poll_qualifiedRecord
  have hread : ∀ {v : Json.Value}, v.IsPlain → Json.parse (pageText [qualifiedRecord v]) =
      .ok (.object [("items", .arr [qualifiedRecord v])]) := fun hv ↦
    Json.parse_print ⟨itemsPlain_qualifiedRecord hv, trivial⟩
  obtain ⟨-, -, hpolls⟩ := poll_of_alike (hread (v := .text (Decimal.text greatestWord)) trivial)
    (hread (Json.isPlain_int _)) alike_qualifiedRecord
  exact ⟨r, t, (hpolls Unit (pageFeed [qualifiedRecord (.text (Decimal.text greatestWord))])
    (pageFeed [qualifiedRecord (.int greatestWord)]).source "" .initial (some .epoch) .epoch 0
    (.start () .epoch) (.start () .epoch) Cursor.decode_empty rfl rfl rfl r t).1 hpoll, hids⟩

end Feed

end AuditFeed
