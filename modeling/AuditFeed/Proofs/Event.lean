import AuditFeed.Event
import AuditFeed.Proofs.Instant.Relaxed
import AuditFeed.Proofs.Json.Text

/-!
# Events come back from their JSON

An event is read back from the text that it is written as, whatever it holds
(`Event.parse_print_toJson`).

## Layers

Three layers are taken off: the text of the value, which JSON reads back; the record of the event's
own members; and the members of its kind, which stand beside those and are held until the kind is
known. What is held has to fit into the room that is left, so a value has to be plain, for the text,
and holdable, for what is kept of it.

The members of a kind share no name with those of an event, and no name is written twice. That is
what lets them stand in one object (`Event.filter_own_toJson`).

## Times

A time is read by the relaxed reader, so the years that the strict one refuses come back as well: an
event can be of any time that there is, with no condition, where a cursor cannot.

## Main statements

* `EventKind.eventKind_membersJson`: a kind comes back from its members.
* `Event.parse_print_toJson`: an event comes back from its text.
-/

namespace AuditFeed

open Json

/-! ### Parts -/

section

variable {room : Nat}

/-- A type of resources comes back from its name. -/
theorem Json.resourceType_text (t : ResourceType) : resourceType room (.text t.name) = some t :=
  t.ofName?_name

/-- A time comes back from its text, whatever its year is. -/
theorem Json.instant_text (t : Instant) : instant room (.text t.text) = some t :=
  t.parseRelaxed?_text

namespace ResourceRef

theorem isPlain_toJson (r : ResourceRef) : r.toJson.IsPlain := by
  rw [toJson]
  cases r.displayName <;> exact ⟨trivial, trivial, by repeat constructor⟩

theorem isHoldable_toJson (r : ResourceRef) : isHoldable (room + 1) r.toJson = true := by
  rw [toJson]
  cases r.displayName <;> rfl

/-- A resource comes back, with or without a name for people. -/
theorem resourceRef_toJson (r : ResourceRef) : resourceRef (room + 1) r.toJson = some r := by
  obtain ⟨type, id, displayName⟩ := r
  cases displayName with
  | none =>
    show (do return (⟨← resourceType room (.text type.name), id, none⟩ : ResourceRef)) = _
    rw [resourceType_text]
    rfl
  | some name =>
    show (do return (⟨← resourceType room (.text type.name), id, some name⟩ : ResourceRef)) = _
    rw [resourceType_text]
    rfl

end ResourceRef

/-- An actor comes back. -/
theorem ActorRef.actorRef_toJson (a : ActorRef) : actorRef (room + 1) a.toJson = some a := rfl

end

/-! ### Kinds -/

namespace EventKind

/-- The members of a kind as they stand in an object. -/
def membersJson (k : EventKind) : List (Option String × Value) :=
  k.members.map fun (name, v) ↦ (some name, v)

/-- The members of a kind are read back from a text. -/
theorem membersPlain_membersJson (k : EventKind) : MembersPlain k.membersJson := by
  cases k with
  | resourceChange type id => exact ⟨trivial, trivial, trivial, trivial⟩
  | usage target actor =>
    exact ⟨trivial, target.isPlain_toJson, ⟨trivial, trivial, trivial⟩, trivial⟩

/-- They can be held until the kind is known. -/
theorem membersHoldable_membersJson (k : EventKind) (room : Nat) :
    membersHoldable (room + 1) k.membersJson = true := by
  cases k with
  | resourceChange type id => rfl
  | usage target actor =>
    show (true && (true && isHoldable (room + 1) target.toJson && true)) = true
    rw [target.isHoldable_toJson]
    rfl

/-- **A kind comes back from its members.** -/
theorem eventKind_membersJson (k : EventKind) (room : Nat) :
    eventKind (room + 1) k.membersJson = some k := by
  rw [eventKind, membersHoldable_membersJson]
  cases k with
  | resourceChange type id =>
    show (do return EventKind.resourceChange (← resourceType (room + 1) (.text type.name)) id) = _
    rw [resourceType_text]
    rfl
  | usage target actor =>
    show (do
      return EventKind.usage (← resourceRef (room + 1) target.toJson)
        (← actorRef (room + 1) actor.toJson)) = _
    rw [target.resourceRef_toJson, actor.actorRef_toJson]
    rfl

end EventKind

/-! ### Events -/

namespace Event

/-- The members of an event stand in front of those of its kind. -/
theorem toJson_eq (e : Event) :
    e.toJson = .obj ((some "id", .text e.id) :: (some "occurred_at", .text e.occurredAt.text) ::
      e.kind.membersJson) := rfl

/-- The value of an event is read back from a text. -/
theorem isPlain_toJson (e : Event) : e.toJson.IsPlain := by
  rw [toJson_eq]
  exact ⟨trivial, trivial, e.kind.membersPlain_membersJson⟩

/-- The members of a kind are not the event's own, and all others of the object are. -/
theorem record_toJson (e : Event) :
    record ["id", "occurred_at"] e.toJson =
      some ⟨[some (.text e.id), some (.text e.occurredAt.text)], false⟩ := by
  obtain ⟨id, occurredAt, kind⟩ := e
  cases kind <;> rfl

/-- What is not the event's own belongs to its kind. -/
theorem filter_own_toJson (e : Event) :
    (((some "id", .text e.id) :: (some "occurred_at", .text e.occurredAt.text) ::
      e.kind.membersJson).filter fun (m : Option String × Value) ↦
        !(m.1 == some "id" || m.1 == some "occurred_at")) = e.kind.membersJson := by
  cases e.kind <;> rfl

/-- An event comes back from its value. -/
theorem event_toJson (e : Event) (room : Nat) : event (room + 2) e.toJson = some e := by
  -- The event's own members are read first, and what is left over is read as the kind.
  have hrecord := e.record_toJson
  rw [toJson_eq] at hrecord ⊢
  have hid : Record.required ⟨[some (.text e.id), some (.text e.occurredAt.text)], false⟩
      (room + 1) 0 string = some e.id := rfl
  have htime : Record.required ⟨[some (.text e.id), some (.text e.occurredAt.text)], false⟩
      (room + 1) 1 instant = some e.occurredAt := by
    rw [Record.required, show Record.value _ 1 = some (.text e.occurredAt.text) from rfl,
      Option.bind_eq_bind, Option.bind_some, instant_text]
  rw [event, hrecord]
  simp only [Option.bind_eq_bind, Option.bind_some, hid, htime, filter_own_toJson,
    e.kind.eventKind_membersJson]
  rfl

/-- **An event comes back from its text**: of either kind, with any texts, any resource types, with
a name for people and without one, and at any time that there is, in a leap second and in years that
are not written with four digits too. -/
theorem parse_print_toJson (e : Event) : Json.event.parse e.toJson.print = .ok e := by
  rw [Decoder.parse, parse_print e.isPlain_toJson]
  show event.run e.toJson = _
  rw [Decoder.run, maxDepth, e.event_toJson]

end Event

end AuditFeed
