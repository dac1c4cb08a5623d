import AuditFeed.Instant.Rfc3339
import AuditFeed.Json.Decode
import AuditFeed.Json.Printer

/-!
# Events

What a feed delivers. An event says either that a directory resource **changed**, and should be
read again, or that a user **authorized** an application.

## As JSON

An event is one flat object: its kind is a member beside those of the event itself. When it is read,
all members that belong to the kind have to be usable, whether the kind asks for them or not, since
they are held until the kind is known.
-/

namespace AuditFeed

/-- The types of directory resources. -/
inductive ResourceType where
  | user
  | group
  | role
  | app
deriving DecidableEq

namespace ResourceType

/-- The name of a resource type. -/
def name : ResourceType → String
  | user => "user"
  | group => "group"
  | role => "role"
  | app => "app"

/-- The resource type of a name. -/
def ofName? : String → Option ResourceType
  | "user" => some user
  | "group" => some group
  | "role" => some role
  | "app" => some app
  | _ => none

@[simp] theorem ofName?_name (t : ResourceType) : ofName? t.name = some t := by
  cases t <;> rfl

end ResourceType

/-- A resource by type and durable id. -/
structure ResourceRef where
  /-- The type. -/
  type : ResourceType
  /-- The durable id. -/
  id : String
  /-- A name for people, if there is one. -/
  displayName : Option String
deriving DecidableEq

/-- The user who authorized an application. -/
structure ActorRef where
  /-- The durable id. -/
  id : String
  /-- The primary email at the time. -/
  email : String
deriving DecidableEq

/-- What an event says. -/
inductive EventKind where
  /-- A resource changed. -/
  | resourceChange (type : ResourceType) (id : String)
  /-- A user authorized an application. -/
  | usage (target : ResourceRef) (actor : ActorRef)
deriving DecidableEq

/-- An event of a feed. -/
structure Event where
  /-- The id that the provider gave the activity. -/
  id : String
  /-- When the activity happened. -/
  occurredAt : Instant
  /-- What the event says. -/
  kind : EventKind
deriving DecidableEq

namespace Event

/-- Does the event say that a resource changed? -/
def isResourceChange (e : Event) : Bool :=
  match e.kind with
  | .resourceChange .. => true
  | .usage .. => false

/-- The resource that changed, if the event says so. -/
def changedResource (e : Event) : Option (ResourceType × String) :=
  match e.kind with
  | .resourceChange type id => some (type, id)
  | .usage .. => none

end Event

/-! ### Writing -/

open Json in
/-- A resource as JSON. -/
def ResourceRef.toJson (r : ResourceRef) : Value :=
  .object <| [("resource_type", .text r.type.name), ("id", .text r.id)] ++
    match r.displayName with
    | some name => [("display_name", .text name)]
    | none => []

open Json in
/-- An actor as JSON. -/
def ActorRef.toJson (a : ActorRef) : Value :=
  .object [("id", .text a.id), ("email", .text a.email)]

open Json in
/-- The members of a kind. -/
def EventKind.members : EventKind → List (String × Value)
  | .resourceChange type id =>
    [("kind", .text "resource_change"), ("resource_type", .text type.name),
      ("resource_id", .text id)]
  | .usage target actor =>
    [("kind", .text "usage"), ("target_resource", target.toJson), ("actor_resource", actor.toJson)]

open Json in
/-- An event as JSON. -/
def Event.toJson (e : Event) : Value :=
  .object ([("id", .text e.id), ("occurred_at", .text e.occurredAt.text)] ++ e.kind.members)

/-! ### Reading -/

namespace Json

/-- An instant as people type it. -/
def instant : Decoder Instant
  | _, .str (some s) => Instant.parseRelaxed? s
  | _, _ => none

/-- Nothing: a null or an empty object. -/
def isNothing : Value → Bool
  | .null => true
  | .obj [] => true
  | _ => false

/-- A name, by itself or as the only member of an object that says nothing about it. -/
def variantName : Value → Option String
  | .str s => s
  | .obj [(some name, v)] => if isNothing v then some name else none
  | _ => none

/-- A resource type. -/
def resourceType : Decoder ResourceType := fun _ v ↦ do
  ResourceType.ofName? (← variantName v)

/-- A resource. -/
def resourceRef : Decoder ResourceRef :=
  ofRecord ["resource_type", "id", "display_name"] fun room r ↦ do
    return {
      type := ← r.required room 0 resourceType
      id := ← r.required room 1 string
      displayName := ← r.defaulted room 2 (option string) none }

/-- An actor. -/
def actorRef : Decoder ActorRef :=
  ofRecord ["id", "email"] fun room r ↦ do
    return { id := ← r.required room 0 string, email := ← r.required room 1 string }

/-- The two kinds of events, by name or by number. -/
def isUsageKind : Value → Option Bool
  | .str (some "resource_change") => some false
  | .str (some "usage") => some true
  | .num n =>
    match n.value? with
    | some (.unsigned 0) => some false
    | some (.unsigned 1) => some true
    | _ => none
  | _ => none

/-- The kind of an event, from the members that are not the event's own. -/
def eventKind (room : Nat) (members : List (Option String × Value)) : Option EventKind := do
  guard (membersHoldable room members)
  let kind ← (← uniqueMember "kind" members)
  let rest := members.filter fun m ↦ m.1 != some "kind"
  if ← isUsageKind kind then
    let r ← record ["target_resource", "actor_resource"] (.obj rest)
    return .usage (← r.required room 0 resourceRef) (← r.required room 1 actorRef)
  else
    let r ← record ["resource_type", "resource_id"] (.obj rest)
    return .resourceChange (← r.required room 0 resourceType) (← r.required room 1 string)

/-- An event. -/
def event : Decoder Event
  | room + 1, .obj members => do
    let r ← record ["id", "occurred_at"] (.obj members)
    let own := fun (m : Option String × Value) ↦ m.1 == some "id" || m.1 == some "occurred_at"
    return {
      id := ← r.required room 0 string
      occurredAt := ← r.required room 1 instant
      kind := ← eventKind room (members.filter fun m ↦ !own m) }
  | _, _ => none

end Json

end AuditFeed
