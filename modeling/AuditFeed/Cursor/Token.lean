import AuditFeed.Base64
import AuditFeed.Cursor
import AuditFeed.Error.Sync
import AuditFeed.Instant.Rfc3339
import AuditFeed.Json.Decode
import AuditFeed.Json.Printer
import AuditFeed.Word

/-!
# Cursor tokens

A cursor as the opaque text that the caller keeps: the Base64 of a small JSON record. The empty
token is the initial cursor. Blanks around a token are ignored.

A time is written as RFC 3339 and read by the strict reader, with the empty text for none. The
strict reader does not know years outside 0 to 9999.
-/

namespace AuditFeed

namespace Json

/-- A time as RFC 3339, or none for null and the empty text. -/
def optionalTime : Decoder (Option Instant) := fun room v ↦ do
  match ← option string room v with
  | none => return none
  | some "" => return none
  | some s => return some (← Instant.parse? s)

/-- A cursor. -/
def cursor : Decoder Cursor :=
  ofRecord ["latest_event_seen", "next_page_token", "start_at", "page_size"] fun room r ↦ do
    return {
      latestSeen := ← r.defaulted room 0 optionalTime none
      pageToken := ← r.defaulted room 1 string ""
      startAt := ← r.defaulted room 2 optionalTime none
      pageSize := ← r.defaulted room 3 (mapped UInt32.ofNat (natBelow Word.limit32)) 0 }

end Json

namespace Cursor

open Json

/-- A time as RFC 3339, or the empty text for none. -/
def timeText (t : Option Instant) : String :=
  (t.map Instant.text).getD ""

/-- A cursor as JSON. -/
def toJson (c : Cursor) : Value :=
  .object [
    ("latest_event_seen", .text (timeText c.latestSeen)),
    ("next_page_token", .text c.pageToken),
    ("start_at", .text (timeText c.startAt)),
    ("page_size", .nat c.pageSize.toNat)]

/-- The token of a cursor. -/
def encode (c : Cursor) : String :=
  String.ofList (Base64.encode (Text.utf8 c.toJson.chars))

/-- The refusal of a token. -/
def malformed (reason : String) : SyncError :=
  .ofKind .invalidArgument s!"malformed cursor: {reason}"

/-- The cursor of a token. -/
def decode (token : String) : Except SyncError Cursor :=
  match Text.trimChars token.toList with
  | [] => .ok initial
  | s =>
    match Base64.decode (Text.utf8 s) with
    | .error e => .error (malformed e.message)
    | .ok bytes =>
      match Json.cursor.parseBytes bytes with
      | .error e => .error (malformed e.message)
      | .ok c => .ok c

end Cursor

end AuditFeed
