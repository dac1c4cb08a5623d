import AuditFeed.Activity.Basic
import AuditFeed.Event

/-!
# Changes in the directory

What an activity of the admin log says about the directory. The table `changeTargets` lists the
events that count and, for each, the parameters that name what changed. Deletions are not in it:
what is gone has no id to report. An event without the parameter it needs says nothing.
-/

namespace AuditFeed

/-- A change of a resource that is still named by its email. -/
structure PendingChange where
  /-- The type of the resource. -/
  type : ResourceType
  /-- Its email. -/
  email : String
deriving DecidableEq

namespace Activity

/-- The group that an event is about. -/
def aboutGroup : List (ResourceType × String) := [(.group, "GROUP_EMAIL")]

/-- The user that an event is about. -/
def aboutUser : List (ResourceType × String) := [(.user, "USER_EMAIL")]

/-- The events that change the directory, by category and name, with the types and the parameters of
what they change. -/
def changeTable : List (String × List String × List (ResourceType × String)) :=
  [("GROUP_SETTINGS",
      ["CREATE_GROUP", "CHANGE_GROUP_NAME", "CHANGE_GROUP_DESCRIPTION", "CHANGE_GROUP_SETTING"],
      aboutGroup),
    ("GROUP_SETTINGS", ["CHANGE_GROUP_EMAIL"], aboutGroup ++ [(.group, "NEW_VALUE")]),
    ("GROUP_SETTINGS", ["ADD_GROUP_MEMBER", "REMOVE_GROUP_MEMBER", "UPDATE_GROUP_MEMBER"],
      aboutGroup ++ aboutUser),
    ("USER_SETTINGS",
      ["CREATE_USER", "SUSPEND_USER", "UNSUSPEND_USER", "GRANT_ADMIN_PRIVILEGE",
        "REVOKE_ADMIN_PRIVILEGE", "MOVE_USER_TO_ORG_UNIT", "CHANGE_FIRST_NAME", "CHANGE_LAST_NAME"],
      aboutUser),
    ("USER_SETTINGS", ["RENAME_USER"], aboutUser ++ [(.user, "NEW_VALUE")])]

/-- The types and the parameters of what an event changes. -/
def changeTargets (category name : String) : List (ResourceType × String) :=
  match changeTable.find? fun (c, names, _) ↦ c == category && names.contains name with
  | some (_, _, targets) => targets
  | none => []

/-- The changes that one event tells of. -/
def changesOf (e : ActivityEvent) : List PendingChange :=
  (changeTargets e.category e.name).filterMap fun (type, param) ↦
    (e.param? param).map fun email ↦ ⟨type, email⟩

/-- The changes that an activity of the admin log tells of, in order. -/
def adminChanges (a : Activity) : List PendingChange :=
  a.events.flatMap changesOf

end Activity

end AuditFeed
