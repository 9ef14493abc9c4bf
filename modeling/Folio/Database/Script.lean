import Folio.Database.Driver

/-!
# Scripted drivers

A driver that gives prepared answers, one after the other. Where none is prepared, connections are opened, commands
that change rows change one, and commands that answer rows answer a single empty set.
-/

namespace Folio.Database

/-- Prepared answers. An answer that is left out is the usual one. -/
structure Script where
  connects : List (Answer Unit) := []
  replies : List (Option (Answer Reply)) := []

namespace Script

/-- The usual answer. -/
def usualReply : Operation → Reply
  | .execute _ => .count 1
  | .query _ => .sets (.ofList [[]])
  | .start | .commit | .rollback => .count 0

/-- The driver that follows a script. -/
def driver (capability : Capability) : Driver Script where
  capability
  connect _ script :=
    (script.connects.head?.getD (.reply ()), { script with connects := script.connects.tail })
  perform _ op script :=
    (script.replies.head?.join.getD (.reply (usualReply op)), { script with replies := script.replies.tail })

end Script

end Folio.Database
