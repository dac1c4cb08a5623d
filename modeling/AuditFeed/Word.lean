/-!
# Words

The bounds of the numbers that senders and files count with, written out.
-/

namespace AuditFeed.Word

/-- The natural numbers of 32 bits are those below this one. -/
abbrev limit32 : Nat := 0x100000000

/-- The integers of 64 bits are those below this one and not below its negative. -/
abbrev limit63 : Nat := 0x8000000000000000

/-- The natural numbers of 64 bits are those below this one. -/
abbrev limit64 : Nat := 0x10000000000000000

end AuditFeed.Word
