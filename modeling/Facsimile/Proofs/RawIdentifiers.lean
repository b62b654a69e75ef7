import Facsimile.Proofs.ReservedNames

/-!
# Raw identifiers

A path keyword stays a keyword behind the mark of a raw identifier.  A template can set that mark in
front of it in one way only, as the bare raw template, and with that one a pass looks at all names
before it writes any.  So a pass that succeeds writes no raw path keyword, except for a name that
brings the mark along (`raw_path_keyword_iff`).
-/

namespace Facsimile
namespace Naming

end Naming

/-! ## The declarations behind a block -/

namespace Generator

/-- A root with a child, both under reserved names. -/
def selfRoot : Declaration := marked ((Declaration.sealedRoot "m.type").inUnit "Types.kt")

def selfChild : Declaration :=
  marked
    ((Declaration.record "m.Self" [Field.plain "super" (.primitive .string)]).extending "m.type")

end Generator
end Facsimile
