import Facsimile.Naming.Convert

/-!
# File names

A source unit is a path.  Its file is named after the stem of the path's last component; a path
without one, such as `..`, gives its whole text.
-/

namespace Facsimile
namespace Naming

/-- The last component of a path.  Empty components and `.` are passed over, and `..` is none. -/
def lastComponent? (path : List Char) : Option (List Char) :=
  match (path.splitOn '/').reverse.find? fun part => part ≠ [] ∧ part ≠ ['.'] with
  | some part => if part = ['.', '.'] then none else some part
  | none => none

/-- A component up to its last dot, unless that dot is its first character. -/
def stem (component : List Char) : List Char :=
  match Text.splitLast? '.' component with
  | some ([], _) => component
  | some (before, _) => before
  | none => component

def fileExtension : String := ".rs"

def fileName (unit : String) : String :=
  let base :=
    match lastComponent? unit.toList with
    | some component => stem component
    | none => unit.toList
  fieldName (String.ofList base) ++ fileExtension

end Naming
end Facsimile
