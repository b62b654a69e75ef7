import Facsimile.Text.Case
import Facsimile.Text.Split

/-!
# Names in the generated code

Properties become snake case, entries become Pascal case, and type names are kept.  Field names
change ASCII letters only; entry names use the full case mapping.
-/

namespace Facsimile
namespace Naming

/-- Whether a word starts at `c`, given its neighbours: a capital after a lower case letter, or the
last capital of a run that goes on in lower case. -/
def startsWord (prev : Option Char) (c : Char) (next : Option Char) : Bool :=
  c.isUpper && (prev.any Char.isLower || (prev.any Char.isUpper && next.any Char.isLower))

/-- Snake case of the text that follows the character `prev`. -/
def snakeAfter (prev : Option Char) : List Char → List Char
  | [] => []
  | c :: cs =>
    (if startsWord prev c cs.head? then ['_', c.toLower] else [c.toLower]) ++ snakeAfter (some c) cs

def fieldName (name : String) : String := String.ofList (snakeAfter none name.toList)

/-- The words between underscores, each in lower case with its first character in upper case. -/
def pascal (name : List Char) : List Char :=
  (name.splitOn '_').flatMap fun word => Text.upperFirst (Text.lowercase word)

def variantName (name : String) : String := String.ofList (pascal name.toList)

/-- Type names are upper camel case in the model already. -/
def typeName (name : String) : String := name

end Naming
end Facsimile
