import Facsimile.Json.Doc
import Facsimile.Json.Token

/-!
# Reading JSON

The tokens of a document are taken one at a time; what is open is kept on a stack, so nesting has no
limit.
-/

namespace Facsimile
namespace Json

/-- An array or object that is open, with what it holds so far in reverse.  In an object a value is
due under the name. -/
inductive Frame where
  | array (items : List Doc)
  | object (members : List (Option String × Doc)) (name : Option String)

inductive Reading where
  /-- A value, or the end of the array that was just opened. -/
  | value (stack : List Frame) (mayClose : Bool)
  /-- A comma or the end of an array. -/
  | afterItem (stack : List Frame) (items : List Doc)
  /-- A comma or the end of an object. -/
  | afterMember (stack : List Frame) (members : List (Option String × Doc))
  /-- A name, or the end of the object that was just opened. -/
  | name (stack : List Frame) (members : List (Option String × Doc)) (mayClose : Bool)
  | colon (stack : List Frame) (members : List (Option String × Doc)) (name : Option String)
  | done (d : Doc)

namespace Reading

def place (d : Doc) : List Frame → Reading
  | [] => .done d
  | .array items :: stack => .afterItem stack (d :: items)
  | .object members key :: stack => .afterMember stack ((key, d) :: members)

def step : Reading → Token → Option Reading
  | .value stack _, .null => some (place .null stack)
  | .value stack _, .bool b => some (place (.bool b) stack)
  | .value stack _, .number n => some (place (.number n) stack)
  | .value stack _, .string s => some (place (.string s) stack)
  | .value stack _, .openArray => some (.value (.array [] :: stack) true)
  | .value stack _, .openObject => some (.name stack [] true)
  | .value (.array items :: stack) true, .closeArray => some (place (.array items.reverse) stack)
  | .afterItem stack items, .comma => some (.value (.array items :: stack) false)
  | .afterItem stack items, .closeArray => some (place (.array items.reverse) stack)
  | .afterMember stack members, .comma => some (.name stack members false)
  | .afterMember stack members, .closeObject => some (place (.object members.reverse) stack)
  | .name stack members _, .string s => some (.colon stack members s)
  | .name stack members true, .closeObject => some (place (.object members.reverse) stack)
  | .colon stack members key, .colon => some (.value (.object members key :: stack) false)
  | _, _ => none

end Reading

def readTokens? (tokens : List Token) : Option Doc :=
  match tokens.foldlM Reading.step (.value [] false) with
  | some (.done d) => some d
  | _ => none

def Doc.read? (text : String) : Option Doc := (Token.read? text.toList).bind readTokens?

end Json
end Facsimile
