import Facsimile.Json.Doc
import Facsimile.Sorted

/-!
# JSON values

The value of a document: names are text and occur once in an object, in ascending order.
-/

namespace Facsimile
namespace Json

inductive Value where
  | null
  | bool (b : Bool)
  | number (n : Number)
  | string (s : String)
  | array (items : List Value)
  | object (members : List (String × Value))

namespace Value

def text? : Value → Option String
  | .string s => some s
  | _ => none

mutual
def toDoc : Value → Doc
  | .null => .null
  | .bool b => .bool b
  | .number n => .number (some n)
  | .string s => .text s
  | .array items => .array (toDocs items)
  | .object members => .object (toMembers members)

def toDocs : List Value → List Doc
  | [] => []
  | v :: vs => toDoc v :: toDocs vs

def toMembers : List (String × Value) → List (Option String × Doc)
  | [] => []
  | (name, v) :: ms => (some name, toDoc v) :: toMembers ms
end

end Value
end Json
end Facsimile
