import Facsimile.Model.Basic

/-!
# Type texts

The text of a type in the generated code.  A type that was not found is written as text, and its
spelling is one of the `unresolvedSpellings` of the type around it.
-/

namespace Facsimile

def Primitive.text : Primitive → String
  | .string => "String"
  | .i32 => "i32"
  | .i64 => "i64"
  | .i16 => "i16"
  | .i8 => "i8"
  | .u32 => "u32"
  | .u16 => "u16"
  | .u8 => "u8"
  | .u64 => "u64"
  | .double => "f64"
  | .float => "f32"
  | .boolean => "bool"
  | .char => "char"

/-- Points in time, durations and identifiers travel in their canonical text form. -/
def WellKnown.text : WellKnown → String
  | .date | .time | .dateTime | .instant | .offsetDateTime | .zonedDateTime | .duration | .uuid =>
    "String"

def fallbackType : String := "String"

namespace TypeRef

def text : TypeRef → String
  | .primitive p => p.text
  | .list element => "Vec<" ++ element.text ++ ">"
  | .set element => "HashSet<" ++ element.text ++ ">"
  | .map key value => "HashMap<" ++ key.text ++ ", " ++ value.text ++ ">"
  | .named name => name
  | .wellKnown w => w.text
  | .unresolved _ => fallbackType

def unresolvedSpellings : TypeRef → List String
  | .primitive _ | .named _ | .wellKnown _ => []
  | .list element | .set element => element.unresolvedSpellings
  | .map key value => key.unresolvedSpellings ++ value.unresolvedSpellings
  | .unresolved spelling => [spelling]

end TypeRef

def optionOpening : String := "Option<"

/-- The text of a field's type: a nullable type is wrapped once, around all of it. -/
def fieldTypeText (type : TypeRef) (nullable : Bool) : String :=
  if nullable then optionOpening ++ type.text ++ ">" else type.text

def isOptional (text : String) : Bool := optionOpening.toList.isPrefixOf text.toList

theorem isOptional_of_nullable (type : TypeRef) : isOptional (fieldTypeText type true) = true := by
  simp [isOptional, fieldTypeText, String.toList_append, List.isPrefixOf_iff_prefix,
    List.append_assoc]

end Facsimile
