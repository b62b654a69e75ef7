import Facsimile.Model.Basic

/-!
# Models as JSON

Every member of a declaration is written, defaults included.
-/

namespace Facsimile

open Json (Doc)

def Primitive.names : List (String × Primitive) :=
  [("string", .string), ("i32", .i32), ("i64", .i64), ("i16", .i16), ("i8", .i8), ("u32", .u32),
    ("u16", .u16), ("u8", .u8), ("u64", .u64), ("double", .double), ("float", .float),
    ("boolean", .boolean), ("char", .char)]

def WellKnown.names : List (String × WellKnown) :=
  [("date", .date), ("time", .time), ("date_time", .dateTime), ("instant", .instant),
    ("offset_date_time", .offsetDateTime), ("zoned_date_time", .zonedDateTime),
    ("duration", .duration), ("uuid", .uuid)]

def Kind.names : List (String × Kind) :=
  [("struct", .record), ("enum", .enumeration), ("sealed_root", .sealedRoot)]

def Primitive.tag : Primitive → String
  | .string => "string"
  | .i32 => "i32"
  | .i64 => "i64"
  | .i16 => "i16"
  | .i8 => "i8"
  | .u32 => "u32"
  | .u16 => "u16"
  | .u8 => "u8"
  | .u64 => "u64"
  | .double => "double"
  | .float => "float"
  | .boolean => "boolean"
  | .char => "char"

def WellKnown.tag : WellKnown → String
  | .date => "date"
  | .time => "time"
  | .dateTime => "date_time"
  | .instant => "instant"
  | .offsetDateTime => "offset_date_time"
  | .zonedDateTime => "zoned_date_time"
  | .duration => "duration"
  | .uuid => "uuid"

def Kind.tag : Kind → String
  | .record => "struct"
  | .enumeration => "enum"
  | .sealedRoot => "sealed_root"

theorem Primitive.lookup_tag (p : Primitive) : Primitive.names.lookup p.tag = some p := by
  cases p <;> decide

theorem WellKnown.lookup_tag (w : WellKnown) : WellKnown.names.lookup w.tag = some w := by
  cases w <;> decide

theorem Kind.lookup_tag (k : Kind) : Kind.names.lookup k.tag = some k := by
  cases k <;> decide

def TypeRef.toDoc : TypeRef → Doc
  | .primitive p => .record [("primitive", .text p.tag)]
  | .list t => .record [("list", t.toDoc)]
  | .set t => .record [("set", t.toDoc)]
  | .map k v => .record [("map", .record [("key", k.toDoc), ("value", v.toDoc)])]
  | .named name => .record [("named", .text name)]
  | .wellKnown w => .record [("well_known", .text w.tag)]
  | .unresolved spelling => .record [("unresolved", .text spelling)]

def Annotation.toDoc (a : Annotation) : Doc :=
  .record [("qualified_name", .text a.qualifiedName),
    ("arguments", (Json.Value.object a.arguments).toDoc)]

def Field.toDoc (f : Field) : Doc :=
  .record [("name", .text f.name), ("ty", f.type.toDoc), ("nullable", .bool f.nullable),
    ("docs", .ofOption f.docs), ("annotations", .array (f.annotations.map Annotation.toDoc))]

def Entry.toDoc (e : Entry) : Doc :=
  .record [("name", .text e.name), ("docs", .ofOption e.docs),
    ("annotations", .array (e.annotations.map Annotation.toDoc))]

def Declaration.toDoc (d : Declaration) : Doc :=
  .record [("kind", .text d.kind.tag), ("qualified_name", .text d.qualifiedName),
    ("simple_name", .text d.simpleName), ("package", .ofOption d.package),
    ("source_unit", .ofOption d.sourceUnit), ("docs", .ofOption d.docs),
    ("fields", .array (d.fields.map Field.toDoc)), ("entries", .array (d.entries.map Entry.toDoc)),
    ("annotations", .array (d.annotations.map Annotation.toDoc)),
    ("supertypes", .array (d.supertypes.map Doc.text))]

def modelDoc (model : List Declaration) : Doc := .array (model.map Declaration.toDoc)

end Facsimile
