import Facsimile.Json.Record
import Facsimile.Model.Encode

/-!
# Models from JSON

A model is a list of declarations.  Declarations, fields, entries, annotations and the content of a
map are records, each given by its members.
-/

namespace Facsimile

open Json

namespace TypeRef

def tags : List String :=
  ["primitive", "list", "set", "map", "named", "well_known", "unresolved"]

def mapExpectation : String := "struct variant TypeRef::Map"

def mapSlots (decode : Doc → Decoded TypeRef) : List Slot :=
  [⟨"key", none, decode⟩, ⟨"value", none, decode⟩]

/-- A type is an object with one member, named after its form.  A form's name alone lacks its
content. -/
def decode (depth : Nat) : Doc → Decoded TypeRef
  | .string (some tag) =>
    if tag = "map" then .error (.invalidType .unitVariant "struct variant")
    else if tags.contains tag then .error (.invalidType .unitVariant "newtype variant")
    else .error (.unknownVariant tag tags)
  | .object ((some tag, content) :: rest) =>
    match depth with
    | 0 => .error .unreadable
    | depth + 1 => do
      let type ←
        match tag with
        | "primitive" => (decodeChoice Primitive.names depth content).map .primitive
        | "list" => (decode depth content).map .list
        | "set" => (decode depth content).map .set
        | "map" =>
          match depth, content with
          | 0, .object _ | 0, .array _ => .error .unreadable
          | 0, d => mismatch d mapExpectation
          | depth + 1, d => decodeContent mapExpectation (mapSlots fun d => decode depth d) map d
        | "named" => (decodeString content).map .named
        | "well_known" => (decodeChoice WellKnown.names depth content).map .wellKnown
        | "unresolved" => (decodeString content).map .unresolved
        | _ => .error (.unknownVariant tag tags)
      if rest.isEmpty then return type else .error .unreadable
  | _ => .error .unreadable

end TypeRef

namespace Annotation

def slots (depth : Nat) : List Slot :=
  [⟨"qualified_name", none, decodeString⟩, ⟨"arguments", some [], decodeMap depth⟩]

def decode : Nat → Doc → Decoded Annotation :=
  decodeRecord "struct Annotation" slots fun _ => mk

end Annotation

namespace Field

def slots (depth : Nat) : List Slot :=
  [⟨"name", none, decodeString⟩,
    ⟨"ty", none, TypeRef.decode depth⟩,
    ⟨"nullable", some false, decodeBool⟩,
    ⟨"docs", some none, decodeOption decodeString⟩,
    ⟨"annotations", some [], decodeList Annotation.decode depth⟩]

def decode : Nat → Doc → Decoded Field := decodeRecord "struct Field" slots fun _ => mk

end Field

namespace Entry

def slots (depth : Nat) : List Slot :=
  [⟨"name", none, decodeString⟩,
    ⟨"docs", some none, decodeOption decodeString⟩,
    ⟨"annotations", some [], decodeList Annotation.decode depth⟩]

def decode : Nat → Doc → Decoded Entry := decodeRecord "struct EnumEntry" slots fun _ => mk

end Entry

namespace Declaration

def slots (depth : Nat) : List Slot :=
  [⟨"kind", none, decodeChoice Kind.names depth⟩,
    ⟨"qualified_name", none, decodeString⟩,
    ⟨"simple_name", none, decodeString⟩,
    ⟨"package", some none, decodeOption decodeString⟩,
    ⟨"source_unit", some none, decodeOption decodeString⟩,
    ⟨"docs", some none, decodeOption decodeString⟩,
    ⟨"fields", some [], decodeList Field.decode depth⟩,
    ⟨"entries", some [], decodeList Entry.decode depth⟩,
    ⟨"annotations", some [], decodeList Annotation.decode depth⟩,
    ⟨"supertypes", some [], decodeList (fun _ => decodeString) depth⟩]

def decode : Nat → Doc → Decoded Declaration :=
  decodeRecord "struct Declaration" slots fun _ => mk

end Declaration

def decodeModel (d : Doc) : Decoded (List Declaration) :=
  decodeList Declaration.decode nestingLimit d

/-- The model that a text holds.  The text is read to its end before a part of it is decoded, so a
part that does not fit is named only in a text that is a document. -/
def readModel (text : String) : Decoded (List Declaration) :=
  match Doc.read? text with
  | none => .error .unreadable
  | some d => decodeModel d

end Facsimile
