import Facsimile.Json.Value
import Facsimile.Text.Split

/-!
# The declaration model

Declarations as they were found in the source: records, enumerations, and the roots of closed
hierarchies, with the annotations that steer their generated form.
-/

namespace Facsimile

inductive Primitive where
  | string | i32 | i64 | i16 | i8 | u32 | u16 | u8 | u64 | double | float | boolean | char
  deriving DecidableEq, Repr

/-- Types whose values travel in one canonical text form. -/
inductive WellKnown where
  | date | time | dateTime | instant | offsetDateTime | zonedDateTime | duration | uuid
  deriving DecidableEq, Repr

inductive TypeRef where
  | primitive (p : Primitive)
  | list (element : TypeRef)
  | set (element : TypeRef)
  | map (key value : TypeRef)
  /-- A declaration, by its simple name. -/
  | named (name : String)
  | wellKnown (w : WellKnown)
  /-- A type that was not found, with its spelling in the source. -/
  | unresolved (spelling : String)
  deriving DecidableEq, Repr

structure Annotation where
  qualifiedName : String
  /-- Arguments by name, in ascending order of names. -/
  arguments : List (String × Json.Value)

structure Field where
  name : String
  type : TypeRef
  nullable : Bool
  docs : Option String
  annotations : List Annotation

structure Entry where
  name : String
  docs : Option String
  annotations : List Annotation

inductive Kind where
  | record
  | enumeration
  /-- The root of a hierarchy whose members are all known. -/
  | sealedRoot
  deriving DecidableEq, Repr

structure Declaration where
  kind : Kind
  qualifiedName : String
  simpleName : String
  package : Option String
  sourceUnit : Option String
  docs : Option String
  fields : List Field
  entries : List Entry
  annotations : List Annotation
  /-- Qualified names of the declared supertypes. -/
  supertypes : List String

namespace Annotation

def marker (qualifiedName : String) : Annotation := ⟨qualifiedName, []⟩

def withArgument (a : Annotation) (name : String) (v : Json.Value) : Annotation :=
  { a with arguments := Sorted.put name v a.arguments }

def textArgument? (a : Annotation) (name : String) : Option String :=
  (a.arguments.lookup name).bind Json.Value.text?

end Annotation

namespace Field

def plain (name : String) (type : TypeRef) : Field := ⟨name, type, false, none, []⟩

def optional (name : String) (type : TypeRef) : Field := { plain name type with nullable := true }

def withDocs (f : Field) (docs : String) : Field := { f with docs := some docs }

def annotatedWith (f : Field) (a : Annotation) : Field :=
  { f with annotations := f.annotations ++ [a] }

end Field

namespace Entry

def plain (name : String) : Entry := ⟨name, none, []⟩

def annotatedWith (e : Entry) (a : Annotation) : Entry :=
  { e with annotations := e.annotations ++ [a] }

end Entry

namespace Declaration

/-- A declaration whose package and simple name are what its qualified name has before and after the
last dot. -/
def ofName (kind : Kind) (qualifiedName : String) : Declaration :=
  let names :=
    match Text.splitLast? '.' qualifiedName.toList with
    | some (package, simple) => (some (String.ofList package), String.ofList simple)
    | none => (none, qualifiedName)
  { kind, qualifiedName, simpleName := names.2, package := names.1, sourceUnit := none,
    docs := none, fields := [], entries := [], annotations := [], supertypes := [] }

def record (qualifiedName : String) (fields : List Field) : Declaration :=
  { ofName .record qualifiedName with fields }

def enumeration (qualifiedName : String) (entries : List Entry) : Declaration :=
  { ofName .enumeration qualifiedName with entries }

def sealedRoot (qualifiedName : String) : Declaration := ofName .sealedRoot qualifiedName

def inUnit (d : Declaration) (unit : String) : Declaration := { d with sourceUnit := some unit }

def withDocs (d : Declaration) (docs : String) : Declaration := { d with docs := some docs }

def annotatedWith (d : Declaration) (a : Annotation) : Declaration :=
  { d with annotations := d.annotations ++ [a] }

def extending (d : Declaration) (supertype : String) : Declaration :=
  { d with supertypes := d.supertypes ++ [supertype] }

def isSealedRoot (d : Declaration) : Bool := d.kind == .sealedRoot

end Declaration
end Facsimile
