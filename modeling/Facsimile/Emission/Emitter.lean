import Facsimile.Emission.Block
import Facsimile.Hierarchy
import Facsimile.Naming.Convert
import Facsimile.Naming.Reserved
import Facsimile.Resolver
import Facsimile.Text.Blank

/-!
# Blocks from declarations

How a declaration is written: identifiers are converted and escaped, and a member whose identifier
is not its name on the wire is renamed.
-/

namespace Facsimile

structure Emitter where
  resolver : Resolver
  template : String

namespace Emitter

/-- Type names and the variants of unions share one identifier. -/
def typeIdent (e : Emitter) (name : String) : String :=
  Naming.escapeReserved e.template (Naming.typeName name)

def fieldIdent (e : Emitter) (name : String) : String :=
  Naming.escapeReserved e.template (Naming.fieldName name)

def entryIdent (e : Emitter) (name : String) : String :=
  Naming.escapeReserved e.template (Naming.variantName name)

def docs (text : Option String) : List String := text.elim [] Text.docLines

def attributes (e : Emitter) (ident name : String) (annotations : List Annotation)
    (skipAbsent : Bool) : Attributes :=
  let wire := e.resolver.wireName annotations name
  ⟨if Naming.unraw ident = wire then none else some wire, skipAbsent⟩

def field (e : Emitter) (f : Field) : Member :=
  let ident := e.fieldIdent f.name
  let type := fieldTypeText f.type f.nullable
  ⟨docs f.docs, e.attributes ident f.name f.annotations (isOptional type), ident, .field type⟩

def entry (e : Emitter) (n : Entry) : Member :=
  let ident := e.entryIdent n.name
  ⟨docs n.docs, e.attributes ident n.name n.annotations false, ident, .entry⟩

def variant (e : Emitter) (d : Declaration) : Member :=
  let ident := e.typeIdent d.simpleName
  ⟨[], e.attributes ident d.simpleName d.annotations false, ident, .variant⟩

def record (e : Emitter) (d : Declaration) : Block :=
  ⟨docs d.docs, .record, e.typeIdent d.simpleName, d.fields.map e.field⟩

def enumeration (e : Emitter) (d : Declaration) : Block :=
  ⟨docs d.docs, .enumeration, e.typeIdent d.simpleName, d.entries.map e.entry⟩

def unionHead (e : Emitter) (h : Hierarchy) : Block :=
  ⟨docs h.root.docs, .union (e.resolver.discriminatorKey h.root), e.typeIdent h.root.simpleName,
    h.children.map e.variant⟩

/-- The union of a hierarchy followed by the records of its children.  A root without children gives
nothing. -/
def union (e : Emitter) (h : Hierarchy) : List Block :=
  if h.children.isEmpty then [] else e.unionHead h :: h.children.map e.record

end Emitter
end Facsimile
