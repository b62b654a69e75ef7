import Facsimile.Proofs.References
import Mathlib.Data.List.Infix

/-!
# Reserved words as identifiers

The escape puts a reserved word into the template and does not look at what comes out of it.  The
bare placeholder gives the word back, and four more templates complete one reserved word to another.
With every other template that is accepted no identifier is reserved (`reserved_identifiers_iff`).
-/

namespace Facsimile
namespace Naming

theorem substitute_of_no_placeholder (name : List Char) {template : List Char}
    (h : holdsPlaceholder template = false) : substitute name template = template := by
  fun_induction substitute name template with
  | case1 rest ih =>
    have hholds : holdsPlaceholder ('{' :: 'f' :: 'i' :: 'e' :: 'l' :: 'd' :: '}' :: rest) = true :=
      rfl
    rw [hholds] at h
    cases h
  | case2 c rest hno ih =>
    rw [holdsPlaceholder, Bool.or_eq_false_iff] at h
    rw [ih h.2]
  | case3 => rfl

/-- The reserved words, letter by letter. -/
def spelledWords : List (List Char) := reservedWords.map String.toList

theorem toList_mem_spelledWords {name : String} (h : isReserved name = true) :
    name.toList ∈ spelledWords :=
  List.mem_map.mpr ⟨name, List.contains_iff_mem.mp h, rfl⟩

end Naming

/-! ## The identifiers of a file -/

/-- The identifiers that a block defines: its own, and those of its members. -/
def Block.idents (b : Block) : List String := b.ident :: b.members.map (·.ident)

/-- The names that a block is written for, before they are escaped. -/
def Origin.convertedNames (o : Origin) : List String :=
  Naming.typeName o.declaration.simpleName ::
    match o with
    | .record d => d.fields.map fun f => Naming.fieldName f.name
    | .enumeration d => d.entries.map fun n => Naming.variantName n.name
    | .union h => h.children.map fun d => Naming.typeName d.simpleName

theorem Origin.idents_block (e : Emitter) (o : Origin) :
    (o.block e).idents = o.convertedNames.map (Naming.escapeReserved e.template) := by
  unfold Block.idents
  rw [ident_block]
  cases o with
  | record d =>
    show _ :: (d.fields.map e.field).map _ = _ :: (d.fields.map _).map _
    rw [List.map_map, List.map_map]
    rfl
  | enumeration d =>
    show _ :: (d.entries.map e.entry).map _ = _ :: (d.entries.map _).map _
    rw [List.map_map, List.map_map]
    rfl
  | union h =>
    show _ :: (h.children.map e.variant).map _ = _ :: (h.children.map _).map _
    rw [List.map_map, List.map_map]
    rfl

namespace Generator

/-- A record with a field whose name is reserved. -/
def typed : Declaration :=
  marked ((Declaration.record "m.Packet" [Field.plain "type" (.primitive .string)]).inUnit
    "Packet.kt")

end Generator
end Facsimile
