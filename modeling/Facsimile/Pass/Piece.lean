import Facsimile.Emission.Emitter

/-!
# Pieces

What one declaration gives to the file of its source unit: a block, the blocks of a whole hierarchy,
or nothing.
-/

namespace Facsimile

inductive Piece where
  | record (d : Declaration)
  | enumeration (d : Declaration)
  | union (h : Hierarchy)
  | empty (root : Declaration)

namespace Piece

/-- The piece of a declaration that stands on its own. -/
def ofDeclaration (hs : List Hierarchy) (d : Declaration) : Piece :=
  match d.kind with
  | .record => .record d
  | .enumeration => .enumeration d
  | .sealedRoot =>
    match Hierarchy.get? hs d with
    | some h => if h.children.isEmpty then .empty d else .union h
    | none => .empty d

def blocks (e : Emitter) : Piece → List Block
  | .record d => [e.record d]
  | .enumeration d => [e.enumeration d]
  | .union h => e.union h
  | .empty _ => []

def records : Piece → List Declaration
  | .record d => [d]
  | .union h => h.children
  | .enumeration _ | .empty _ => []

/-- The types that were not found, in the order in which the piece writes them. -/
def unresolvedSpellings (p : Piece) : List String :=
  p.records.flatMap fun d => d.fields.flatMap fun f => f.type.unresolvedSpellings

def events : Piece → List Event
  | .empty root => [.emptyHierarchy root.qualifiedName]
  | p => p.unresolvedSpellings.map .unresolvedType

end Piece
end Facsimile
