import Facsimile.Naming.FileName
import Facsimile.Pass.Piece
import Facsimile.Sorted

/-!
# Grouping by source unit

The source units of a model, each with its declarations in the order in which they are written, and
the check that no two units share a file.
-/

namespace Facsimile

/-- A source unit and the declarations in its file, in the order in which they are written. -/
structure Group where
  unit : String
  declarations : List Declaration

/-- Two source units, or the module index and a unit, with one file name. -/
structure Collision where
  fileName : String
  first : String
  second : String
  deriving DecidableEq, Repr

def Collision.message (c : Collision) : String :=
  "source units `" ++ c.first ++ "` and `" ++ c.second ++ "` both generate `" ++ c.fileName ++ "`"

def indexFileName : String := "mod.rs"

/-- How the module index is called where it collides with a unit. -/
def indexOwner : String := "<module index>"

def Declaration.nameLe (a b : Declaration) : Bool := decide (a.qualifiedName ≤ b.qualifiedName)

def Ordering.arrange (o : Ordering) (ds : List Declaration) : List Declaration :=
  match o with
  | .discovery => ds
  | .name => ds.mergeSort Declaration.nameLe

def declarationsOf (unit : String) (ds : List Declaration) : List Declaration :=
  ds.filter fun d => d.sourceUnit == some unit

theorem mem_declarationsOf {unit : String} {ds : List Declaration} {d : Declaration} :
    d ∈ declarationsOf unit ds ↔ d ∈ ds ∧ d.sourceUnit = some unit := by
  simp [declarationsOf]

/-- The source units in ascending order, each with its declarations. -/
def groups (o : Ordering) (ds : List Declaration) : List Group :=
  (Sorted.ofList (ds.filterMap (·.sourceUnit))).map fun unit =>
    ⟨unit, o.arrange (declarationsOf unit ds)⟩

/-- The first unit whose file name is owned already, by a name in `owners` or by a unit before it.
-/
def collision? (owners : List (String × String)) : List String → Option Collision
  | [] => none
  | unit :: units =>
    let name := Naming.fileName unit
    match owners.lookup name with
    | some first => some ⟨name, first, unit⟩
    | none => collision? ((name, unit) :: owners) units

def reservedFiles (modFile : Bool) : List (String × String) :=
  if modFile then [(indexFileName, indexOwner)] else []

end Facsimile
