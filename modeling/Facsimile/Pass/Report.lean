import Facsimile.Pass.Generator

/-!
# The report of a pass

The events of a pass in the order in which it meets them.  A pass that fails reports what came
before.
-/

namespace Facsimile
namespace Generator

def rootsWithoutUnit (g : Generator) (model : List Declaration) : List Event :=
  ((model.filter g.isEligible).filter fun d => !isPlaceable d).map fun d =>
    .rootWithoutUnit d.qualifiedName

def withoutUnit (ds : List Declaration) : List Event :=
  (ds.filter fun d => d.sourceUnit.isNone).map fun d => .declarationWithoutUnit d.qualifiedName

/-- What is met in writing a source unit. -/
def groupEvents (g : Generator) (hs : List Hierarchy) (group : Group) : List Event :=
  (pieces hs group).flatMap Piece.events ++
    if (g.blocks hs group).isEmpty then [.emptyUnit group.unit] else []

def hierarchyEvents (g : Generator) (ds : List Declaration) : List Event :=
  if (g.rawPathKeyword? ds).isSome then [] else Hierarchy.strayMembers ds

def groupingEvents (g : Generator) (ds : List Declaration) : List Event :=
  match g.hierarchies ds with
  | .ok hs => withoutUnit (standalone hs ds)
  | .error _ => []

def writingEvents (g : Generator) (ds : List Declaration) : List Event :=
  match g.layout ds with
  | .ok l => l.groups.flatMap (g.groupEvents l.hierarchies) ++ [.generated (g.files l).length]
  | .error _ => []

def report (g : Generator) (model : List Declaration) : List Event :=
  let ds := g.selected model
  g.rootsWithoutUnit model ++ [.selected ds.length model.length] ++ g.hierarchyEvents ds ++
    g.groupingEvents ds ++ g.writingEvents ds

end Generator
end Facsimile
