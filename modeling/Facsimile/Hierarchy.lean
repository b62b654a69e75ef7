import Facsimile.Event

/-!
# Sealed hierarchies

The records of a list of declarations that extend a sealed root of the list.  Supertypes name roots
by qualified name, and of several roots with one name they mean the last.  A declaration may extend
one root at most.
-/

namespace Facsimile

structure Hierarchy where
  root : Declaration
  children : List Declaration

structure SeveralParents where
  declaration : String
  parents : List String

def SeveralParents.message (e : SeveralParents) : String :=
  "`" ++ e.declaration ++ "` extends more than one sealed root (" ++
    ", ".intercalate e.parents ++ ")"

namespace Hierarchy

/-- The sealed roots that supertypes refer to: of those with one name the last. -/
def lastRoots : List Declaration → List Declaration
  | [] => []
  | d :: ds =>
    let roots := lastRoots ds
    if d.isSealedRoot && !roots.any (fun r => r.qualifiedName == d.qualifiedName) then d :: roots
    else roots

def parents (roots : List Declaration) (d : Declaration) : List Declaration :=
  roots.filter fun r => d.supertypes.contains r.qualifiedName

def hasSeveralParents (roots : List Declaration) (d : Declaration) : Bool :=
  decide (1 < (parents roots d).length)

/-- The records that name `root` as a supertype. -/
def childrenOf (root : String) (ds : List Declaration) : List Declaration :=
  ds.filter fun d => d.kind == .record && d.supertypes.contains root

theorem mem_childrenOf {root : String} {ds : List Declaration} {d : Declaration} :
    d ∈ childrenOf root ds ↔ d ∈ ds ∧ d.kind = .record ∧ root ∈ d.supertypes := by
  simp [childrenOf]

/-- A hierarchy for each sealed root of a list, with children from `all`.  A root with a later
namesake has none. -/
def ofRoots (all : List Declaration) : List Declaration → List Hierarchy
  | [] => []
  | d :: ds =>
    if d.isSealedRoot then
      let shadowed := ds.any fun e => e.isSealedRoot && e.qualifiedName == d.qualifiedName
      ⟨d, if shadowed then [] else childrenOf d.qualifiedName all⟩ :: ofRoots all ds
    else ofRoots all ds

theorem map_root_ofRoots (all ds : List Declaration) :
    (ofRoots all ds).map (·.root) = ds.filter Declaration.isSealedRoot := by
  induction ds with
  | nil => rfl
  | cons d ds ih =>
    unfold ofRoots
    by_cases h : d.isSealedRoot <;> simp [h, ih]

def collect (ds : List Declaration) : Except SeveralParents (List Hierarchy) :=
  let roots := lastRoots ds
  match ds.find? (hasSeveralParents roots) with
  | some d => .error ⟨d.qualifiedName, (parents roots d).map (·.qualifiedName)⟩
  | none => .ok (ofRoots ds ds)

theorem collect_eq_ok_iff {ds : List Declaration} {hs : List Hierarchy} :
    collect ds = .ok hs ↔
      (∀ d ∈ ds, hasSeveralParents (lastRoots ds) d = false) ∧ hs = ofRoots ds ds := by
  unfold collect
  simp only
  split
  · rename_i d hd
    have hmem := List.mem_of_find?_eq_some hd
    have hp := List.find?_some hd
    constructor
    · intro h
      cases h
    · intro h
      obtain ⟨h, -⟩ := h
      rw [h d hmem] at hp
      cases hp
  · rename_i hnone
    have h := List.find?_eq_none.mp hnone
    constructor
    · intro e
      refine ⟨fun d hd => by simpa using h d hd, ?_⟩
      cases e
      rfl
    · intro h
      obtain ⟨-, rfl⟩ := h
      rfl

/-- The declarations other than records that extend a root, up to the first that extends several. -/
def strayMembers (ds : List Declaration) : List Event :=
  let roots := lastRoots ds
  (ds.takeWhile fun d => !hasSeveralParents roots d).flatMap fun d =>
    if d.kind = .record then []
    else (parents roots d).map fun r => .strayMember d.qualifiedName r.qualifiedName

/-- The last hierarchy whose root has the qualified name of a declaration. -/
def get? (hs : List Hierarchy) (d : Declaration) : Option Hierarchy :=
  hs.reverse.find? fun h => h.root.qualifiedName == d.qualifiedName

/-- Whether a declaration is emitted with a sealed root. -/
def isVariant (hs : List Hierarchy) (d : Declaration) : Bool :=
  hs.any fun h => h.children.any fun c => c.qualifiedName == d.qualifiedName

end Hierarchy
end Facsimile
