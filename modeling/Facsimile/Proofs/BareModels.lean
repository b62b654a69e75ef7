import Facsimile.Proofs.Sheets

/-!
# Bare models

A declaration is made bare by removing its documentation and the arguments of its annotations.  What
a pass does to its model looks at neither: what it selects, refuses, groups and sorts it finds by
names, kinds, units and supertypes.  So each of its functions commutes with making bare, and a bare
model has the same sheets with bare pieces (`sheets_bare`).
-/

namespace Facsimile

def Annotation.bare (a : Annotation) : Annotation := { a with arguments := [] }

def Field.bare (f : Field) : Field :=
  { f with docs := none, annotations := f.annotations.map Annotation.bare }

def Entry.bare (n : Entry) : Entry :=
  { n with docs := none, annotations := n.annotations.map Annotation.bare }

/-- A declaration without documentation and without the arguments of its annotations. -/
def Declaration.bare (d : Declaration) : Declaration :=
  { d with
    docs := none
    fields := d.fields.map Field.bare
    entries := d.entries.map Entry.bare
    annotations := d.annotations.map Annotation.bare }

def Hierarchy.bare (h : Hierarchy) : Hierarchy := ⟨h.root.bare, h.children.map Declaration.bare⟩

def Group.bare (group : Group) : Group := ⟨group.unit, group.declarations.map Declaration.bare⟩

def Origin.bare : Origin → Origin
  | .record d => .record d.bare
  | .enumeration d => .enumeration d.bare
  | .union h => .union h.bare

def Piece.bare : Piece → Piece
  | .record d => .record d.bare
  | .enumeration d => .enumeration d.bare
  | .union h => .union h.bare
  | .empty root => .empty root.bare

def Sheet.bare (s : Sheet) : Sheet := ⟨s.unit, s.pieces.map Piece.bare⟩

/-- A filter that does not see a change commutes with it. -/
theorem filter_map_of_blind {α : Type} {p q : α → Bool} {change : α → α}
    (h : ∀ a, p (change a) = q a) (l : List α) :
    (l.map change).filter p = (l.filter q).map change := by
  rw [List.filter_map]
  congr 1
  exact List.filter_congr fun a _ => h a

theorem find?_map_of_blind {α : Type} {p q : α → Bool} {change : α → α}
    (h : ∀ a, p (change a) = q a) (l : List α) :
    (l.map change).find? p = (l.find? q).map change := by
  have hsame : p ∘ change = q := funext h
  rw [List.find?_map, hsame]

theorem any_map_of_blind {α : Type} {p q : α → Bool} {change : α → α}
    (h : ∀ a, p (change a) = q a) (l : List α) : (l.map change).any p = l.any q := by
  have hsame : p ∘ change = q := funext h
  rw [List.any_map, hsame]

/-! ## Hierarchies of bare declarations -/

namespace Hierarchy

theorem lastRoots_bare (ds : List Declaration) :
    lastRoots (ds.map Declaration.bare) = (lastRoots ds).map Declaration.bare := by
  induction ds with
  | nil => rfl
  | cons d ds ih =>
    have hnamesake : (lastRoots (ds.map Declaration.bare)).any
        (fun r => r.qualifiedName == d.bare.qualifiedName) =
          (lastRoots ds).any fun r => r.qualifiedName == d.qualifiedName := by
      rw [ih]
      exact any_map_of_blind (fun _ => rfl) _
    have hroot : d.bare.isSealedRoot = d.isSealedRoot := rfl
    rw [List.map_cons, lastRoots_cons, lastRoots_cons, hnamesake, hroot, ih]
    split
    · rfl
    · rfl

theorem parents_bare (roots : List Declaration) (d : Declaration) :
    parents (roots.map Declaration.bare) d.bare = (parents roots d).map Declaration.bare :=
  filter_map_of_blind (fun _ => rfl) roots

theorem hasSeveralParents_bare (roots : List Declaration) (d : Declaration) :
    hasSeveralParents (roots.map Declaration.bare) d.bare = hasSeveralParents roots d := by
  unfold hasSeveralParents
  rw [parents_bare, List.length_map]

theorem childrenOf_bare (root : String) (ds : List Declaration) :
    childrenOf root (ds.map Declaration.bare) = (childrenOf root ds).map Declaration.bare :=
  filter_map_of_blind (fun _ => rfl) ds

theorem ofRoots_bare (all ds : List Declaration) :
    ofRoots (all.map Declaration.bare) (ds.map Declaration.bare) =
      (ofRoots all ds).map Hierarchy.bare := by
  induction ds with
  | nil => rfl
  | cons d ds ih =>
    have hshadowed : (ds.map Declaration.bare).any
        (fun e => e.isSealedRoot && e.qualifiedName == d.bare.qualifiedName) =
          ds.any fun e => e.isSealedRoot && e.qualifiedName == d.qualifiedName :=
      any_map_of_blind (fun _ => rfl) ds
    have hroot : d.bare.isSealedRoot = d.isSealedRoot := rfl
    rw [List.map_cons]
    unfold ofRoots
    rw [hshadowed, hroot, ih, childrenOf_bare]
    by_cases h : d.isSealedRoot
    · have hchildren : ∀ shadowed : Bool,
          (if shadowed then [] else (childrenOf d.qualifiedName all).map Declaration.bare) =
            (if shadowed then [] else childrenOf d.qualifiedName all).map Declaration.bare := by
        intro shadowed
        cases shadowed with
        | true => rfl
        | false => rfl
      rw [if_pos h, if_pos h, List.map_cons]
      exact congrArg (fun children => Hierarchy.mk d.bare children :: _) (hchildren _)
    · rw [if_neg h, if_neg h]

theorem get?_bare (hs : List Hierarchy) (d : Declaration) :
    get? (hs.map Hierarchy.bare) d.bare = (get? hs d).map Hierarchy.bare := by
  unfold get?
  rw [← List.map_reverse]
  exact find?_map_of_blind (fun _ => rfl) hs.reverse

theorem isVariant_bare (hs : List Hierarchy) (d : Declaration) :
    isVariant (hs.map Hierarchy.bare) d.bare = isVariant hs d := by
  unfold isVariant
  refine any_map_of_blind (fun h => ?_) hs
  exact any_map_of_blind (fun _ => rfl) h.children

end Hierarchy

/-! ## Groups of bare declarations -/

theorem arrange_bare (o : Ordering) (ds : List Declaration) :
    o.arrange (ds.map Declaration.bare) = (o.arrange ds).map Declaration.bare := by
  cases o with
  | discovery => rfl
  | name =>
    have hsort := List.map_mergeSort (f := Declaration.bare) (r := Declaration.nameLe)
      (s := Declaration.nameLe) (l := ds) fun a _ b _ => rfl
    exact hsort.symm

theorem groups_bare (o : Ordering) (ds : List Declaration) :
    groups o (ds.map Declaration.bare) = (groups o ds).map Group.bare := by
  have hunits : (ds.map Declaration.bare).filterMap (·.sourceUnit) =
      ds.filterMap (·.sourceUnit) := by
    rw [List.filterMap_map]
    rfl
  unfold groups
  rw [hunits, List.map_map]
  refine List.map_congr_left fun unit _ => ?_
  have hunit : declarationsOf unit (ds.map Declaration.bare) =
      (declarationsOf unit ds).map Declaration.bare :=
    filter_map_of_blind (fun _ => rfl) ds
  rw [hunit, arrange_bare]
  rfl

/-! ## Sheets of bare declarations -/

theorem Piece.ofDeclaration_bare (hs : List Hierarchy) (d : Declaration) :
    Piece.ofDeclaration (hs.map Hierarchy.bare) d.bare = (Piece.ofDeclaration hs d).bare := by
  unfold ofDeclaration
  have hkind : d.bare.kind = d.kind := rfl
  rw [hkind, Hierarchy.get?_bare]
  cases d.kind with
  | record => rfl
  | enumeration => rfl
  | sealedRoot =>
    cases Hierarchy.get? hs d with
    | none => rfl
    | some h =>
      show (if (h.children.map Declaration.bare).isEmpty then _ else _) = _
      rw [List.isEmpty_map]
      simp only
      split
      · rfl
      · rfl

theorem Piece.origins_bare (p : Piece) : p.bare.origins = p.origins.map Origin.bare := by
  cases p with
  | record d => rfl
  | enumeration d => rfl
  | empty root => rfl
  | union h =>
    show (if (h.children.map Declaration.bare).isEmpty then [] else
      Origin.union h.bare :: (h.children.map Declaration.bare).map Origin.record) = _
    rw [List.isEmpty_map, List.map_map]
    unfold origins
    rw [apply_ite (List.map Origin.bare), List.map_cons, List.map_map]
    rfl

theorem Sheet.origins_bare (s : Sheet) : s.bare.origins = s.origins.map Origin.bare := by
  unfold origins
  rw [List.map_flatMap]
  show (s.pieces.map Piece.bare).flatMap Piece.origins = _
  rw [List.flatMap_map]
  exact List.flatMap_congr fun p _ => p.origins_bare

theorem Group.sheet_bare (hs : List Hierarchy) (group : Group) :
    group.bare.sheet (hs.map Hierarchy.bare) = (group.sheet hs).bare := by
  show Sheet.mk group.unit ((group.declarations.map Declaration.bare).map _) =
    Sheet.mk group.unit ((group.declarations.map _).map _)
  rw [List.map_map, List.map_map]
  congr 1
  exact List.map_congr_left fun d _ => Piece.ofDeclaration_bare hs d

namespace Generator

theorem selected_bare (g : Generator) (model : List Declaration) :
    g.selected (model.map Declaration.bare) = (g.selected model).map Declaration.bare := by
  have heligible : ∀ d : Declaration, g.isEligible d.bare = g.isEligible d := by
    intro d
    unfold isEligible
    congr 1
    exact any_map_of_blind (fun _ => rfl) d.annotations
  unfold selected
  rw [filter_map_of_blind heligible]
  exact filter_map_of_blind (fun _ => rfl) _

theorem convertedNames_bare (d : Declaration) : d.bare.convertedNames = d.convertedNames := by
  show _ :: ((d.fields.map Field.bare).map _ ++ (d.entries.map Entry.bare).map _) = _
  rw [List.map_map, List.map_map]
  rfl

theorem rawPathKeyword?_bare (g : Generator) (ds : List Declaration) :
    g.rawPathKeyword? (ds.map Declaration.bare) = g.rawPathKeyword? ds := by
  unfold rawPathKeyword?
  rw [List.flatMap_map, List.flatMap_congr fun d _ => convertedNames_bare d]

def Layout.bare (l : Layout) : Layout := ⟨l.hierarchies.map Hierarchy.bare, l.groups.map Group.bare⟩

theorem planned_bare (o : Ordering) (ds : List Declaration) :
    planned o (ds.map Declaration.bare) = (planned o ds).bare := by
  have hstandalone : standalone ((Hierarchy.ofRoots ds ds).map Hierarchy.bare)
      (ds.map Declaration.bare) =
        (standalone (Hierarchy.ofRoots ds ds) ds).map Declaration.bare := by
    refine filter_map_of_blind (fun d => ?_) ds
    rw [Hierarchy.isVariant_bare]
  unfold planned
  simp only
  rw [Hierarchy.ofRoots_bare, hstandalone, groups_bare]
  rfl

theorem layout_bare (g : Generator) (ds : List Declaration) :
    g.layout (ds.map Declaration.bare) = (g.layout ds).map Layout.bare := by
  have hseveral : (ds.map Declaration.bare).find?
      (Hierarchy.hasSeveralParents ((Hierarchy.lastRoots ds).map Declaration.bare)) =
        (ds.find? (Hierarchy.hasSeveralParents (Hierarchy.lastRoots ds))).map Declaration.bare :=
    find?_map_of_blind (Hierarchy.hasSeveralParents_bare _) ds
  have hunits : (planned g.config.ordering ds).bare.groups.map (·.unit) =
      (planned g.config.ordering ds).groups.map (·.unit) := by
    show ((planned g.config.ordering ds).groups.map Group.bare).map _ = _
    rw [List.map_map]
    rfl
  rw [layout_eq, layout_eq, rawPathKeyword?_bare, Hierarchy.lastRoots_bare, hseveral, planned_bare,
    hunits]
  cases g.rawPathKeyword? ds with
  | some keyword => rfl
  | none =>
    cases ds.find? (Hierarchy.hasSeveralParents (Hierarchy.lastRoots ds)) with
    | some d =>
      simp only [Option.map_some, Hierarchy.parents_bare, List.map_map]
      rfl
    | none =>
      cases collision? (reservedFiles g.config.modFile)
          ((planned g.config.ordering ds).groups.map (·.unit)) with
      | some c => rfl
      | none => rfl

theorem Layout.sheets_bare (l : Layout) : l.bare.sheets = l.sheets.map Sheet.bare := by
  have hsheets : (l.groups.map Group.bare).map (Group.sheet (l.hierarchies.map Hierarchy.bare)) =
      (l.groups.map (Group.sheet l.hierarchies)).map Sheet.bare := by
    rw [List.map_map, List.map_map]
    exact List.map_congr_left fun group _ => Group.sheet_bare l.hierarchies group
  show ((l.groups.map Group.bare).map (Group.sheet (l.hierarchies.map Hierarchy.bare))).filter _ = _
  rw [hsheets]
  refine filter_map_of_blind (fun s => ?_) _
  rw [Sheet.origins_bare, List.isEmpty_map]

/-- A bare model has the same errors, and else the same sheets with bare pieces. -/
theorem sheets_bare (g : Generator) (model : List Declaration) :
    g.sheets (model.map Declaration.bare) = (g.sheets model).map (List.map Sheet.bare) := by
  unfold sheets
  rw [selected_bare, layout_bare]
  cases g.layout (g.selected model) with
  | error e => rfl
  | ok l => exact congrArg Except.ok l.sheets_bare

end Generator
end Facsimile
