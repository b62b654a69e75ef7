import Facsimile.Pass.Report
import Facsimile.Proofs.Grouping
import Facsimile.Proofs.Hierarchies
import Mathlib.Data.List.Forall2

/-!
# The files of a pass as sheets

A sheet is what a file is made of before it becomes text: a source unit and its pieces, and so the
blocks that stand in the file, each with the declaration that it is written for.  A pass that
succeeds has sheets, and its files are these sheets written out, with the index behind them.
-/

namespace Facsimile

inductive Origin where
  | record (d : Declaration)
  | enumeration (d : Declaration)
  /-- The union of a hierarchy, without the records of the children. -/
  | union (h : Hierarchy)

namespace Origin

def block (e : Emitter) : Origin → Block
  | .record d => e.record d
  | .enumeration d => e.enumeration d
  | .union h => e.unionHead h

def declaration : Origin → Declaration
  | .record d | .enumeration d => d
  | .union h => h.root

/-- The declarations that a block is to have variants for. -/
def children : Origin → List Declaration
  | .record _ | .enumeration _ => []
  | .union h => h.children

end Origin

namespace Piece

def origins : Piece → List Origin
  | .record d => [.record d]
  | .enumeration d => [.enumeration d]
  | .union h => if h.children.isEmpty then [] else .union h :: h.children.map .record
  | .empty _ => []

theorem blocks_eq_map (e : Emitter) (p : Piece) : p.blocks e = p.origins.map (Origin.block e) := by
  cases p with
  | record d => rfl
  | enumeration d => rfl
  | empty root => rfl
  | union h =>
    simp only [blocks, origins, Emitter.union]
    split
    · rfl
    · rw [List.map_cons, List.map_map]
      rfl

end Piece

structure Sheet where
  unit : String
  pieces : List Piece

namespace Sheet

def origins (s : Sheet) : List Origin := s.pieces.flatMap Piece.origins

/-- Each block stands behind an empty line. -/
def content (e : Emitter) (s : Sheet) : String :=
  Draft.header s.unit ++ String.join (s.origins.map fun o => "\n" ++ (o.block e).text)

def file (e : Emitter) (s : Sheet) : File := ⟨Naming.fileName s.unit, some s.unit, s.content e⟩

end Sheet

theorem header_ne_empty (unit : String) : Draft.header unit ≠ "" := by
  unfold Draft.header
  intro h
  have hlast := (String.append_eq_empty_iff.mp h).2
  revert hlast
  decide

theorem text_addBlocks {d : Draft} (h : d.text ≠ "") (bs : List Block) :
    (d.addBlocks bs).text = d.text ++ String.join (bs.map fun b => "\n" ++ b.text) := by
  induction bs generalizing d with
  | nil => simp [Draft.addBlocks]
  | cons b bs ih =>
    have hstep : (d.addBlock b).text = d.text ++ ("\n" ++ b.text) := by
      simp [Draft.addBlock, h, String.append_assoc]
    have hne : (d.addBlock b).text ≠ "" := by
      rw [hstep]
      intro hnil
      exact h (String.append_eq_empty_iff.mp hnil).1
    have hrest := ih hne
    rw [hstep] at hrest
    simpa [Draft.addBlocks, String.append_assoc] using hrest

def Group.sheet (hs : List Hierarchy) (group : Group) : Sheet :=
  ⟨group.unit, Generator.pieces hs group⟩

namespace Generator

/-- The sheets of a layout: a unit without blocks has none. -/
def Layout.sheets (l : Layout) : List Sheet :=
  (l.groups.map (Group.sheet l.hierarchies)).filter fun s => !s.origins.isEmpty

def sheets (g : Generator) (model : List Declaration) : Except PassError (List Sheet) :=
  (g.layout (g.selected model)).map Layout.sheets

theorem blocks_eq_map (g : Generator) (hs : List Hierarchy) (group : Group) :
    g.blocks hs group =
      (group.sheet hs).origins.map (Origin.block g.emitter) := by
  simp only [blocks, Group.sheet, Sheet.origins, List.map_flatMap]
  exact List.flatMap_congr fun p _ => Piece.blocks_eq_map g.emitter p

theorem file?_eq (g : Generator) (hs : List Hierarchy) (group : Group) :
    g.file? hs group =
      if (group.sheet hs).origins.isEmpty then none
      else some ((group.sheet hs).file g.emitter) := by
  have htext : (Draft.empty.addHeader group.unit).text = Draft.header group.unit := by
    simp [Draft.empty, Draft.addHeader]
  have hne : (Draft.empty.addHeader group.unit).text ≠ "" := by
    rw [htext]
    exact header_ne_empty group.unit
  simp only [file?, blocks_eq_map, List.isEmpty_map]
  split
  · rfl
  · rw [text_addBlocks hne, htext, List.map_map]
    rfl

theorem files_eq (g : Generator) (l : Layout) :
    g.files l = withIndex g.config.modFile (l.sheets.map (Sheet.file g.emitter)) := by
  unfold files
  congr 1
  unfold unitFiles Layout.sheets
  induction l.groups with
  | nil => rfl
  | cons group rest ih =>
    rw [List.filterMap_cons, file?_eq, List.map_cons, List.filter_cons]
    split
    · rename_i hnone
      split at hnone
      · rename_i hempty
        rw [ih]
        simp [hempty]
      · cases hnone
    · rename_i f hsome
      split at hsome
      · cases hsome
      · rename_i hempty
        rw [ih]
        simp only [Bool.not_eq_true] at hempty
        simp [hempty, Option.some.inj hsome]

theorem generate_eq (g : Generator) (model : List Declaration) :
    g.generate model =
      (g.sheets model).map fun ss =>
        withIndex g.config.modFile (ss.map (Sheet.file g.emitter)) := by
  unfold generate sheets
  cases g.layout (g.selected model) with
  | error e => rfl
  | ok l => exact congrArg Except.ok (files_eq g l)

theorem generate_eq_ok_iff {g : Generator} {model : List Declaration} {files : List File} :
    g.generate model = .ok files ↔
      ∃ ss, g.sheets model = .ok ss ∧
        files = withIndex g.config.modFile (ss.map (Sheet.file g.emitter)) := by
  rw [generate_eq]
  cases g.sheets model with
  | error e => simp [Except.map]
  | ok ss =>
    constructor
    · intro h
      exact ⟨ss, rfl, (Except.ok.inj h).symm⟩
    · intro h
      obtain ⟨ts, hts, rfl⟩ := h
      obtain rfl := Except.ok.inj hts
      rfl

/-! ## When there is a layout -/

/-- The layout of declarations that nothing is wrong with. -/
def planned (o : Ordering) (ds : List Declaration) : Layout :=
  let hs := Hierarchy.ofRoots ds ds
  ⟨hs, groups o (standalone hs ds)⟩

theorem layout_eq (g : Generator) (ds : List Declaration) :
    g.layout ds =
      match g.rawPathKeyword? ds with
      | some keyword => .error (.rawPathKeyword keyword)
      | none =>
        match ds.find? (Hierarchy.hasSeveralParents (Hierarchy.lastRoots ds)) with
        | some d =>
          .error (.severalParents ⟨d.qualifiedName,
            (Hierarchy.parents (Hierarchy.lastRoots ds) d).map (·.qualifiedName)⟩)
        | none =>
          match collision? (reservedFiles g.config.modFile)
              ((planned g.config.ordering ds).groups.map (·.unit)) with
          | some c => .error (.collision c)
          | none => .ok (planned g.config.ordering ds) := by
  unfold layout hierarchies Hierarchy.collect
  cases g.rawPathKeyword? ds with
  | some keyword => rfl
  | none =>
    simp only
    cases ds.find? (Hierarchy.hasSeveralParents (Hierarchy.lastRoots ds)) with
    | some d => rfl
    | none =>
      simp only [Except.mapError, bind, Except.bind, planned]
      cases collision? (reservedFiles g.config.modFile) ((groups g.config.ordering
          (standalone (Hierarchy.ofRoots ds ds) ds)).map (·.unit)) with
      | some c => rfl
      | none => rfl

theorem layout_eq_ok_iff {g : Generator} {ds : List Declaration} {l : Layout} :
    g.layout ds = .ok l ↔
      g.rawPathKeyword? ds = none ∧ (∀ d ∈ ds, ¬ExtendsSeveral ds d) ∧
        collision? (reservedFiles g.config.modFile)
          ((planned g.config.ordering ds).groups.map (·.unit)) = none ∧
        l = planned g.config.ordering ds := by
  have hfind : ds.find? (Hierarchy.hasSeveralParents (Hierarchy.lastRoots ds)) = none ↔
      ∀ d ∈ ds, ¬ExtendsSeveral ds d := by
    rw [List.find?_eq_none]
    exact forall₂_congr fun d _ => not_congr Hierarchy.hasSeveralParents_iff
  rw [layout_eq, ← hfind]
  cases g.rawPathKeyword? ds with
  | some keyword => simp
  | none =>
    cases ds.find? (Hierarchy.hasSeveralParents (Hierarchy.lastRoots ds)) with
    | some d => simp
    | none =>
      cases collision? (reservedFiles g.config.modFile)
        ((planned g.config.ordering ds).groups.map (·.unit)) with
      | some c => simp
      | none => simp [eq_comm]

/-- A pass that has sheets has those of its planned layout. -/
theorem sheets_eq_ok_iff {g : Generator} {model : List Declaration} {ss : List Sheet} :
    g.sheets model = .ok ss ↔
      g.layout (g.selected model) = .ok (planned g.config.ordering (g.selected model)) ∧
        ss = (planned g.config.ordering (g.selected model)).sheets := by
  unfold sheets
  cases hl : g.layout (g.selected model) with
  | error e => simp [Except.map]
  | ok l =>
    obtain ⟨-, -, -, rfl⟩ := layout_eq_ok_iff.mp hl
    simp [Except.map, eq_comm]

/-- The order of declarations has no part in whether there is a layout. -/
theorem layout_congr {g g' : Generator}
    (ht : g'.config.escapeTemplate = g.config.escapeTemplate)
    (hm : g'.config.modFile = g.config.modFile) (ds : List Declaration) :
    g'.layout ds = (g.layout ds).map fun _ => planned g'.config.ordering ds := by
  have hunits : (planned g'.config.ordering ds).groups.map (·.unit) =
      (planned g.config.ordering ds).groups.map (·.unit) := by
    unfold planned
    rw [map_unit_groups, map_unit_groups]
  have hname : g'.rawPathKeyword? ds = g.rawPathKeyword? ds := by
    unfold rawPathKeyword?
    rw [ht]
  rw [layout_eq, layout_eq, hname, hm, hunits]
  cases g.rawPathKeyword? ds with
  | some keyword => rfl
  | none =>
    cases ds.find? (Hierarchy.hasSeveralParents (Hierarchy.lastRoots ds)) with
    | some d => rfl
    | none =>
      cases collision? (reservedFiles g.config.modFile)
        ((planned g.config.ordering ds).groups.map (·.unit)) with
      | some c => rfl
      | none => rfl

theorem rawPathKeyword?_eq_none_iff {g : Generator} {ds : List Declaration} :
    g.rawPathKeyword? ds = none ↔
      (g.config.escapeTemplate = Naming.rawTemplate →
        ∀ name ∈ ds.flatMap Declaration.convertedNames, name ∉ Naming.pathKeywords) := by
  unfold rawPathKeyword? Naming.isRawTemplate
  by_cases h : g.config.escapeTemplate = Naming.rawTemplate
  · rw [if_pos (by simpa using h), List.find?_eq_none]
    simp [h]
  · rw [if_neg (by simpa using h)]
    simp [h]

theorem mem_standalone_iff {ds : List Declaration} {d : Declaration} :
    d ∈ standalone (Hierarchy.ofRoots ds ds) ds ↔ d ∈ ds ∧ ¬NamesVariant ds d := by
  unfold standalone
  rw [List.mem_filter, Bool.not_eq_true', ← Bool.not_eq_true, Hierarchy.isVariant_iff]

theorem mem_standalone {ds : List Declaration} (hd : NamesDistinct ds) {d : Declaration} :
    d ∈ standalone (Hierarchy.ofRoots ds ds) ds ↔
      d ∈ ds ∧ (d.kind = .record →
        ∀ r ∈ ds, r.kind = .sealedRoot → r.qualifiedName ∉ d.supertypes) := by
  rw [mem_standalone_iff]
  refine and_congr_right fun hmem => ?_
  rw [← Hierarchy.isVariant_iff, Hierarchy.isVariant_of_distinct hd hmem]
  push Not
  exact Iff.rfl

/-- A root that has a source unit stands in a group. -/
theorem exists_group_of_root (o : Ordering) {ds : List Declaration} (hd : NamesDistinct ds)
    {r : Declaration} (hr : r ∈ ds) (hk : r.kind = .sealedRoot) (hu : r.sourceUnit ≠ none) :
    ∃ group ∈ (planned o ds).groups, r ∈ group.declarations := by
  have hstand : r ∈ standalone (Hierarchy.ofRoots ds ds) ds := by
    refine (mem_standalone hd).mpr ⟨hr, ?_⟩
    intro hrecord
    rw [hk] at hrecord
    cases hrecord
  have hgrouped := (flatMap_groups_perm o _).mem_iff.mpr
    (List.mem_filter.mpr ⟨hstand, Option.isSome_iff_ne_none.mpr hu⟩)
  exact List.mem_flatMap.mp hgrouped

theorem ofDeclaration_root {ds : List Declaration} (hd : NamesDistinct ds) {r : Declaration}
    (hr : r ∈ ds) (hk : r.kind = .sealedRoot) :
    Piece.ofDeclaration (Hierarchy.ofRoots ds ds) r =
      if (Hierarchy.childrenOf r.qualifiedName ds).isEmpty then .empty r
      else .union ⟨r, Hierarchy.childrenOf r.qualifiedName ds⟩ := by
  unfold Piece.ofDeclaration
  rw [hk, Hierarchy.get?_of_distinct hd hr hk]

/-! ## Sheets by unit -/

/-- The declarations of a pass that stand on their own. -/
def alone (ds : List Declaration) : List Declaration := standalone (Hierarchy.ofRoots ds ds) ds

/-- What a declaration that stands on its own gives to the file of its unit. -/
def pieceOf (ds : List Declaration) (d : Declaration) : Piece :=
  Piece.ofDeclaration (Hierarchy.ofRoots ds ds) d

/-- The declarations of a unit in the order in which they are written. -/
def arranged (o : Ordering) (ds : List Declaration) (unit : String) : List Declaration :=
  o.arrange (declarationsOf unit (alone ds))

/-- The sheet of a unit, which may be without blocks. -/
def unitSheet (o : Ordering) (ds : List Declaration) (unit : String) : Sheet :=
  ⟨unit, (arranged o ds unit).map (pieceOf ds)⟩

def units (ds : List Declaration) : List String :=
  Sorted.ofList ((alone ds).filterMap (·.sourceUnit))

theorem mem_arranged {o : Ordering} {ds : List Declaration} {unit : String} {e : Declaration}
    (h : e ∈ arranged o ds unit) : e ∈ ds ∧ e.sourceUnit = some unit := by
  obtain ⟨hmem, hunit⟩ := mem_declarationsOf.mp ((arrange_perm o _).mem_iff.mp h)
  exact ⟨List.mem_of_mem_filter hmem, hunit⟩

theorem ascending_units (ds : List Declaration) : Sorted.Ascending (units ds) :=
  Sorted.ascending_ofList _

theorem sheets_eq_unitSheets (o : Ordering) (ds : List Declaration) :
    (planned o ds).sheets =
      ((units ds).map (unitSheet o ds)).filter fun s => !s.origins.isEmpty := by
  show (((units ds).map _).map _).filter _ = _
  rw [List.map_map]
  rfl

/-! ## The index -/

/-- The index is made of the names of files alone, so it keeps what files of equal names have in
common. -/
theorem forall₂_withIndex {R : File → File → Prop} (hname : ∀ f f', R f f' → f.name = f'.name)
    (hindex : ∀ f : File, f.unit = none → R f f) (modFile : Bool) {fs fs' : List File}
    (h : List.Forall₂ R fs fs') :
    List.Forall₂ R (withIndex modFile fs) (withIndex modFile fs') := by
  have hsame : index fs = index fs' := by
    have hlines : fs.map moduleLines = fs'.map moduleLines := by
      induction h with
      | nil => rfl
      | cons hfile _ ih =>
        rw [List.map_cons, List.map_cons, ih]
        unfold moduleLines moduleName
        rw [hname _ _ hfile]
    unfold index
    rw [hlines]
  have hempty : fs.isEmpty = fs'.isEmpty := by
    cases h with
    | nil => rfl
    | cons _ _ => rfl
  unfold withIndex
  rw [hempty]
  split
  · refine List.rel_append h (.cons ?_ .nil)
    rw [hsame]
    exact hindex _ rfl
  · exact h

/-! ## What a pass selects -/

theorem mem_selected {g : Generator} {model : List Declaration} {d : Declaration} :
    d ∈ g.selected model ↔
      d ∈ model.filter g.isEligible ∧ ¬(d.kind = .sealedRoot ∧ d.sourceUnit = none) := by
  rw [selected, List.mem_filter]
  simp [isPlaceable, Declaration.isSealedRoot, imp_iff_not_or, Option.isSome_iff_ne_none]

/-- What a pass selects depends on the annotations that it looks for and on the filters alone. -/
theorem selected_congr {g g' : Generator} (hr : g'.resolver = g.resolver)
    (hp : g'.config.packages = g.config.packages)
    (hu : g'.config.sourceUnits = g.config.sourceUnits) (model : List Declaration) :
    g'.selected model = g.selected model := by
  have helig : g'.isEligible = g.isEligible := by
    funext d
    unfold isEligible Config.accepts Config.includesPackage
    rw [hr, hp, hu]
  unfold selected
  rw [helig]

/-! ## Accepted settings -/

theorem new_eq_ok {c : Config} {g : Generator} (h : new c = .ok g) :
    g.config = c ∧ Resolver.ofConfig c = .ok g.resolver := by
  unfold new at h
  split at h
  · cases hr : Resolver.ofConfig c with
    | error e => simp [hr, Except.map] at h
    | ok r =>
      rw [hr] at h
      obtain rfl := Except.ok.inj h
      exact ⟨rfl, rfl⟩
  · cases h

theorem holdsPlaceholder_of_new {c : Config} {g : Generator} (h : new c = .ok g) :
    Naming.holdsPlaceholder c.escapeTemplate.toList = true := by
  unfold new at h
  split at h
  · assumption
  · cases h

/-- Settings that refer to the same annotations have one resolver. -/
theorem resolver_eq_of_new {c c' : Config} {g g' : Generator} (hg : new c = .ok g)
    (hg' : new c' = .ok g') (h : Resolver.ofConfig c' = Resolver.ofConfig c) :
    g'.resolver = g.resolver := by
  have hr := (new_eq_ok hg).2
  have hr' := (new_eq_ok hg').2
  rw [h, hr] at hr'
  exact (Except.ok.inj hr').symm

/-- Settings that look for the same annotations, filter alike and escape alike select the same
declarations and write each in the same way. -/
theorem alike_of_new {c c' : Config} {g g' : Generator} (hg : new c = .ok g)
    (hg' : new c' = .ok g') (hr : Resolver.ofConfig c' = Resolver.ofConfig c)
    (hp : c'.packages = c.packages) (hu : c'.sourceUnits = c.sourceUnits)
    (ht : c'.escapeTemplate = c.escapeTemplate) :
    g'.emitter = g.emitter ∧ ∀ model, g'.selected model = g.selected model := by
  have hc := (new_eq_ok hg).1
  have hc' := (new_eq_ok hg').1
  have hresolver := resolver_eq_of_new hg hg' hr
  constructor
  · unfold emitter
    rw [hresolver, hc, hc', ht]
  · exact selected_congr hresolver (by rw [hc, hc', hp]) (by rw [hc, hc', hu])

def standard : Generator where
  config := Config.default
  resolver := {
    markers := ["kotlinx.serialization.Serializable"]
    serialName := ⟨"kotlinx.serialization.SerialName", "value"⟩
    discriminators := [⟨"kotlinx.serialization.json.JsonClassDiscriminator", "discriminator"⟩] }

theorem new_default : new Config.default = .ok standard := rfl

def marked (d : Declaration) : Declaration :=
  d.annotatedWith (.marker "kotlinx.serialization.Serializable")

def discIn (unit : String) : Declaration := marked ((Declaration.record "geo.Disc" []).inUnit unit)

end Generator
end Facsimile
