import Facsimile.Proofs.Sheets
import Mathlib.Data.List.Forall2

/-!
# What ordering by name leaves to discovery

Ordering by name makes the files of a pass the same for every order of the model, but for one thing:
the children of a sealed root are written in the order of the model all the same.  So two orders of
a model have the same files up to the order of the children in their unions, and have equal files
exactly if every union reads the same in both.
-/

namespace Facsimile

/-- Two pieces are one piece, or a union whose children stand in another order. -/
inductive Piece.Rearranged : Piece → Piece → Prop
  | same (p : Piece) : Rearranged p p
  | union {root : Declaration} {children children' : List Declaration} :
    children.Perm children' → Rearranged (.union ⟨root, children⟩) (.union ⟨root, children'⟩)

/-- Two sheets of one unit hold the same pieces in the same order, but for the order of children. -/
structure Sheet.Rearranged (s t : Sheet) : Prop where
  unit : s.unit = t.unit
  pieces : List.Forall₂ Piece.Rearranged s.pieces t.pieces

/-! ## Sorted lists of a permuted model -/

theorem ofList_eq_of_perm {l m : List String} (h : l.Perm m) :
    Sorted.ofList l = Sorted.ofList m := by
  refine (Sorted.ascending_ofList l).ext (Sorted.ascending_ofList m) fun a => ?_
  rw [Sorted.mem_ofList, Sorted.mem_ofList, h.mem_iff]

/-- Where names are distinct, a list sorted by them is what ordering by name makes of it. -/
theorem arrange_name_eq_of_sorted {ds l : List Declaration} (hd : NamesDistinct ds)
    (hp : ds.Perm l) (hl : l.Pairwise fun a b => a.qualifiedName ≤ b.qualifiedName) :
    Ordering.name.arrange ds = l := by
  have hperm := arrange_perm .name ds
  refine (hperm.trans hp).eq_of_pairwise ?_ (arrange_name_sorted ds) hl
  intro a b ha hb hab hba
  exact hd.eq_of_name (hperm.mem_iff.mp ha) (hp.mem_iff.mpr hb) (String.le_antisymm hab hba)

theorem arrange_name_eq_of_perm {ds ds' : List Declaration} (hd : NamesDistinct ds)
    (hp : ds.Perm ds') : Ordering.name.arrange ds = Ordering.name.arrange ds' :=
  arrange_name_eq_of_sorted hd (hp.trans (arrange_perm .name ds').symm) (arrange_name_sorted ds')

theorem groups_name_eq_of_perm {ds ds' : List Declaration} (hd : NamesDistinct ds)
    (hp : ds.Perm ds') : groups .name ds = groups .name ds' := by
  unfold groups
  rw [ofList_eq_of_perm (hp.filterMap _)]
  refine List.map_congr_left fun unit _ => ?_
  have hunit : NamesDistinct (declarationsOf unit ds) := hd.sublist List.filter_sublist
  rw [arrange_name_eq_of_perm hunit (hp.filter _)]
  rfl

namespace Generator

open Hierarchy

variable {ds ds' : List Declaration}

theorem standalone_perm (hd : NamesDistinct ds) (hp : ds.Perm ds') :
    (standalone (ofRoots ds ds) ds).Perm (standalone (ofRoots ds' ds') ds') := by
  have hd' := hd.perm hp
  have hsame : standalone (ofRoots ds ds) ds = standalone (ofRoots ds' ds') ds := by
    refine List.filter_congr fun d hmem => ?_
    congr 1
    rw [Bool.eq_iff_iff, isVariant_of_distinct hd hmem,
      isVariant_of_distinct hd' (hp.mem_iff.mp hmem)]
    simp only [hp.mem_iff]
  rw [hsame]
  exact hp.filter _

theorem planned_groups_eq_of_perm (hd : NamesDistinct ds) (hp : ds.Perm ds') :
    (planned .name ds).groups = (planned .name ds').groups :=
  groups_name_eq_of_perm (hd.sublist List.filter_sublist) (standalone_perm hd hp)

theorem extendsSeveral_of_perm (hp : ds.Perm ds') {d : Declaration} (h : ExtendsSeveral ds' d) :
    ExtendsSeveral ds d := by
  obtain ⟨m, hm, n, hn, hne, ⟨r, hr, hrk, hrn⟩, ⟨s, hs, hsk, hsn⟩⟩ := h
  exact ⟨m, hm, n, hn, hne, ⟨r, hp.mem_iff.mpr hr, hrk, hrn⟩, ⟨s, hp.mem_iff.mpr hs, hsk, hsn⟩⟩

theorem layout_of_perm {g : Generator} (ho : g.config.ordering = .name) (hd : NamesDistinct ds)
    (hp : ds.Perm ds') (h : g.layout ds = .ok (planned .name ds)) :
    g.layout ds' = .ok (planned .name ds') := by
  obtain ⟨hname, hone, hfree, -⟩ := layout_eq_ok_iff.mp h
  refine layout_eq_ok_iff.mpr ⟨?_, ?_, ?_, by rw [ho]⟩
  · rw [rawPathKeyword?_eq_none_iff] at hname ⊢
    intro hraw name hmem
    exact hname hraw name ((hp.flatMap_right _).mem_iff.mpr hmem)
  · intro d hmem hseveral
    exact hone d (hp.mem_iff.mpr hmem) (extendsSeveral_of_perm hp hseveral)
  · rw [ho] at hfree ⊢
    rw [← planned_groups_eq_of_perm hd hp]
    exact hfree

theorem selected_perm (g : Generator) {model model' : List Declaration} (hp : model.Perm model') :
    (g.selected model).Perm (g.selected model') :=
  (hp.filter _).filter _

end Generator

/-! ## Texts of equal length -/

theorem length_join_of_perm {l m : List String} (h : l.Perm m) :
    (String.join l).length = (String.join m).length := by
  rw [String.length_join, String.length_join]
  exact (h.map _).sum_nat

/-- Texts that are as long as each other pairwise are joined to one text only if they are equal. -/
theorem join_map_eq_iff {α : Type} {f f' : α → String} {l : List α}
    (h : ∀ a ∈ l, (f a).length = (f' a).length) :
    String.join (l.map f) = String.join (l.map f') ↔ ∀ a ∈ l, f a = f' a := by
  induction l with
  | nil => simp
  | cons a l ih =>
    have hlen := h a List.mem_cons_self
    have hrest := ih fun b hb => h b (List.mem_cons_of_mem _ hb)
    rw [List.map_cons, List.map_cons, String.join_cons, String.join_cons, List.forall_mem_cons,
      ← hrest]
    constructor
    · intro heq
      have hlist := congrArg String.toList heq
      rw [String.toList_append, String.toList_append] at hlist
      -- Equal lengths cut both texts at the same place.
      rw [← String.length_toList, ← String.length_toList] at hlen
      obtain ⟨hhead, htail⟩ := List.append_inj hlist hlen
      exact ⟨String.toList_inj.mp hhead, String.toList_inj.mp htail⟩
    · intro heq
      rw [heq.1, heq.2]

/-- The text of a piece: each block stands behind an empty line. -/
def Piece.text (e : Emitter) (p : Piece) : String :=
  String.join (p.origins.map fun o => "\n" ++ (o.block e).text)

theorem Sheet.content_eq (e : Emitter) (s : Sheet) :
    s.content e = Draft.header s.unit ++ String.join (s.pieces.map (Piece.text e)) := by
  unfold content
  congr 1
  rw [← String.toList_inj, String.toList_join, String.toList_join]
  unfold origins
  simp [Piece.text, List.flatMap_map, List.flatMap_assoc]

namespace Piece.Rearranged

theorem isEmpty_origins {p q : Piece} (h : Rearranged p q) :
    p.origins.isEmpty = q.origins.isEmpty := by
  cases h with
  | same => rfl
  | @union root children children' hperm =>
    simp only [origins, ← hperm.isEmpty_eq]
    split <;> rfl

theorem length_head (e : Emitter) (root : Declaration) {children children' : List Declaration}
    (h : children.Perm children') :
    (e.unionHead ⟨root, children⟩).text.length = (e.unionHead ⟨root, children'⟩).text.length := by
  have hlines : (e.unionHead ⟨root, children⟩).lines.Perm
      (e.unionHead ⟨root, children'⟩).lines := by
    have hmembers := (h.map e.variant).flatMap_right Member.lines
    unfold Block.lines Block.body
    simp only [Emitter.unionHead, reduceCtorEq, false_and, if_false]
    exact ((hmembers.append_right _).cons _).append_left _
  unfold Block.text linesText
  exact length_join_of_perm (hlines.map _)

theorem length_text {e : Emitter} {p q : Piece} (h : Rearranged p q) :
    (p.text e).length = (q.text e).length := by
  cases h with
  | same => rfl
  | @union root children children' hperm =>
    unfold text
    simp only [origins, ← hperm.isEmpty_eq]
    split
    · rfl
    · have hhead := length_head e root hperm
      have hrecords := length_join_of_perm ((hperm.map Origin.record).map fun o =>
        "\n" ++ (o.block e).text)
      rw [List.map_cons, List.map_cons, String.join_cons, String.join_cons, String.length_append,
        String.length_append, String.length_append, String.length_append, hrecords]
      show _ + (e.unionHead ⟨root, children⟩).text.length + _ = _
      rw [hhead]
      rfl

end Piece.Rearranged

/-! ## Sheets of a permuted model -/

namespace Generator

open Hierarchy

section Perm

variable {ds ds' : List Declaration}

theorem ofDeclaration_rearranged (hd : NamesDistinct ds) (hp : ds.Perm ds') {d : Declaration}
    (hmem : d ∈ ds) :
    (Piece.ofDeclaration (ofRoots ds ds) d).Rearranged
      (Piece.ofDeclaration (ofRoots ds' ds') d) := by
  cases hkind : d.kind with
  | record =>
    unfold Piece.ofDeclaration
    rw [hkind]
    exact .same _
  | enumeration =>
    unfold Piece.ofDeclaration
    rw [hkind]
    exact .same _
  | sealedRoot =>
    have hchildren : (childrenOf d.qualifiedName ds).Perm (childrenOf d.qualifiedName ds') :=
      hp.filter _
    rw [ofDeclaration_root hd hmem hkind,
      ofDeclaration_root (hd.perm hp) (hp.mem_iff.mp hmem) hkind,
      ← hchildren.isEmpty_eq]
    split
    · exact .same _
    · exact .union hchildren

theorem mem_of_group {o : Ordering} {group : Group} (hg : group ∈ (planned o ds).groups)
    {d : Declaration} (hmem : d ∈ group.declarations) : d ∈ ds :=
  List.mem_of_mem_filter ((mem_declarations hg).mp hmem).1

theorem sheet_rearranged (hd : NamesDistinct ds) (hp : ds.Perm ds') {group : Group}
    (hg : group ∈ (planned .name ds).groups) :
    (group.sheet (ofRoots ds ds)).Rearranged (group.sheet (ofRoots ds' ds')) := by
  refine ⟨rfl, ?_⟩
  show List.Forall₂ _ (group.declarations.map _) (group.declarations.map _)
  rw [List.forall₂_map_left_iff, List.forall₂_map_right_iff, List.forall₂_same]
  intro d hmem
  exact ofDeclaration_rearranged hd hp (mem_of_group hg hmem)

theorem isEmpty_origins_sheet (hd : NamesDistinct ds) (hp : ds.Perm ds') {group : Group}
    (hg : group ∈ (planned .name ds).groups) :
    (group.sheet (ofRoots ds ds)).origins.isEmpty =
      (group.sheet (ofRoots ds' ds')).origins.isEmpty := by
  show ((group.declarations.map _).flatMap _).isEmpty =
    ((group.declarations.map _).flatMap _).isEmpty
  rw [Bool.eq_iff_iff, List.isEmpty_iff, List.isEmpty_iff, List.flatMap_eq_nil_iff,
    List.flatMap_eq_nil_iff, List.forall_mem_map, List.forall_mem_map]
  refine forall₂_congr fun d hmem => ?_
  rw [← List.isEmpty_iff, ← List.isEmpty_iff,
    (ofDeclaration_rearranged hd hp (mem_of_group hg hmem)).isEmpty_origins]

/-- The groups that have a sheet. -/
def written (ds : List Declaration) : List Group :=
  (planned .name ds).groups.filter fun group => !(group.sheet (ofRoots ds ds)).origins.isEmpty

theorem sheets_eq_map (ds : List Declaration) :
    (planned .name ds).sheets = (written ds).map (Group.sheet (ofRoots ds ds)) := by
  unfold Layout.sheets written
  rw [List.filter_map]
  rfl

theorem sheets_perm_eq_map (hd : NamesDistinct ds) (hp : ds.Perm ds') :
    (planned .name ds').sheets = (written ds).map (Group.sheet (ofRoots ds' ds')) := by
  have hsame : written ds' = written ds := by
    unfold written
    rw [← planned_groups_eq_of_perm hd hp]
    refine List.filter_congr fun group hg => ?_
    rw [isEmpty_origins_sheet hd hp hg]
  rw [sheets_eq_map, hsame]

/-! ### When a sheet reads the same -/

theorem content_eq_iff (e : Emitter) (hd : NamesDistinct ds) (hp : ds.Perm ds') {group : Group}
    (hg : group ∈ (planned .name ds).groups) :
    (group.sheet (ofRoots ds' ds')).content e = (group.sheet (ofRoots ds ds)).content e ↔
      ∀ d ∈ group.declarations, (Piece.ofDeclaration (ofRoots ds' ds') d).text e =
        (Piece.ofDeclaration (ofRoots ds ds) d).text e := by
  have hlength : ∀ d ∈ group.declarations,
      ((Piece.ofDeclaration (ofRoots ds' ds') d).text e).length =
        ((Piece.ofDeclaration (ofRoots ds ds) d).text e).length := by
    intro d hmem
    exact (ofDeclaration_rearranged hd hp (mem_of_group hg hmem)).length_text.symm
  rw [Sheet.content_eq, Sheet.content_eq, ← join_map_eq_iff hlength]
  show Draft.header group.unit ++ String.join ((group.declarations.map _).map _) =
    Draft.header group.unit ++ String.join ((group.declarations.map _).map _) ↔ _
  rw [List.map_map, List.map_map, ← String.toList_inj, String.toList_append, String.toList_append,
    List.append_cancel_left_eq, String.toList_inj]
  rfl

theorem text_ofDeclaration_root (e : Emitter) (hd : NamesDistinct ds) {r : Declaration}
    (hr : r ∈ ds) (hk : r.kind = .sealedRoot) :
    (Piece.ofDeclaration (ofRoots ds ds) r).text e =
      (Piece.union ⟨r, childrenOf r.qualifiedName ds⟩).text e := by
  rw [ofDeclaration_root hd hr hk]
  split
  · rename_i hempty
    unfold Piece.text Piece.origins
    simp only [hempty, if_true]
  · rfl

/-- The union of every root reads the same for two orders of the declarations. -/
def UnionsAgree (e : Emitter) (ds ds' : List Declaration) : Prop :=
  ∀ r ∈ ds, r.kind = .sealedRoot →
    (Piece.union ⟨r, childrenOf r.qualifiedName ds'⟩).text e =
      (Piece.union ⟨r, childrenOf r.qualifiedName ds⟩).text e

theorem contents_eq_iff (e : Emitter) (hd : NamesDistinct ds) (hp : ds.Perm ds')
    (hunits : ∀ r ∈ ds, r.kind = .sealedRoot → r.sourceUnit ≠ none) :
    (∀ group ∈ written ds, (group.sheet (ofRoots ds' ds')).content e =
      (group.sheet (ofRoots ds ds)).content e) ↔ UnionsAgree e ds ds' := by
  have hd' := hd.perm hp
  constructor
  · intro h r hr hk
    obtain ⟨group, hg, hmem⟩ := exists_group_of_root .name hd hr hk (hunits r hr hk)
    have hcontent : (group.sheet (ofRoots ds' ds')).content e =
        (group.sheet (ofRoots ds ds)).content e := by
      by_cases hempty : (group.sheet (ofRoots ds ds)).origins.isEmpty
      · -- A group without a sheet writes no union in either order.
        have hempty' := hempty
        rw [isEmpty_origins_sheet hd hp hg] at hempty'
        unfold Sheet.content
        rw [List.isEmpty_iff.mp hempty, List.isEmpty_iff.mp hempty']
        rfl
      · exact h group (List.mem_filter.mpr ⟨hg, by simpa using hempty⟩)
    rw [← text_ofDeclaration_root e hd hr hk,
      ← text_ofDeclaration_root e hd' (hp.mem_iff.mp hr) hk]
    exact (content_eq_iff e hd hp hg).mp hcontent r hmem
  · intro h group hgw
    have hg := (List.mem_filter.mp hgw).1
    refine (content_eq_iff e hd hp hg).mpr fun d hmem => ?_
    have hds := mem_of_group hg hmem
    cases hkind : d.kind with
    | record =>
      unfold Piece.ofDeclaration
      rw [hkind]
    | enumeration =>
      unfold Piece.ofDeclaration
      rw [hkind]
    | sealedRoot =>
      rw [text_ofDeclaration_root e hd hds hkind,
        text_ofDeclaration_root e hd' (hp.mem_iff.mp hds) hkind]
      exact h d hds hkind

end Perm

/-! ## Files of a permuted model -/

theorem take_withIndex (modFile : Bool) (fs : List File) :
    (withIndex modFile fs).take fs.length = fs := by
  unfold withIndex
  split
  · rw [List.take_left']
    rfl
  · rw [List.take_length]

theorem withIndex_inj {modFile : Bool} {fs fs' : List File} (hlen : fs.length = fs'.length) :
    withIndex modFile fs = withIndex modFile fs' ↔ fs = fs' := by
  constructor
  · intro h
    have htake := take_withIndex modFile fs
    rw [h, hlen, take_withIndex] at htake
    exact htake.symm
  · intro h
    rw [h]

/-- The place of a file: what it has besides its content. -/
def place (f : File) : String × Option String := (f.name, f.unit)

theorem map_place_withIndex {modFile : Bool} {fs fs' : List File}
    (h : fs.map place = fs'.map place) :
    (withIndex modFile fs).map place = (withIndex modFile fs').map place := by
  have hempty : fs.isEmpty = fs'.isEmpty := by
    rw [← List.isEmpty_map (f := place), h, List.isEmpty_map]
  unfold withIndex
  rw [hempty]
  split
  · rw [List.map_append, List.map_append, h]
    rfl
  · exact h

/-- Ordering by name takes every order of a model to the same files but for the order of children:
they are equal exactly if the union of every root reads the same. -/
theorem name_order_up_to_children (g : Generator) (ho : g.config.ordering = .name)
    {model model' : List Declaration} (hd : NamesDistinct model) (hp : model.Perm model')
    {files : List File} (hfiles : g.generate model = .ok files) :
    ∃ files' ss ss', g.generate model' = .ok files' ∧
      files = withIndex g.config.modFile (ss.map (Sheet.file g.emitter)) ∧
      files' = withIndex g.config.modFile (ss'.map (Sheet.file g.emitter)) ∧
      List.Forall₂ Sheet.Rearranged ss ss' ∧
      files'.map place = files.map place ∧
      (files' = files ↔ UnionsAgree g.emitter (g.selected model) (g.selected model')) := by
  have hds : NamesDistinct (g.selected model) :=
    hd.sublist (List.filter_sublist.trans List.filter_sublist)
  have hps := selected_perm g hp
  have hunits : ∀ r ∈ g.selected model, r.kind = .sealedRoot → r.sourceUnit ≠ none := by
    intro r hr hk hu
    exact (mem_selected.mp hr).2 ⟨hk, hu⟩
  obtain ⟨ss, hss, rfl⟩ := generate_eq_ok_iff.mp hfiles
  obtain ⟨hl, rfl⟩ := sheets_eq_ok_iff.mp hss
  rw [ho] at hl ⊢
  have hss' : g.sheets model' = .ok (planned .name (g.selected model')).sheets := by
    rw [sheets_eq_ok_iff, ho]
    exact ⟨layout_of_perm ho hds hps hl, rfl⟩
  refine ⟨_, _, _, generate_eq_ok_iff.mpr ⟨_, hss', rfl⟩, rfl, rfl, ?_, ?_, ?_⟩
  · rw [sheets_perm_eq_map hds hps, sheets_eq_map, List.forall₂_map_left_iff,
      List.forall₂_map_right_iff, List.forall₂_same]
    intro group hgw
    exact sheet_rearranged hds hps (List.mem_filter.mp hgw).1
  · refine map_place_withIndex ?_
    rw [sheets_perm_eq_map hds hps, sheets_eq_map, List.map_map, List.map_map, List.map_map,
      List.map_map]
    rfl
  · rw [sheets_perm_eq_map hds hps, sheets_eq_map, withIndex_inj (by simp),
      ← contents_eq_iff g.emitter hds hps hunits, List.map_map, List.map_map, List.map_inj_left]
    refine forall₂_congr fun group _ => ?_
    show File.mk _ _ _ = File.mk _ _ _ ↔ _
    rw [File.mk.injEq]
    exact ⟨fun h => h.2.2, fun h => ⟨rfl, rfl, h⟩⟩

def nameOrdered : Generator :=
  { standard with config := { Config.default with ordering := .name } }

theorem new_nameOrdered : new { Config.default with ordering := .name } = .ok nameOrdered := rfl

def siblings : List Declaration :=
  [marked ((Declaration.sealedRoot "geo.Shape").inUnit "Shape.kt"),
    marked ((Declaration.record "geo.Square" []).extending "geo.Shape"),
    marked ((Declaration.record "geo.Disc" []).extending "geo.Shape")]

theorem siblings_distinct : NamesDistinct siblings := by
  unfold NamesDistinct
  decide

theorem siblings_reverse_up_to_children :
    nameOrdered.config.ordering = .name ∧ NamesDistinct siblings ∧
      siblings.Perm siblings.reverse ∧ ∃ files, nameOrdered.generate siblings = .ok files ∧
        ∃ files' ss ss', nameOrdered.generate siblings.reverse = .ok files' ∧
          files = withIndex nameOrdered.config.modFile (ss.map (Sheet.file nameOrdered.emitter)) ∧
          files' = withIndex nameOrdered.config.modFile (ss'.map (Sheet.file nameOrdered.emitter)) ∧
          List.Forall₂ Sheet.Rearranged ss ss' ∧ files'.map place = files.map place ∧
          (files' = files ↔ UnionsAgree nameOrdered.emitter (nameOrdered.selected siblings)
            (nameOrdered.selected siblings.reverse)) := by
  have hp : siblings.Perm siblings.reverse := (List.reverse_perm siblings).symm
  exact ⟨rfl, siblings_distinct, hp, _, rfl,
    name_order_up_to_children nameOrdered rfl siblings_distinct hp rfl⟩

/-- The children of a root are written in the order of the model, and so its files do depend on that
order. -/
theorem siblings_keep_discovery_order :
    new { Config.default with ordering := .name } = .ok nameOrdered ∧ NamesDistinct siblings ∧
      siblings.Perm siblings.reverse ∧ ∃ files files', nameOrdered.generate siblings = .ok files ∧
        nameOrdered.generate siblings.reverse = .ok files' ∧ files' ≠ files := by
  refine ⟨new_nameOrdered, siblings_distinct, (List.reverse_perm siblings).symm, _, _, rfl, rfl, ?_⟩
  decide +kernel

end Generator
end Facsimile
