import Facsimile.Proofs.ByteOrder
import Facsimile.Proofs.DiscoveryOrder

/-!
# Ordering by name as a stable sort

Ordering by name moves whole pieces within their file and does nothing else.  A pass has the same
error in both orders, or the same files but for their contents, and the pieces of each file are
sorted by name while those of one name keep the order of discovery
(`name_order_sorts_discovery_order`).
-/

namespace Facsimile

/-- `l'` holds the elements of `l` in the order of the bytes of their keys, and those with one key
in the order that they have in `l`. -/
structure StablySorted {α : Type} (key : α → String) (l l' : List α) : Prop where
  perm : l'.Perm l
  sorted : l'.Pairwise fun a b => Text.bytes (key a) ≤ Text.bytes (key b)
  stable : ∀ name, l'.filter (fun a => key a == name) = l.filter (fun a => key a == name)

namespace StablySorted

variable {α β : Type} {key : α → String} {l l' : List α}

theorem filter (h : StablySorted key l l') (p : α → Bool) :
    StablySorted key (l.filter p) (l'.filter p) := by
  refine ⟨h.perm.filter p, h.sorted.filter p, fun name => ?_⟩
  rw [List.filter_comm, h.stable, List.filter_comm]

theorem map {key : β → String} {f : α → β} (h : StablySorted (fun a => key (f a)) l l') :
    StablySorted key (l.map f) (l'.map f) := by
  refine ⟨h.perm.map f, List.pairwise_map.mpr h.sorted, fun name => ?_⟩
  rw [List.filter_map, List.filter_map]
  exact congrArg (List.map f) (h.stable name)

end StablySorted

/-! ## Sorted declarations -/

/-- Declarations of one name are sorted already, and a sort keeps what is sorted. -/
theorem filter_arrange_name (ds : List Declaration) (name : String) :
    (Ordering.name.arrange ds).filter (fun d => d.qualifiedName == name) =
      ds.filter (fun d => d.qualifiedName == name) := by
  have hsorted : (ds.filter fun d => d.qualifiedName == name).Pairwise
      fun a b => a.nameLe b = true := by
    refine List.pairwise_of_forall_mem_list fun a ha b hb => ?_
    have ha' : a.qualifiedName = name := beq_iff_eq.mp (List.mem_filter.mp ha).2
    have hb' : b.qualifiedName = name := beq_iff_eq.mp (List.mem_filter.mp hb).2
    unfold Declaration.nameLe
    rw [ha', hb']
    exact decide_eq_true (String.le_refl name)
  have hsub : (ds.filter fun d => d.qualifiedName == name).Sublist (Ordering.name.arrange ds) :=
    List.sublist_mergeSort nameLe_trans nameLe_total hsorted List.filter_sublist
  have hkept := hsub.filter fun d => d.qualifiedName == name
  rw [List.filter_filter] at hkept
  simp only [Bool.and_self] at hkept
  refine (hkept.eq_of_length ?_).symm
  exact ((arrange_perm .name ds).filter _).length_eq.symm

theorem arrange_name_stablySorted (ds : List Declaration) :
    StablySorted Declaration.qualifiedName ds (Ordering.name.arrange ds) where
  perm := arrange_perm .name ds
  sorted := (arrange_name_sorted ds).imp fun h => Text.bytes_le_iff.mpr h
  stable := filter_arrange_name ds

/-! ## Sorted pieces -/

/-- The qualified name that a piece goes by. -/
def Piece.name : Piece → String
  | .record d | .enumeration d | .empty d => d.qualifiedName
  | .union h => h.root.qualifiedName

theorem Piece.name_ofDeclaration (hs : List Hierarchy) (d : Declaration) :
    (ofDeclaration hs d).name = d.qualifiedName := by
  unfold ofDeclaration
  cases d.kind with
  | record => rfl
  | enumeration => rfl
  | sealedRoot =>
    cases hget : Hierarchy.get? hs d with
    | none => rfl
    | some h =>
      have hroot : h.root.qualifiedName = d.qualifiedName :=
        beq_iff_eq.mp (List.find?_some (p := fun h : Hierarchy =>
          h.root.qualifiedName == d.qualifiedName) hget)
      simp only
      split
      · rfl
      · exact hroot

/-- A piece that stands in a file: a root without children has none. -/
def Piece.isWritten (p : Piece) : Bool := !p.origins.isEmpty

namespace Generator

variable {ds : List Declaration}

/-- The pieces of a unit in the order in which they were discovered. -/
def discovered (ds : List Declaration) (unit : String) : List Piece :=
  ((declarationsOf unit (alone ds)).map (pieceOf ds)).filter Piece.isWritten

theorem pieces_stablySorted (ds : List Declaration) (unit : String) :
    StablySorted Piece.name (unitSheet .discovery ds unit).pieces
      (unitSheet .name ds unit).pieces := by
  apply StablySorted.map
  have hname : (fun d => (pieceOf ds d).name) = Declaration.qualifiedName := by
    funext d
    exact Piece.name_ofDeclaration _ d
  rw [hname]
  exact arrange_name_stablySorted _

/-- A file as it is in the order of discovery, and as it is when ordered by name. -/
inductive SortedByName (e : Emitter) (ds : List Declaration) : File → File → Prop
  | sheet {unit : String} {sorted : List Piece} :
    StablySorted Piece.name (discovered ds unit) sorted →
    SortedByName e ds
      ⟨Naming.fileName unit, some unit,
        Draft.header unit ++ String.join ((discovered ds unit).map (Piece.text e))⟩
      ⟨Naming.fileName unit, some unit,
        Draft.header unit ++ String.join (sorted.map (Piece.text e))⟩
  | index (f : File) : f.unit = none → SortedByName e ds f f

theorem SortedByName.place {e : Emitter} {f f' : File} (h : SortedByName e ds f f') :
    Generator.place f' = Generator.place f := by
  cases h with
  | sheet => rfl
  | index => rfl

/-- What is not written has no text. -/
theorem join_text_isWritten (e : Emitter) (ps : List Piece) :
    String.join ((ps.filter Piece.isWritten).map (Piece.text e)) =
      String.join (ps.map (Piece.text e)) := by
  induction ps with
  | nil => rfl
  | cons p ps ih =>
    rw [List.map_cons, String.join_cons, ← ih, List.filter_cons]
    cases hwritten : p.isWritten with
    | true => rw [if_pos rfl, List.map_cons, String.join_cons]
    | false =>
      have hnone : p.origins = [] := by
        unfold Piece.isWritten at hwritten
        simpa using hwritten
      have htext : p.text e = "" := by
        unfold Piece.text
        rw [hnone]
        rfl
      rw [if_neg (by decide), htext, String.empty_append]

theorem sortedByName_unitSheet (e : Emitter) (ds : List Declaration) (unit : String) :
    SortedByName e ds ((unitSheet .discovery ds unit).file e)
      ((unitSheet .name ds unit).file e) := by
  unfold Sheet.file
  rw [Sheet.content_eq, Sheet.content_eq, ← join_text_isWritten, ← join_text_isWritten e
    (unitSheet .name ds unit).pieces]
  exact .sheet ((pieces_stablySorted ds unit).filter Piece.isWritten)

theorem isEmpty_origins_unitSheet (ds : List Declaration) (unit : String) :
    (unitSheet .name ds unit).origins.isEmpty = (unitSheet .discovery ds unit).origins.isEmpty :=
  ((pieces_stablySorted ds unit).perm.flatMap_right Piece.origins).isEmpty_eq

theorem sheets_sortedByName (e : Emitter) (ds : List Declaration) :
    List.Forall₂ (SortedByName e ds) ((planned .discovery ds).sheets.map (Sheet.file e))
      ((planned .name ds).sheets.map (Sheet.file e)) := by
  have hunits : ∀ o, (planned o ds).sheets =
      ((units ds).filter fun unit => !(unitSheet .discovery ds unit).origins.isEmpty).map
        (unitSheet o ds) := by
    intro o
    rw [sheets_eq_unitSheets, List.filter_map]
    congr 1
    refine List.filter_congr fun unit _ => ?_
    cases o with
    | discovery => rfl
    | name => exact congrArg not (isEmpty_origins_unitSheet ds unit)
  rw [hunits, hunits, List.map_map, List.map_map, List.forall₂_map_left_iff,
    List.forall₂_map_right_iff, List.forall₂_same]
  intro unit _
  exact sortedByName_unitSheet e ds unit

/-- Ordering by name fails as the order of discovery does, or it writes the same files, each with
its pieces sorted by name. -/
theorem name_order_sorts_discovery_order {c : Config} {g g' : Generator}
    (hg : new { c with ordering := .discovery } = .ok g)
    (hg' : new { c with ordering := .name } = .ok g') (model : List Declaration) :
    (∃ e, g.generate model = .error e ∧ g'.generate model = .error e) ∨
      ∃ files files', g.generate model = .ok files ∧ g'.generate model = .ok files' ∧
        files'.map place = files.map place ∧
        List.Forall₂ (SortedByName g.emitter (g.selected model)) files files' := by
  have hc := (new_eq_ok hg).1
  have hc' := (new_eq_ok hg').1
  obtain ⟨hemitter, hselected⟩ := alike_of_new hg hg' rfl rfl rfl rfl
  have hlayout : g'.layout (g.selected model) = (g.layout (g.selected model)).map fun _ =>
      planned g'.config.ordering (g.selected model) :=
    layout_congr (by rw [hc, hc']) (by rw [hc, hc']) _
  rw [generate_eq, generate_eq]
  unfold sheets
  rw [hselected, hlayout, hemitter]
  cases hl : g.layout (g.selected model) with
  | error e => exact Or.inl ⟨e, rfl, rfl⟩
  | ok l =>
    obtain ⟨-, -, -, rfl⟩ := layout_eq_ok_iff.mp hl
    rw [hc, hc']
    have hfiles := forall₂_withIndex (R := SortedByName g.emitter (g.selected model))
      (fun f f' h => (congrArg Prod.fst h.place).symm) .index c.modFile
      (sheets_sortedByName g.emitter (g.selected model))
    refine Or.inr ⟨_, _, rfl, rfl, ?_, hfiles⟩
    rw [← List.forall₂_eq_eq_eq, List.forall₂_map_left_iff, List.forall₂_map_right_iff]
    exact hfiles.flip.imp fun _ _ h => h.place

/-- Two declarations of one name, and a union between them. -/
def unsorted : List Declaration :=
  [marked ((Declaration.record "geo.Square" []).inUnit "Shapes.kt"),
    marked ((Declaration.sealedRoot "geo.Shape").inUnit "Shapes.kt"),
    marked ((Declaration.record "geo.Disc" []).extending "geo.Shape"),
    marked ((Declaration.record "geo.Arc" []).extending "geo.Shape"),
    marked ((Declaration.enumeration "geo.Square" []).inUnit "Shapes.kt")]

theorem unsorted_sorts_by_name :
    new { Config.default with ordering := .discovery } = .ok standard ∧
      new { Config.default with ordering := .name } = .ok nameOrdered ∧
      ∃ files files', standard.generate unsorted = .ok files ∧
        nameOrdered.generate unsorted = .ok files' ∧ files'.map place = files.map place ∧
        List.Forall₂ (SortedByName standard.emitter (standard.selected unsorted)) files files' := by
  refine ⟨new_default, new_nameOrdered, ?_⟩
  rcases name_order_sorts_discovery_order new_default new_nameOrdered unsorted with h | h
  · obtain ⟨e, herror, -⟩ := h
    have hok : standard.generate unsorted = .ok _ := rfl
    rw [hok] at herror
    cases herror
  · exact h

end Generator
end Facsimile
