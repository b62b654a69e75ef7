import Facsimile.Proofs.DiscoveryOrder
import Facsimile.Proofs.Placement

/-!
# A model with one declaration more

A declaration that is no sealed root belongs to one file: that of the root that it extends, or else
that of its own unit.  Two passes that succeed, one with the declaration and one without, have the
same files but for this one and the index.  Where the declaration extends no root, its file differs
by the block of the declaration alone, which is put in at one place (`added_declaration_frame`).
-/

namespace Facsimile

/-- The sealed root of a list that a record extends. -/
def extendedRoot? (ds : List Declaration) (d : Declaration) : Option Declaration :=
  if d.kind = .record then
    ds.find? fun r => r.isSealedRoot && d.supertypes.contains r.qualifiedName
  else none

/-- The unit of the file that a declaration belongs to. -/
def homeUnit (ds : List Declaration) (d : Declaration) : Option String :=
  match extendedRoot? ds d with
  | some r => r.sourceUnit
  | none => d.sourceUnit

/-- The files of source units other than one, in their order. -/
def elsewhere (unit : Option String) (files : List File) : List File :=
  files.filter fun f => f.unit.isSome && f.unit != unit

def filesOf (unit : String) (files : List File) : List File :=
  files.filter fun f => f.unit == some unit

/-- The block that a declaration without hierarchy is written as. -/
inductive Declaration.WrittenAs (d : Declaration) : Origin → Prop
  | record : d.kind = .record → WrittenAs d (.record d)
  | enumeration : d.kind = .enumeration → WrittenAs d (.enumeration d)

/-- The file of a unit gains a block behind an empty line, at one place in it or as its only block.
Without unit nothing is gained. -/
inductive Gains (block : Block) : Option String → List File → List File → Prop
  | unplaced {files : List File} : Gains block none files files
  | new {unit : String} {files files' : List File} : filesOf unit files = [] →
    filesOf unit files' =
      [⟨Naming.fileName unit, some unit, Draft.header unit ++ ("\n" ++ block.text)⟩] →
    Gains block (some unit) files files'
  | inserted {unit : String} {files files' : List File} (start rest : String) :
    filesOf unit files = [⟨Naming.fileName unit, some unit, start ++ rest⟩] →
    filesOf unit files' =
      [⟨Naming.fileName unit, some unit, start ++ ("\n" ++ block.text) ++ rest⟩] →
    Gains block (some unit) files files'

/-! ## The root that a record extends -/

theorem extendedRoot?_eq_some {ds : List Declaration} {d r : Declaration}
    (h : extendedRoot? ds d = some r) :
    d.kind = .record ∧ r ∈ ds ∧ r.kind = .sealedRoot ∧ r.qualifiedName ∈ d.supertypes := by
  unfold extendedRoot? at h
  split at h
  · rename_i hrecord
    have hr := List.find?_some h
    rw [Bool.and_eq_true, isSealedRoot_iff, List.contains_iff_mem] at hr
    exact ⟨hrecord, List.mem_of_find?_eq_some h, hr.1, hr.2⟩
  · cases h

theorem extendedRoot?_eq_none_iff {ds : List Declaration} {d : Declaration} :
    extendedRoot? ds d = none ↔
      (d.kind = .record → ∀ r ∈ ds, r.kind = .sealedRoot → r.qualifiedName ∉ d.supertypes) := by
  unfold extendedRoot?
  by_cases hrecord : d.kind = .record
  · rw [if_pos hrecord, List.find?_eq_none]
    simp [hrecord, isSealedRoot_iff]
  · rw [if_neg hrecord]
    simp [hrecord]

/-- A record that extends one root at most extends the one that is found. -/
theorem extendedRoot?_of_extends {ds : List Declaration} (hd : NamesDistinct ds)
    {d r : Declaration} (hone : ¬ExtendsSeveral ds d) (hrecord : d.kind = .record) (hr : r ∈ ds)
    (hk : r.kind = .sealedRoot) (hsup : r.qualifiedName ∈ d.supertypes) :
    extendedRoot? ds d = some r := by
  cases hfound : extendedRoot? ds d with
  | none => exact absurd hsup (extendedRoot?_eq_none_iff.mp hfound hrecord r hr hk)
  | some s =>
    obtain ⟨-, hs, hsk, hssup⟩ := extendedRoot?_eq_some hfound
    by_cases hname : s.qualifiedName = r.qualifiedName
    · rw [hd.eq_of_name hs hr hname]
    · exact absurd ⟨_, hssup, _, hsup, hname, ⟨s, hs, hsk, rfl⟩, ⟨r, hr, hk, rfl⟩⟩ hone

theorem homeUnit_of_none {ds : List Declaration} {d : Declaration}
    (h : extendedRoot? ds d = none) : homeUnit ds d = d.sourceUnit := by
  unfold homeUnit
  rw [h]

theorem homeUnit_of_some {ds : List Declaration} {d r : Declaration}
    (h : extendedRoot? ds d = some r) : homeUnit ds d = r.sourceUnit := by
  unfold homeUnit
  rw [h]

/-! ## Sheets by unit -/

namespace Generator

open Hierarchy

theorem alone_eq_filter {ds : List Declaration} (hd : NamesDistinct ds) :
    alone ds = ds.filter fun e => (extendedRoot? ds e).isNone := by
  refine List.filter_congr fun e he => ?_
  rw [Bool.eq_iff_iff, Bool.not_eq_true', ← Bool.not_eq_true, isVariant_of_distinct hd he,
    Option.isNone_iff_eq_none, extendedRoot?_eq_none_iff]
  push Not
  exact Iff.rfl

theorem mem_units_iff {ds : List Declaration} {unit : String} :
    unit ∈ units ds ↔ declarationsOf unit (alone ds) ≠ [] := by
  show unit ∈ Sorted.ofList _ ↔ _
  rw [Sorted.mem_ofList, List.mem_filterMap]
  constructor
  · intro h
    obtain ⟨e, he, hunit⟩ := h
    exact List.ne_nil_of_mem (mem_declarationsOf.mpr ⟨he, hunit⟩)
  · intro h
    obtain ⟨e, he⟩ := List.exists_mem_of_ne_nil _ h
    exact ⟨e, mem_declarationsOf.mp he⟩

theorem filter_sheets (o : Ordering) (ds : List Declaration) (p : String → Bool) :
    (planned o ds).sheets.filter (fun s => p s.unit) =
      (((units ds).filter p).map (unitSheet o ds)).filter fun s => !s.origins.isEmpty := by
  rw [sheets_eq_unitSheets, List.filter_comm, List.filter_map]
  rfl

theorem sheets_of_unit (o : Ordering) (ds : List Declaration) (unit : String) :
    (planned o ds).sheets.filter (fun s => s.unit == unit) =
      [unitSheet o ds unit].filter fun s => !s.origins.isEmpty := by
  rw [filter_sheets o ds (· == unit)]
  by_cases hmem : unit ∈ units ds
  · have hnodup : ((units ds).map id).Nodup := by
      rw [List.map_id]
      exact (ascending_units ds).nodup
    have hself : (units ds).filter (· == unit) = [unit] := filter_key_eq_singleton id hnodup hmem
    rw [hself]
    rfl
  · have hnone : (units ds).filter (· == unit) = [] :=
      filter_key_eq_nil id fun v hv heq => hmem (heq ▸ hv)
    have hempty : unitSheet o ds unit = ⟨unit, []⟩ := by
      rw [mem_units_iff, not_not] at hmem
      have harrange : o.arrange [] = [] := List.perm_nil.mp (arrange_perm o [])
      show Sheet.mk unit ((o.arrange (declarationsOf unit _)).map _) = _
      rw [hmem, harrange]
      rfl
    rw [hnone, hempty]
    rfl

/-! ## Declarations with one more among them -/

section Insert

variable {before after : List Declaration} {d : Declaration}

theorem mem_insert_iff {e : Declaration} :
    e ∈ before ++ d :: after ↔ e = d ∨ e ∈ before ++ after := by
  rw [List.mem_append, List.mem_cons, List.mem_append]
  exact or_left_comm

theorem extendedRoot?_insert (hk : d.kind ≠ .sealedRoot) (e : Declaration) :
    extendedRoot? (before ++ d :: after) e = extendedRoot? (before ++ after) e := by
  have hno : d.isSealedRoot = false := by
    rw [← Bool.not_eq_true, isSealedRoot_iff]
    exact hk
  unfold extendedRoot?
  rw [List.find?_append, List.find?_append, List.find?_cons, hno, Bool.false_and]

theorem childrenOf_insert {name : String} (h : d.kind = .record → name ∉ d.supertypes) :
    childrenOf name (before ++ d :: after) = childrenOf name (before ++ after) := by
  have hno : (d.kind == .record && d.supertypes.contains name) = false := by
    rw [← Bool.not_eq_true, Bool.and_eq_true, beq_iff_eq, List.contains_iff_mem]
    exact fun hd => h hd.1 hd.2
  unfold childrenOf
  rw [List.filter_append, List.filter_append, List.filter_cons, hno]
  rfl

variable (hd : NamesDistinct (before ++ d :: after)) (hk : d.kind ≠ .sealedRoot)

include hd in
theorem distinct_without : NamesDistinct (before ++ after) :=
  hd.sublist ((List.sublist_cons_self d after).append_left before)

include hd hk in
/-- What stands on its own stays so, and the declaration is added to it if it extends no root. -/
theorem alone_insert :
    ∃ l m, alone (before ++ after) = l ++ m ∧ alone (before ++ d :: after) =
      if extendedRoot? (before ++ after) d = none then l ++ d :: m else l ++ m := by
  refine ⟨before.filter fun e => (extendedRoot? (before ++ after) e).isNone,
    after.filter fun e => (extendedRoot? (before ++ after) e).isNone, ?_, ?_⟩
  · rw [alone_eq_filter (distinct_without hd), List.filter_append]
  · rw [alone_eq_filter hd]
    simp only [extendedRoot?_insert hk]
    rw [List.filter_append, List.filter_cons]
    by_cases hnone : extendedRoot? (before ++ after) d = none
    · rw [if_pos hnone, hnone]
      rfl
    · rw [if_neg hnone, if_neg (by rwa [Option.isNone_iff_eq_none])]

include hd in
/-- A declaration has the same piece, unless it is the root that the new one extends. -/
theorem pieceOf_insert {e : Declaration} (he : e ∈ before ++ after)
    (h : e.kind = .sealedRoot → d.kind = .record → e.qualifiedName ∉ d.supertypes) :
    pieceOf (before ++ d :: after) e = pieceOf (before ++ after) e := by
  unfold pieceOf
  cases hkind : e.kind with
  | record =>
    unfold Piece.ofDeclaration
    rw [hkind]
  | enumeration =>
    unfold Piece.ofDeclaration
    rw [hkind]
  | sealedRoot =>
    rw [ofDeclaration_root hd (mem_insert_iff.mpr (Or.inr he)) hkind,
      ofDeclaration_root (distinct_without hd) he hkind, childrenOf_insert (h hkind)]

/-! ### Other units -/

section Elsewhere

variable (hone : ¬ExtendsSeveral (before ++ after) d) {unit : String}
  (hunit : some unit ≠ homeUnit (before ++ after) d)

include hd hk hunit in
theorem declarationsOf_insert :
    declarationsOf unit (alone (before ++ d :: after)) =
      declarationsOf unit (alone (before ++ after)) := by
  obtain ⟨l, m, hold, hnew⟩ := alone_insert hd hk
  rw [hold, hnew]
  split
  · rename_i hnone
    rw [homeUnit_of_none hnone] at hunit
    have hother : (d.sourceUnit == some unit) = false := by
      rw [beq_eq_false_iff_ne]
      exact hunit.symm
    unfold declarationsOf
    rw [List.filter_append, List.filter_append, List.filter_cons, hother]
    rfl
  · rfl

include hd hk hone hunit in
theorem unitSheet_insert (o : Ordering) :
    unitSheet o (before ++ d :: after) unit = unitSheet o (before ++ after) unit := by
  show Sheet.mk unit ((o.arrange _).map _) = Sheet.mk unit ((o.arrange _).map _)
  rw [declarationsOf_insert hd hk hunit]
  congr 1
  refine List.map_congr_left fun e he => ?_
  obtain ⟨hmem, hown⟩ := mem_arranged he
  refine pieceOf_insert hd hmem fun hroot hrecord hsup => ?_
  have hfound := extendedRoot?_of_extends (distinct_without hd) hone hrecord hmem hroot hsup
  rw [homeUnit_of_some hfound, hown] at hunit
  exact hunit rfl

end Elsewhere

include hd hk in
/-- All sheets but those of the unit that the declaration belongs to are the same. -/
theorem sheets_elsewhere (hone : ¬ExtendsSeveral (before ++ after) d) (o : Ordering) :
    (planned o (before ++ d :: after)).sheets.filter
        (fun s => some s.unit != homeUnit (before ++ after) d) =
      (planned o (before ++ after)).sheets.filter
        (fun s => some s.unit != homeUnit (before ++ after) d) := by
  have hunits : (units (before ++ d :: after)).filter
        (fun unit => some unit != homeUnit (before ++ after) d) =
      (units (before ++ after)).filter
        (fun unit => some unit != homeUnit (before ++ after) d) := by
    refine Sorted.Ascending.ext ((ascending_units _).sublist List.filter_sublist)
      ((ascending_units _).sublist List.filter_sublist) fun unit => ?_
    rw [List.mem_filter, List.mem_filter, bne_iff_ne]
    refine and_congr_left fun hunit => ?_
    rw [mem_units_iff, mem_units_iff, declarationsOf_insert hd hk hunit]
  rw [filter_sheets o _ fun unit => some unit != homeUnit (before ++ after) d,
    filter_sheets o _ fun unit => some unit != homeUnit (before ++ after) d, hunits]
  congr 1
  refine List.map_congr_left fun unit hunit => ?_
  exact unitSheet_insert hd hk hone (bne_iff_ne.mp (List.mem_filter.mp hunit).2) o

/-! ### The unit of the declaration -/

/-- Arranging puts a new declaration in at one place. -/
theorem arrange_insert (o : Ordering) {l m : List Declaration} (hlm : NamesDistinct (l ++ d :: m)) :
    ∃ x y, o.arrange (l ++ m) = x ++ y ∧ o.arrange (l ++ d :: m) = x ++ d :: y := by
  cases o with
  | discovery => exact ⟨l, m, rfl, rfl⟩
  | name =>
    have hperm := arrange_perm .name (l ++ d :: m)
    have hmem : d ∈ Ordering.name.arrange (l ++ d :: m) :=
      hperm.mem_iff.mpr (List.mem_append_right l List.mem_cons_self)
    obtain ⟨x, y, hsplit⟩ := List.append_of_mem hmem
    have hsorted := arrange_name_sorted (l ++ d :: m)
    rw [hsplit] at hperm hsorted
    have hrest : (l ++ m).Perm (x ++ y) :=
      (List.perm_middle.symm.trans (hperm.symm.trans List.perm_middle)).cons_inv
    refine ⟨x, y, ?_, hsplit⟩
    exact arrange_name_eq_of_sorted (distinct_without hlm) hrest
      (hsorted.sublist ((List.sublist_cons_self d y).append_left x))

section Home

variable (hnone : extendedRoot? (before ++ after) d = none) {unit : String}
  (hunit : d.sourceUnit = some unit)

include hd hk hnone hunit in
theorem arranged_insert (o : Ordering) :
    ∃ x y, arranged o (before ++ after) unit = x ++ y ∧
      arranged o (before ++ d :: after) unit = x ++ d :: y := by
  obtain ⟨l, m, hold, hnew⟩ := alone_insert hd hk
  rw [if_pos hnone] at hnew
  have hrest : declarationsOf unit (l ++ m) = declarationsOf unit l ++ declarationsOf unit m :=
    List.filter_append l m
  have hown : declarationsOf unit (l ++ d :: m) =
      declarationsOf unit l ++ d :: declarationsOf unit m := by
    have hself : (d.sourceUnit == some unit) = true := beq_iff_eq.mpr hunit
    unfold declarationsOf
    rw [List.filter_append, List.filter_cons, hself]
    rfl
  have halone : NamesDistinct (alone (before ++ d :: after)) := hd.sublist List.filter_sublist
  have hdistinct : NamesDistinct (declarationsOf unit (alone (before ++ d :: after))) :=
    halone.sublist List.filter_sublist
  rw [hnew, hown] at hdistinct
  unfold arranged
  rw [hold, hnew, hrest, hown]
  exact arrange_insert o hdistinct

include hd hk hnone hunit in
/-- The block of the declaration is put in between two blocks of its unit. -/
theorem origins_insert (o : Ordering) {b : Origin}
    (hb : ∀ hs, (Piece.ofDeclaration hs d).origins = [b]) :
    ∃ front back, (unitSheet o (before ++ after) unit).origins = front ++ back ∧
      (unitSheet o (before ++ d :: after) unit).origins = front ++ b :: back := by
  obtain ⟨x, y, hold, hnew⟩ := arranged_insert hd hk hnone hunit o
  have hsame : ∀ e ∈ x ++ y, pieceOf (before ++ d :: after) e = pieceOf (before ++ after) e := by
    intro e he
    rw [← hold] at he
    have hmem := (mem_arranged he).1
    exact pieceOf_insert hd hmem fun hroot hrecord =>
      extendedRoot?_eq_none_iff.mp hnone hrecord e hmem hroot
  have hx := List.map_congr_left fun e he => hsame e (List.mem_append_left y he)
  have hy := List.map_congr_left fun e he => hsame e (List.mem_append_right x he)
  have hown : (pieceOf (before ++ d :: after) d).origins = [b] := hb _
  refine ⟨(x.map (pieceOf (before ++ after))).flatMap Piece.origins,
    (y.map (pieceOf (before ++ after))).flatMap Piece.origins, ?_, ?_⟩
  · show ((arranged o (before ++ after) unit).map _).flatMap _ = _
    rw [hold, List.map_append, List.flatMap_append]
  · show ((arranged o (before ++ d :: after) unit).map _).flatMap _ = _
    rw [hnew, List.map_append, List.map_cons, List.flatMap_append, List.flatMap_cons, hx, hy, hown]
    rfl

end Home

theorem exists_writtenAs (hk : d.kind ≠ .sealedRoot) :
    ∃ b, d.WrittenAs b ∧ ∀ hs, (Piece.ofDeclaration hs d).origins = [b] := by
  cases hkind : d.kind with
  | record => exact ⟨.record d, .record hkind, fun hs => origins_record hkind⟩
  | enumeration => exact ⟨.enumeration d, .enumeration hkind, fun hs => origins_enumeration hkind⟩
  | sealedRoot => exact absurd hkind hk

/-! ## Files with a declaration more -/

theorem filter_withIndex (modFile : Bool) (e : Emitter) (ss : List Sheet)
    {p : Option String → Bool} (hnone : p none = false) :
    (withIndex modFile (ss.map (Sheet.file e))).filter (fun f => p f.unit) =
      (ss.filter fun s => p (some s.unit)).map (Sheet.file e) := by
  have hunits : (ss.map (Sheet.file e)).filter (fun f => p f.unit) =
      (ss.filter fun s => p (some s.unit)).map (Sheet.file e) := by
    rw [List.filter_map]
    rfl
  unfold withIndex
  split
  · have hindex : [index (ss.map (Sheet.file e))].filter (fun f => p f.unit) = [] := by
      refine List.filter_eq_nil_iff.mpr fun f hf => ?_
      rw [List.mem_singleton.mp hf]
      show ¬p none = true
      rw [hnone]
      exact Bool.false_ne_true
    rw [List.filter_append, hunits, hindex, List.append_nil]
  · exact hunits

theorem filesOf_withIndex (modFile : Bool) (e : Emitter) (o : Ordering) (ds : List Declaration)
    (unit : String) :
    filesOf unit (withIndex modFile ((planned o ds).sheets.map (Sheet.file e))) =
      ([unitSheet o ds unit].filter fun s => !s.origins.isEmpty).map (Sheet.file e) := by
  have hfilter := filter_withIndex modFile e (planned o ds).sheets
    (p := fun u => u == some unit) rfl
  simp only [Option.some_beq_some, sheets_of_unit] at hfilter
  exact hfilter

theorem content_insert (e : Emitter) {s s' : Sheet} {front back : List Origin} {b : Origin}
    (hunit : s'.unit = s.unit) (hs : s.origins = front ++ back)
    (hs' : s'.origins = front ++ b :: back) :
    ∃ start rest, s.content e = start ++ rest ∧
      s'.content e = start ++ ("\n" ++ (b.block e).text) ++ rest := by
  refine ⟨Draft.header s.unit ++ String.join (front.map fun o => "\n" ++ (o.block e).text),
    String.join (back.map fun o => "\n" ++ (o.block e).text), ?_, ?_⟩
  · unfold Sheet.content
    rw [hs, List.map_append, String.join_append, String.append_assoc]
  · unfold Sheet.content
    rw [hs', hunit, List.map_append, List.map_cons, String.join_append, String.join_cons]
    simp only [String.append_assoc]

theorem content_single (e : Emitter) {s : Sheet} {b : Origin} (h : s.origins = [b]) :
    s.content e = Draft.header s.unit ++ ("\n" ++ (b.block e).text) := by
  unfold Sheet.content
  rw [h, List.map_singleton, String.join_cons]
  simp

include hd hk in
theorem gains_of_insert (modFile : Bool) (e : Emitter) (o : Ordering)
    (hone : ¬ExtendsSeveral (before ++ after) d)
    (hnone : extendedRoot? (before ++ after) d = none) {b : Origin}
    (hb : ∀ hs, (Piece.ofDeclaration hs d).origins = [b]) :
    Gains (b.block e) d.sourceUnit
      (withIndex modFile ((planned o (before ++ after)).sheets.map (Sheet.file e)))
      (withIndex modFile ((planned o (before ++ d :: after)).sheets.map (Sheet.file e))) := by
  cases hunit : d.sourceUnit with
  | none =>
    have hsheets := sheets_elsewhere hd hk hone o
    rw [homeUnit_of_none hnone, hunit] at hsheets
    have hall : ∀ ss : List Sheet, ss.filter (fun s => some s.unit != none) = ss := fun ss =>
      List.filter_eq_self.mpr fun _ _ => rfl
    rw [hall, hall] at hsheets
    rw [hsheets]
    exact .unplaced
  | some unit =>
    obtain ⟨front, back, horigins, horigins'⟩ := origins_insert hd hk hnone hunit o hb
    have hnew : filesOf unit (withIndex modFile
        ((planned o (before ++ d :: after)).sheets.map (Sheet.file e))) =
          [(unitSheet o (before ++ d :: after) unit).file e] := by
      rw [filesOf_withIndex, List.filter_cons, horigins']
      have hwritten : (!(front ++ b :: back).isEmpty) = true := by simp
      rw [if_pos hwritten]
      rfl
    by_cases hempty : (unitSheet o (before ++ after) unit).origins = []
    · rw [hempty] at horigins
      obtain ⟨rfl, rfl⟩ := List.append_eq_nil_iff.mp horigins.symm
      refine .new ?_ ?_
      · rw [filesOf_withIndex, List.filter_cons, hempty]
        rfl
      · rw [hnew]
        show [File.mk _ _ ((unitSheet o (before ++ d :: after) unit).content e)] = _
        rw [content_single e horigins']
        rfl
    · have hsame : (unitSheet o (before ++ d :: after) unit).unit =
          (unitSheet o (before ++ after) unit).unit := rfl
      obtain ⟨start, rest, hcontent, hcontent'⟩ := content_insert e hsame horigins horigins'
      refine .inserted start rest ?_ ?_
      · rw [filesOf_withIndex, List.filter_cons, if_pos (by simpa using hempty), ← hcontent]
        rfl
      · rw [hnew, ← hcontent']
        rfl

end Insert

theorem selected_append (g : Generator) (before after : List Declaration) :
    g.selected (before ++ after) = g.selected before ++ g.selected after := by
  unfold selected
  rw [List.filter_append, List.filter_append]

theorem selected_cons_of_not (g : Generator) {d : Declaration} (h : g.isEligible d = false)
    (after : List Declaration) : g.selected (d :: after) = g.selected after := by
  unfold selected
  rw [List.filter_cons, h]
  rfl

theorem selected_cons (g : Generator) {d : Declaration} (h : g.isEligible d = true)
    (hk : d.kind ≠ .sealedRoot) (after : List Declaration) :
    g.selected (d :: after) = d :: g.selected after := by
  have hplaceable : isPlaceable d = true := by
    have hno : d.isSealedRoot = false := by
      rw [← Bool.not_eq_true, isSealedRoot_iff]
      exact hk
    unfold isPlaceable
    rw [hno]
    rfl
  unfold selected
  rw [List.filter_cons, h, if_pos rfl, List.filter_cons, hplaceable, if_pos rfl]

/-- A new declaration that is not eligible changes nothing.  An eligible one leaves all files but
its own and the index as they are, and where it extends no root its own file gains its block. -/
theorem added_declaration_frame (g : Generator) {before after : List Declaration} {d : Declaration}
    (hnames : NamesDistinct (before ++ d :: after)) (hk : d.kind ≠ .sealedRoot) :
    (g.isEligible d = false → g.generate (before ++ d :: after) = g.generate (before ++ after)) ∧
      (g.isEligible d = true → ∀ files files', g.generate (before ++ after) = .ok files →
        g.generate (before ++ d :: after) = .ok files' →
          elsewhere (homeUnit (g.selected (before ++ after)) d) files' =
              elsewhere (homeUnit (g.selected (before ++ after)) d) files ∧
            (extendedRoot? (g.selected (before ++ after)) d = none →
              ∃ b, d.WrittenAs b ∧ Gains (b.block g.emitter) d.sourceUnit files files')) := by
  constructor
  · intro hno
    unfold generate
    rw [selected_append, selected_append, selected_cons_of_not g hno]
  · intro helig files files' hfiles hfiles'
    have hselected' : g.selected (before ++ d :: after) =
        g.selected before ++ d :: g.selected after := by
      rw [selected_append, selected_cons g helig hk]
    obtain ⟨ss, hss, rfl⟩ := generate_eq_ok_iff.mp hfiles
    obtain ⟨-, rfl⟩ := sheets_eq_ok_iff.mp hss
    obtain ⟨ss', hss', rfl⟩ := generate_eq_ok_iff.mp hfiles'
    obtain ⟨hl', rfl⟩ := sheets_eq_ok_iff.mp hss'
    have hd : NamesDistinct (g.selected (before ++ d :: after)) :=
      hnames.sublist (List.filter_sublist.trans List.filter_sublist)
    obtain ⟨-, hone, -, -⟩ := layout_eq_ok_iff.mp hl'
    rw [hselected'] at hd hone ⊢
    rw [selected_append]
    have hone : ¬ExtendsSeveral (g.selected before ++ g.selected after) d := by
      intro hseveral
      refine hone d (mem_insert_iff.mpr (Or.inl rfl)) ?_
      obtain ⟨m, hm, n, hn, hne, ⟨r, hr, hrk, hrn⟩, ⟨s, hs, hsk, hsn⟩⟩ := hseveral
      exact ⟨m, hm, n, hn, hne, ⟨r, mem_insert_iff.mpr (Or.inr hr), hrk, hrn⟩,
        ⟨s, mem_insert_iff.mpr (Or.inr hs), hsk, hsn⟩⟩
    constructor
    · have hsheets := sheets_elsewhere hd hk hone g.config.ordering
      have hfilter : ∀ (unit : Option String) (ss : List Sheet),
          elsewhere unit (withIndex g.config.modFile (ss.map (Sheet.file g.emitter))) =
            (ss.filter fun s => some s.unit != unit).map (Sheet.file g.emitter) := fun unit ss =>
        filter_withIndex g.config.modFile g.emitter ss
          (p := fun u => u.isSome && u != unit) rfl
      rw [hfilter, hfilter, hsheets]
    · intro hnone
      obtain ⟨b, hwritten, hb⟩ := exists_writtenAs hk
      exact ⟨b, hwritten, gains_of_insert hd hk _ _ _ hone hnone hb⟩

def firstSide : Declaration := marked ((Declaration.enumeration "geo.Side" []).inUnit "Disc.kt")

def addedDisc : Declaration := marked ((Declaration.record "geo.Disc" []).inUnit "Disc.kt")

def lastPath : Declaration := marked ((Declaration.record "geo.Path" []).inUnit "Path.kt")

theorem disc_added_frame :
    NamesDistinct ([firstSide] ++ addedDisc :: [lastPath]) ∧ addedDisc.kind ≠ .sealedRoot ∧
      standard.isEligible addedDisc = true ∧
      ∃ files files', standard.generate ([firstSide] ++ [lastPath]) = .ok files ∧
        standard.generate ([firstSide] ++ addedDisc :: [lastPath]) = .ok files' ∧
        elsewhere (homeUnit (standard.selected ([firstSide] ++ [lastPath])) addedDisc) files' =
          elsewhere (homeUnit (standard.selected ([firstSide] ++ [lastPath])) addedDisc) files ∧
        extendedRoot? (standard.selected ([firstSide] ++ [lastPath])) addedDisc = none ∧
        ∃ b, addedDisc.WrittenAs b ∧
          Gains (b.block standard.emitter) addedDisc.sourceUnit files files' := by
  have hnames : NamesDistinct ([firstSide] ++ addedDisc :: [lastPath]) := by
    unfold NamesDistinct
    decide
  have hk : addedDisc.kind ≠ .sealedRoot := by decide
  obtain ⟨hsame, hgains⟩ := (added_declaration_frame standard hnames hk).2 rfl _ _ rfl rfl
  exact ⟨hnames, hk, rfl, _, _, rfl, rfl, hsame, rfl, hgains rfl⟩

end Generator
end Facsimile
