import Facsimile.Proofs.Passages
import Mathlib.Data.List.Flatten

/-!
# Where declarations are written

Every eligible declaration has one place at most, and it is known which.  A record that extends a
sealed root with a file stands with that root, any other record and every enumeration in the file of
its own unit, and a root with children as a union in front of its children.  What has no place is
named by an event of the pass.  `Accounted` says this of the pages that the files are made of, and
`every_declaration_accounted` that a pass which succeeds writes such pages.
-/

namespace Facsimile

/-- The blocks of all sheets in their order, each with the unit whose file it stands in. -/
def placed (ss : List Sheet) : List (String × Origin) :=
  ss.flatMap fun s => s.origins.map (s.unit, ·)

/-- The type definitions on pages, each with the unit of its page. -/
def definitions (pages : List Page) : List (String × Origin) :=
  pages.flatMap fun page => page.passages.map fun p => (page.unit, p.origin)

/-- What is defined for declarations with a name. -/
def definitionsOf (pages : List Page) (name : String) : List (String × Origin) :=
  (definitions pages).filter fun p => p.2.declaration.qualifiedName == name

/-- The variants on pages, each behind the declaration that it is a variant of. -/
def variants (pages : List Page) : List (Declaration × Declaration) :=
  pages.flatMap fun page => page.passages.flatMap fun p => p.variants.map (p.origin.declaration, ·)

def variantsOf (pages : List Page) (name : String) : List (Declaration × Declaration) :=
  (variants pages).filter fun p => p.2.qualifiedName == name

def HasPlacedRoot (ds : List Declaration) (d : Declaration) : Prop :=
  ∃ r ∈ ds, r.kind = .sealedRoot ∧ r.sourceUnit ≠ none ∧ r.qualifiedName ∈ d.supertypes

open Hierarchy in
/-- The eligible declarations `ds` of a pass with the pages `pages` and the events `events`: each is
written once, in its place and in no other, or it is not written and an event names it. -/
structure Accounted (ds : List Declaration) (pages : List Page) (events : List Event) : Prop where
  child : ∀ d ∈ ds, d.kind = .record → ∀ r ∈ ds, r.kind = .sealedRoot → ∀ unit,
    r.sourceUnit = some unit → r.qualifiedName ∈ d.supertypes →
      variantsOf pages d.qualifiedName = [(r, d)] ∧
        definitionsOf pages d.qualifiedName = [(unit, .record d)]
  record : ∀ d ∈ ds, d.kind = .record → ¬HasPlacedRoot ds d → ∀ unit, d.sourceUnit = some unit →
    definitionsOf pages d.qualifiedName = [(unit, .record d)]
  enumeration : ∀ d ∈ ds, d.kind = .enumeration → ∀ unit, d.sourceUnit = some unit →
    definitionsOf pages d.qualifiedName = [(unit, .enumeration d)]
  /-- The union of a root stands directly in front of the records of its children. -/
  union : ∀ r ∈ ds, r.kind = .sealedRoot → ∀ unit, r.sourceUnit = some unit →
    childrenOf r.qualifiedName ds ≠ [] →
      definitionsOf pages r.qualifiedName = [(unit, .union ⟨r, childrenOf r.qualifiedName ds⟩)] ∧
      (unit, .union ⟨r, childrenOf r.qualifiedName ds⟩) ::
        (childrenOf r.qualifiedName ds).map (fun d => (unit, .record d)) <:+: definitions pages
  withoutUnit : ∀ d ∈ ds, d.sourceUnit = none → d.kind ≠ .sealedRoot →
    (d.kind = .record → ¬HasPlacedRoot ds d) →
      definitionsOf pages d.qualifiedName = [] ∧ .declarationWithoutUnit d.qualifiedName ∈ events
  rootWithoutUnit : ∀ r ∈ ds, r.kind = .sealedRoot → r.sourceUnit = none →
    definitionsOf pages r.qualifiedName = [] ∧ .rootWithoutUnit r.qualifiedName ∈ events
  childless : ∀ r ∈ ds, r.kind = .sealedRoot → r.sourceUnit ≠ none →
    childrenOf r.qualifiedName ds = [] →
      definitionsOf pages r.qualifiedName = [] ∧ .emptyHierarchy r.qualifiedName ∈ events
  onlyDefinitions : ∀ p ∈ definitions pages, p.2.declaration ∈ ds
  onlyVariants : ∀ v ∈ variants pages, v.1 ∈ ds ∧ v.2 ∈ childrenOf v.1.qualifiedName ds

/-! ## Elements with a key of their own -/

theorem filter_key_eq_singleton {α : Type} (key : α → String) {l : List α}
    (h : (l.map key).Nodup) {x : α} (hx : x ∈ l) :
    l.filter (fun y => key y == key x) = [x] := by
  induction l with
  | nil => cases hx
  | cons a l ih =>
    rw [List.map_cons, List.nodup_cons] at h
    rcases List.mem_cons.mp hx with rfl | hx
    · have hrest : l.filter (fun y => key y == key x) = [] := by
        refine List.filter_eq_nil_iff.mpr fun y hy heq => ?_
        exact h.1 (List.mem_map.mpr ⟨y, hy, beq_iff_eq.mp heq⟩)
      simp [hrest]
    · have hne : (key a == key x) = false := by
        rw [beq_eq_false_iff_ne]
        intro heq
        exact h.1 (List.mem_map.mpr ⟨x, hx, heq.symm⟩)
      rw [List.filter_cons, hne, ih h.2 hx]
      rfl

theorem filter_key_eq_nil {α : Type} (key : α → String) {l : List α} {name : String}
    (h : ∀ x ∈ l, key x ≠ name) : l.filter (fun y => key y == name) = [] :=
  List.filter_eq_nil_iff.mpr fun x hx heq => h x hx (beq_iff_eq.mp heq)

/-! ## Pages of sheets -/

theorem variants_passage (e : Emitter) (o : Origin) : (o.passage e).variants = o.children := by
  unfold Passage.variants Origin.passage
  rw [List.filterMap_map]
  cases o with
  | record d => simp [Origin.parts, Part.child?, Origin.children]
  | enumeration d => simp [Origin.parts, Part.child?, Origin.children]
  | union h => simp [Origin.parts, Part.child?, Origin.children, Function.comp_def]

theorem definitions_pages (e : Emitter) (ss : List Sheet) :
    definitions (ss.map (Sheet.page e)) = placed ss := by
  unfold definitions placed
  rw [List.flatMap_map]
  refine List.flatMap_congr fun s _ => ?_
  unfold Sheet.page
  rw [List.map_map]
  rfl

theorem variants_pages (e : Emitter) (ss : List Sheet) :
    variants (ss.map (Sheet.page e)) =
      (placed ss).flatMap fun p => p.2.children.map (p.2.declaration, ·) := by
  unfold variants placed
  rw [List.flatMap_map, List.flatMap_assoc]
  refine List.flatMap_congr fun s _ => ?_
  unfold Sheet.page
  rw [List.flatMap_map, List.flatMap_map]
  refine List.flatMap_congr fun o _ => ?_
  rw [variants_passage]
  rfl

/-! ## What one declaration puts into a file -/

/-- The blocks that a declaration which stands on its own gives to the file of its unit. -/
def placements (hs : List Hierarchy) (d : Declaration) : List (String × Origin) :=
  match d.sourceUnit with
  | none => []
  | some unit => (Piece.ofDeclaration hs d).origins.map (unit, ·)

theorem placements_of_unit {hs : List Hierarchy} {d : Declaration} {unit : String}
    (h : d.sourceUnit = some unit) :
    placements hs d = (Piece.ofDeclaration hs d).origins.map (unit, ·) := by
  unfold placements
  rw [h]

theorem origins_record {hs : List Hierarchy} {d : Declaration} (h : d.kind = .record) :
    (Piece.ofDeclaration hs d).origins = [.record d] := by
  simp [Piece.ofDeclaration, Piece.origins, h]

theorem origins_enumeration {hs : List Hierarchy} {d : Declaration} (h : d.kind = .enumeration) :
    (Piece.ofDeclaration hs d).origins = [.enumeration d] := by
  simp [Piece.ofDeclaration, Piece.origins, h]

open Generator Hierarchy in
theorem origins_root {ds : List Declaration} (hd : NamesDistinct ds) {r : Declaration}
    (hr : r ∈ ds) (hk : r.kind = .sealedRoot) :
    (Piece.ofDeclaration (ofRoots ds ds) r).origins =
      if (childrenOf r.qualifiedName ds).isEmpty then []
      else .union ⟨r, childrenOf r.qualifiedName ds⟩ ::
        (childrenOf r.qualifiedName ds).map .record := by
  rw [ofDeclaration_root hd hr hk]
  split
  · rfl
  · rename_i hne
    simp [Piece.origins, hne]

theorem flatMap_filter_of_nil {α β : Type} {p : α → Bool} {f : α → List β} {l : List α}
    (h : ∀ a ∈ l, p a = false → f a = []) : (l.filter p).flatMap f = l.flatMap f := by
  induction l with
  | nil => rfl
  | cons a l ih =>
    have hrest := ih fun b hb => h b (List.mem_cons_of_mem _ hb)
    rw [List.filter_cons, List.flatMap_cons, ← hrest]
    cases hp : p a with
    | true => simp
    | false => simp [h a List.mem_cons_self hp]

open Generator in
/-- The sheets hold what the declarations that stand on their own put there. -/
theorem placed_planned (o : Ordering) (ds : List Declaration) :
    placed (planned o ds).sheets =
      ((planned o ds).groups.flatMap (·.declarations)).flatMap
        (placements (planned o ds).hierarchies) := by
  unfold placed Layout.sheets
  rw [flatMap_filter_of_nil, List.flatMap_map, List.flatMap_assoc]
  · refine List.flatMap_congr fun group hgroup => ?_
    simp only [Group.sheet, Sheet.origins, pieces, List.flatMap_map, List.map_flatMap]
    refine List.flatMap_congr fun d hd => ?_
    rw [placements_of_unit ((mem_declarations hgroup).mp hd).2]
  · intro s _ hs
    simp only [Bool.not_eq_false', List.isEmpty_iff] at hs
    rw [hs, List.map_nil]

open Generator in
theorem placed_perm (o : Ordering) (ds : List Declaration) :
    (placed (planned o ds).sheets).Perm
      ((standalone (Hierarchy.ofRoots ds ds) ds).flatMap
        (placements (Hierarchy.ofRoots ds ds))) := by
  have hperm := (flatMap_groups_perm o (standalone (Hierarchy.ofRoots ds ds) ds)).flatMap_right
    (placements (Hierarchy.ofRoots ds ds))
  rw [flatMap_filter_of_nil] at hperm
  · rw [placed_planned]
    exact hperm
  · intro d _ hd
    unfold placements
    rw [Option.isSome_eq_false_iff, Option.isNone_iff_eq_none] at hd
    rw [hd]

open Generator in
/-- A block stands in a file for a declaration that stands on its own. -/
theorem mem_placed_planned {o : Ordering} {ds : List Declaration} {unit : String} {b : Origin} :
    (unit, b) ∈ placed (planned o ds).sheets ↔
      ∃ d ∈ standalone (Hierarchy.ofRoots ds ds) ds, d.sourceUnit = some unit ∧
        b ∈ (Piece.ofDeclaration (Hierarchy.ofRoots ds ds) d).origins := by
  rw [(placed_perm o ds).mem_iff, List.mem_flatMap]
  refine exists_congr fun d => and_congr_right fun _ => ?_
  unfold placements
  cases d.sourceUnit with
  | none => simp
  | some u =>
    simp only [List.mem_map, Prod.mk.injEq, Option.some.injEq]
    constructor
    · intro h
      obtain ⟨b', hb, rfl, rfl⟩ := h
      exact ⟨rfl, hb⟩
    · intro h
      obtain ⟨rfl, hb⟩ := h
      exact ⟨b, hb, rfl, rfl⟩

section Distinct

open Generator Hierarchy

variable {o : Ordering} {ds : List Declaration}

/-- Where a block stands, by what it is written for. -/
inductive Stands (ds : List Declaration) : String → Origin → Prop
  | child {d r : Declaration} {unit : String} : d ∈ ds → d.kind = .record → r ∈ ds →
    r.kind = .sealedRoot → r.qualifiedName ∈ d.supertypes → r.sourceUnit = some unit →
    Stands ds unit (.record d)
  | record {d : Declaration} {unit : String} : d ∈ ds → d.kind = .record →
    (∀ r ∈ ds, r.kind = .sealedRoot → r.qualifiedName ∉ d.supertypes) →
    d.sourceUnit = some unit → Stands ds unit (.record d)
  | enumeration {d : Declaration} {unit : String} : d ∈ ds → d.kind = .enumeration →
    d.sourceUnit = some unit → Stands ds unit (.enumeration d)
  | union {r : Declaration} {unit : String} : r ∈ ds → r.kind = .sealedRoot →
    r.sourceUnit = some unit → childrenOf r.qualifiedName ds ≠ [] →
    Stands ds unit (.union ⟨r, childrenOf r.qualifiedName ds⟩)

theorem mem_placed_iff (hd : NamesDistinct ds) {unit : String} {b : Origin} :
    (unit, b) ∈ placed (planned o ds).sheets ↔ Stands ds unit b := by
  rw [mem_placed_planned]
  constructor
  · intro h
    obtain ⟨d, hstand, hunit, hb⟩ := h
    obtain ⟨hmem, halone⟩ := (mem_standalone hd).mp hstand
    cases hkind : d.kind with
    | record =>
      rw [origins_record hkind, List.mem_singleton] at hb
      subst hb
      exact .record hmem hkind (halone hkind) hunit
    | enumeration =>
      rw [origins_enumeration hkind, List.mem_singleton] at hb
      subst hb
      exact .enumeration hmem hkind hunit
    | sealedRoot =>
      rw [origins_root hd hmem hkind] at hb
      split at hb
      · cases hb
      · rename_i hne
        rcases List.mem_cons.mp hb with rfl | hb
        · exact .union hmem hkind hunit (by simpa using hne)
        · obtain ⟨c, hc, rfl⟩ := List.mem_map.mp hb
          obtain ⟨hcmem, hck, hsup⟩ := mem_childrenOf.mp hc
          exact .child hcmem hck hmem hkind hsup hunit
  · intro hb
    cases hb with
    | @child d r unit hmem hk hr hrk hsup hunit =>
      refine ⟨r, (mem_standalone hd).mpr ⟨hr, by simp [hrk]⟩, hunit, ?_⟩
      have hc : d ∈ childrenOf r.qualifiedName ds := mem_childrenOf.mpr ⟨hmem, hk, hsup⟩
      rw [origins_root hd hr hrk, if_neg (by
        rw [List.isEmpty_iff]
        exact List.ne_nil_of_mem hc)]
      exact List.mem_cons_of_mem _ (List.mem_map.mpr ⟨d, hc, rfl⟩)
    | @record d unit hmem hk halone hunit =>
      refine ⟨d, (mem_standalone hd).mpr ⟨hmem, fun _ => halone⟩, hunit, ?_⟩
      rw [origins_record hk]
      exact List.mem_singleton_self _
    | @enumeration d unit hmem hk hunit =>
      refine ⟨d, (mem_standalone hd).mpr ⟨hmem, by simp [hk]⟩, hunit, ?_⟩
      rw [origins_enumeration hk]
      exact List.mem_singleton_self _
    | @union r unit hr hrk hunit hne =>
      refine ⟨r, (mem_standalone hd).mpr ⟨hr, by simp [hrk]⟩, hunit, ?_⟩
      rw [origins_root hd hr hrk, if_neg (by simpa using hne)]
      exact List.mem_cons_self

/-! ### Nothing is written twice -/

/-- A declaration that stands on its own writes one block for itself, which may have children, and a
record behind it for each child. -/
theorem placements_shape (hd : NamesDistinct ds) {d : Declaration} (hmem : d ∈ ds) :
    placements (ofRoots ds ds) d = [] ∨ ∃ (unit : String) (b : Origin), b.declaration = d ∧
      b.children.Nodup ∧
      (∀ c ∈ b.children, d.kind = .sealedRoot ∧ c ∈ childrenOf d.qualifiedName ds) ∧
      placements (ofRoots ds ds) d = (unit, b) :: b.children.map fun c => (unit, .record c) := by
  cases hunit : d.sourceUnit with
  | none =>
    left
    unfold placements
    rw [hunit]
  | some unit =>
    rw [placements_of_unit hunit]
    cases hkind : d.kind with
    | record =>
      rw [origins_record hkind]
      exact Or.inr ⟨unit, .record d, rfl, List.nodup_nil, by simp [Origin.children], rfl⟩
    | enumeration =>
      rw [origins_enumeration hkind]
      exact Or.inr ⟨unit, .enumeration d, rfl, List.nodup_nil, by simp [Origin.children], rfl⟩
    | sealedRoot =>
      rw [origins_root hd hmem hkind]
      split
      · exact Or.inl rfl
      · refine Or.inr ⟨unit, .union ⟨d, childrenOf d.qualifiedName ds⟩, rfl,
          hd.nodup.sublist List.filter_sublist, fun c hc => ⟨rfl, hc⟩, ?_⟩
        rw [List.map_cons, List.map_map]
        rfl

theorem mem_written (hd : NamesDistinct ds) {d c : Declaration} (hmem : d ∈ ds)
    (hc : c ∈ (placements (ofRoots ds ds) d).map (·.2.declaration)) :
    c = d ∨ (d.kind = .sealedRoot ∧ c ∈ childrenOf d.qualifiedName ds) := by
  rcases placements_shape hd hmem with hnil | ⟨unit, b, hb, -, hvariants, hshape⟩
  · rw [hnil] at hc
    cases hc
  · rw [hshape, List.map_cons, List.map_map] at hc
    rcases List.mem_cons.mp hc with rfl | hc
    · exact Or.inl hb
    · obtain ⟨e, he, rfl⟩ := List.mem_map.mp hc
      exact Or.inr (hvariants e he)

theorem written_nodup (hd : NamesDistinct ds) {d : Declaration} (hmem : d ∈ ds) :
    ((placements (ofRoots ds ds) d).map (·.2.declaration)).Nodup := by
  rcases placements_shape hd hmem with hnil | ⟨unit, b, hb, hnodup, hvariants, hshape⟩
  · rw [hnil]
    exact List.nodup_nil
  · have hself : d ∉ b.children := by
      intro hmem
      obtain ⟨hroot, hchild⟩ := hvariants d hmem
      have hrecord := (mem_childrenOf.mp hchild).2.1
      rw [hroot] at hrecord
      cases hrecord
    have hwritten : (b.children.map fun c => ((unit, Origin.record c) : String × Origin)).map
        (·.2.declaration) = b.children := by
      rw [List.map_map]
      exact List.map_id b.children
    rw [hshape, List.map_cons, hwritten]
    show (b.declaration :: b.children).Nodup
    rw [hb]
    exact List.nodup_cons.mpr ⟨hself, hnodup⟩

/-- A declaration is written by one that stands on its own, and by no other: by itself, or by the
one root that it extends. -/
theorem written_disjoint (hd : NamesDistinct ds) (hone : ∀ d ∈ ds, ¬ExtendsSeveral ds d)
    {d e : Declaration} (hdm : d ∈ standalone (ofRoots ds ds) ds)
    (hem : e ∈ standalone (ofRoots ds ds) ds) (hne : d ≠ e) :
    List.Disjoint ((placements (ofRoots ds ds) d).map (·.2.declaration))
      ((placements (ofRoots ds ds) e).map (·.2.declaration)) := by
  obtain ⟨hdmem, hdalone⟩ := (mem_standalone hd).mp hdm
  obtain ⟨hemem, healone⟩ := (mem_standalone hd).mp hem
  intro c hcd hce
  rcases mem_written hd hdmem hcd with rfl | ⟨hdk, hcd⟩
  · rcases mem_written hd hemem hce with rfl | ⟨hek, hce⟩
    · exact hne rfl
    · obtain ⟨-, hk, hsup⟩ := mem_childrenOf.mp hce
      exact hdalone hk e hemem hek hsup
  · obtain ⟨hcmem, hk, hdsup⟩ := mem_childrenOf.mp hcd
    rcases mem_written hd hemem hce with rfl | ⟨hek, hce⟩
    · exact healone hk d hdmem hdk hdsup
    · obtain ⟨-, -, hesup⟩ := mem_childrenOf.mp hce
      refine hone c hcmem ⟨_, hdsup, _, hesup, ?_, ⟨d, hdmem, hdk, rfl⟩, ⟨e, hemem, hek, rfl⟩⟩
      intro hname
      exact hne (hd.eq_of_name hdmem hemem hname)

theorem declarations_placed_nodup (hd : NamesDistinct ds) (hone : ∀ d ∈ ds, ¬ExtendsSeveral ds d) :
    ((placed (planned o ds).sheets).map (·.2.declaration)).Nodup := by
  refine ((placed_perm o ds).map _).nodup_iff.mpr ?_
  rw [List.map_flatMap, List.nodup_flatMap]
  have hnodup : (standalone (ofRoots ds ds) ds).Nodup := hd.nodup.sublist List.filter_sublist
  refine ⟨fun d hdm => written_nodup hd ((mem_standalone hd).mp hdm).1, ?_⟩
  exact hnodup.pairwise_of_forall_ne fun d hdm e hem hne => written_disjoint hd hone hdm hem hne

theorem declaration_mem_of_stands {unit : String} {b : Origin} (h : Stands ds unit b) :
    b.declaration ∈ ds := by
  cases h <;> assumption

theorem names_placed_nodup (hd : NamesDistinct ds) (hone : ∀ d ∈ ds, ¬ExtendsSeveral ds d) :
    ((placed (planned o ds).sheets).map (·.2.declaration.qualifiedName)).Nodup := by
  have hmap : (placed (planned o ds).sheets).map (·.2.declaration.qualifiedName) =
      ((placed (planned o ds).sheets).map (·.2.declaration)).map (·.qualifiedName) := by
    rw [List.map_map]
    rfl
  rw [hmap]
  refine (declarations_placed_nodup hd hone).map_on ?_
  intro c hc e he hname
  obtain ⟨p, hp, rfl⟩ := List.mem_map.mp hc
  obtain ⟨q, hq, rfl⟩ := List.mem_map.mp he
  exact hd.eq_of_name (declaration_mem_of_stands ((mem_placed_iff hd).mp hp))
    (declaration_mem_of_stands ((mem_placed_iff hd).mp hq)) hname

theorem children_placements_sublist (hd : NamesDistinct ds) {d : Declaration} (hmem : d ∈ ds) :
    ((placements (ofRoots ds ds) d).flatMap (·.2.children)).Sublist
      ((placements (ofRoots ds ds) d).map (·.2.declaration)) := by
  rcases placements_shape hd hmem with hnil | ⟨unit, b, -, -, -, hshape⟩
  · rw [hnil]
    exact List.Sublist.refl _
  · rw [hshape]
    simp [Origin.children, Origin.declaration, List.flatMap_map, Function.comp_def]

theorem names_children_nodup (hd : NamesDistinct ds) (hone : ∀ d ∈ ds, ¬ExtendsSeveral ds d) :
    (((placed (planned o ds).sheets).flatMap (·.2.children)).map (·.qualifiedName)).Nodup := by
  have hperm := ((placed_perm o ds).flatMap_right (·.2.children)).map (·.qualifiedName)
  refine hperm.nodup_iff.mpr ?_
  rw [List.flatMap_assoc]
  have hsub := List.Sublist.flatMap_right (standalone (ofRoots ds ds) ds) fun d hdm =>
    children_placements_sublist hd ((mem_standalone hd).mp hdm).1
  refine List.Nodup.sublist (hsub.map _) ?_
  have hnames := names_placed_nodup (o := o) hd hone
  rw [((placed_perm o ds).map _).nodup_iff] at hnames
  simpa only [List.map_flatMap, List.map_map, Function.comp_def] using hnames

/-! ### On the pages of a pass -/

variable {e : Emitter}

/-- A block that stands somewhere is all that is written under its name. -/
theorem definitionsOf_of_stands (hd : NamesDistinct ds) (hone : ∀ d ∈ ds, ¬ExtendsSeveral ds d)
    {unit : String} {b : Origin} (h : Stands ds unit b) :
    definitionsOf ((planned o ds).sheets.map (Sheet.page e)) b.declaration.qualifiedName =
      [(unit, b)] := by
  unfold definitionsOf
  rw [definitions_pages]
  exact filter_key_eq_singleton (fun p : String × Origin => p.2.declaration.qualifiedName)
    (names_placed_nodup hd hone) ((mem_placed_iff hd).mpr h)

theorem definitionsOf_eq_nil (hd : NamesDistinct ds) {name : String}
    (h : ∀ unit b, Stands ds unit b → b.declaration.qualifiedName ≠ name) :
    definitionsOf ((planned o ds).sheets.map (Sheet.page e)) name = [] := by
  unfold definitionsOf
  rw [definitions_pages]
  exact filter_key_eq_nil _ fun p hp => h p.1 p.2 ((mem_placed_iff hd).mp hp)

/-- What has no place is neither a child nor has it a unit of its own, unless as a root without
children. -/
theorem definitionsOf_unplaced (hd : NamesDistinct ds) {es : List Declaration}
    (hes : NamesDistinct es) (hsub : ∀ d ∈ ds, d ∈ es) {d : Declaration} (hmem : d ∈ es)
    (hchild : d.kind = .record →
      ∀ r ∈ ds, r.kind = .sealedRoot → r.qualifiedName ∉ d.supertypes)
    (hown : d.sourceUnit = none ∨
      (d.kind = .sealedRoot ∧ childrenOf d.qualifiedName ds = [])) :
    definitionsOf ((planned o ds).sheets.map (Sheet.page e)) d.qualifiedName = [] := by
  refine definitionsOf_eq_nil hd fun unit b hb hname => ?_
  have heq : b.declaration = d :=
    hes.eq_of_name (hsub _ (declaration_mem_of_stands hb)) hmem hname
  cases hb with
  | @child c r _ _ hk hr hrk hsup _ =>
    subst heq
    exact hchild hk r hr hrk hsup
  | record _ hk _ hunit | enumeration _ hk hunit =>
    subst heq
    rcases hown with hnone | ⟨hroot, -⟩
    · rw [Origin.declaration, hunit] at hnone
      cases hnone
    · rw [Origin.declaration, hk] at hroot
      cases hroot
  | union _ _ hunit hne =>
    subst heq
    rcases hown with hnone | ⟨-, hempty⟩
    · rw [Origin.declaration, hunit] at hnone
      cases hnone
    · exact hne hempty

theorem variantsOf_child (hd : NamesDistinct ds) (hone : ∀ d ∈ ds, ¬ExtendsSeveral ds d)
    {r d : Declaration} {unit : String} (hr : r ∈ ds) (hrk : r.kind = .sealedRoot)
    (hunit : r.sourceUnit = some unit) (hc : d ∈ childrenOf r.qualifiedName ds) :
    variantsOf ((planned o ds).sheets.map (Sheet.page e)) d.qualifiedName = [(r, d)] := by
  have hmem : (r, d) ∈ (placed (planned o ds).sheets).flatMap fun p =>
      p.2.children.map (p.2.declaration, ·) := by
    refine List.mem_flatMap.mpr ⟨(unit, .union ⟨r, childrenOf r.qualifiedName ds⟩), ?_, ?_⟩
    · exact (mem_placed_iff hd).mpr (.union hr hrk hunit (List.ne_nil_of_mem hc))
    · exact List.mem_map.mpr ⟨d, hc, rfl⟩
  have hnames : (((placed (planned o ds).sheets).flatMap fun p =>
      p.2.children.map (p.2.declaration, ·)).map (·.2.qualifiedName)).Nodup := by
    have hchildren := names_children_nodup (o := o) hd hone
    rw [List.map_flatMap] at hchildren ⊢
    simpa only [List.map_map, Function.comp_def] using hchildren
  unfold variantsOf
  rw [variants_pages]
  exact filter_key_eq_singleton (fun p : Declaration × Declaration => p.2.qualifiedName) hnames hmem

theorem mem_of_variants (hd : NamesDistinct ds) {v : Declaration × Declaration}
    (h : v ∈ variants ((planned o ds).sheets.map (Sheet.page e))) :
    v.1 ∈ ds ∧ v.2 ∈ childrenOf v.1.qualifiedName ds := by
  rw [variants_pages] at h
  obtain ⟨⟨unit, b⟩, hb, hv⟩ := List.mem_flatMap.mp h
  obtain ⟨c, hc, rfl⟩ := List.mem_map.mp hv
  cases (mem_placed_iff hd).mp hb with
  | child | record | enumeration => cases hc
  | union hr _ _ _ => exact ⟨hr, hc⟩

theorem union_infix (hd : NamesDistinct ds) {r : Declaration} {unit : String} (hr : r ∈ ds)
    (hrk : r.kind = .sealedRoot) (hunit : r.sourceUnit = some unit)
    (hne : childrenOf r.qualifiedName ds ≠ []) :
    (unit, .union ⟨r, childrenOf r.qualifiedName ds⟩) ::
      (childrenOf r.qualifiedName ds).map (fun d => (unit, .record d)) <:+:
        definitions ((planned o ds).sheets.map (Sheet.page e)) := by
  have hgroup : r ∈ (planned o ds).groups.flatMap (·.declarations) :=
    List.mem_flatMap.mpr (exists_group_of_root o hd hr hrk (by
      rw [hunit]
      exact Option.some_ne_none unit))
  obtain ⟨before, after, hsplit⟩ := List.append_of_mem hgroup
  have horigins : placements (planned o ds).hierarchies r =
      (unit, .union ⟨r, childrenOf r.qualifiedName ds⟩) ::
        (childrenOf r.qualifiedName ds).map (fun d => (unit, .record d)) := by
    unfold planned
    rw [placements_of_unit hunit, origins_root hd hr hrk, if_neg (by simpa using hne),
      List.map_cons, List.map_map]
    rfl
  rw [definitions_pages, placed_planned, hsplit, List.flatMap_append, List.flatMap_cons, horigins,
    ← List.append_assoc]
  exact List.infix_append _ _ _

end Distinct

/-! ## The declarations of a pass -/

namespace Generator

theorem childrenOf_selected (g : Generator) (model : List Declaration) (root : String) :
    Hierarchy.childrenOf root (g.selected model) =
      Hierarchy.childrenOf root (model.filter g.isEligible) := by
  unfold Hierarchy.childrenOf selected
  rw [List.filter_filter]
  refine List.filter_congr fun d _ => ?_
  cases hk : d.kind <;> simp [isPlaceable, Declaration.isSealedRoot, hk]

theorem mem_selected_of_ne {g : Generator} {model : List Declaration} {d : Declaration}
    (hd : d ∈ model.filter g.isEligible) (hk : d.kind ≠ .sealedRoot) : d ∈ g.selected model :=
  mem_selected.mpr ⟨hd, fun h => hk h.1⟩

theorem mem_selected_of_unit {g : Generator} {model : List Declaration} {d : Declaration}
    (hd : d ∈ model.filter g.isEligible) (hu : d.sourceUnit ≠ none) : d ∈ g.selected model :=
  mem_selected.mpr ⟨hd, fun h => hu h.2⟩

/-- The roots of a pass are the sealed roots that have a file. -/
theorem hasPlacedRoot_iff {g : Generator} {model : List Declaration} {d : Declaration} :
    HasPlacedRoot (model.filter g.isEligible) d ↔
      ∃ r ∈ g.selected model, r.kind = .sealedRoot ∧ r.qualifiedName ∈ d.supertypes := by
  constructor
  · intro h
    obtain ⟨r, hr, hk, hu, hsup⟩ := h
    exact ⟨r, mem_selected_of_unit hr hu, hk, hsup⟩
  · intro h
    obtain ⟨r, hr, hk, hsup⟩ := h
    obtain ⟨hmem, hplace⟩ := mem_selected.mp hr
    exact ⟨r, hmem, hk, fun hu => hplace ⟨hk, hu⟩, hsup⟩

theorem distinct_selected {g : Generator} {model : List Declaration}
    (h : NamesDistinct (model.filter g.isEligible)) : NamesDistinct (g.selected model) :=
  h.sublist List.filter_sublist

/-! ### Events -/

theorem rootWithoutUnit_mem_report {g : Generator} {model : List Declaration} {r : Declaration}
    (hr : r ∈ model.filter g.isEligible) (hk : r.kind = .sealedRoot) (hu : r.sourceUnit = none) :
    .rootWithoutUnit r.qualifiedName ∈ g.report model := by
  have hplace : isPlaceable r = false := by simp [isPlaceable, Declaration.isSealedRoot, hk, hu]
  have hmem : .rootWithoutUnit r.qualifiedName ∈ g.rootsWithoutUnit model :=
    List.mem_map.mpr ⟨r, List.mem_filter.mpr ⟨hr, by rw [hplace]; rfl⟩, rfl⟩
  simp only [report, List.mem_append]
  exact Or.inl (Or.inl (Or.inl (Or.inl hmem)))

theorem declarationWithoutUnit_mem_report {g : Generator} {model : List Declaration}
    {hs : List Hierarchy} (hl : g.hierarchies (g.selected model) = .ok hs) {d : Declaration}
    (hd : d ∈ standalone hs (g.selected model)) (hu : d.sourceUnit = none) :
    .declarationWithoutUnit d.qualifiedName ∈ g.report model := by
  have hmem : .declarationWithoutUnit d.qualifiedName ∈
      withoutUnit (standalone hs (g.selected model)) :=
    List.mem_map.mpr ⟨d, List.mem_filter.mpr ⟨hd, by rw [hu]; rfl⟩, rfl⟩
  simp only [report, List.mem_append, groupingEvents, hl]
  exact Or.inl (Or.inr hmem)

theorem emptyHierarchy_mem_report {g : Generator} {model : List Declaration} {l : Layout}
    (hl : g.layout (g.selected model) = .ok l) {group : Group} (hgroup : group ∈ l.groups)
    {r : Declaration} (hr : Piece.empty r ∈ pieces l.hierarchies group) :
    .emptyHierarchy r.qualifiedName ∈ g.report model := by
  have hmem : .emptyHierarchy r.qualifiedName ∈ g.groupEvents l.hierarchies group := by
    refine List.mem_append_left _ (List.mem_flatMap.mpr ⟨.empty r, hr, ?_⟩)
    exact List.mem_singleton.mpr rfl
  simp only [report, List.mem_append, writingEvents, hl]
  exact Or.inr (Or.inl (List.mem_flatMap.mpr ⟨group, hgroup, hmem⟩))

theorem hierarchies_of_layout {g : Generator} {ds : List Declaration} {l : Layout}
    (h : g.layout ds = .ok l) : g.hierarchies ds = .ok (Hierarchy.ofRoots ds ds) := by
  obtain ⟨hname, hone, -, -⟩ := layout_eq_ok_iff.mp h
  have hcollect : Hierarchy.collect ds = .ok (Hierarchy.ofRoots ds ds) := by
    refine Hierarchy.collect_eq_ok_iff.mpr ⟨fun d hd => ?_, rfl⟩
    rw [← Bool.not_eq_true, Hierarchy.hasSeveralParents_iff]
    exact hone d hd
  unfold hierarchies
  rw [hname, hcollect]
  rfl

theorem fileNames_nodup {g : Generator} {ds : List Declaration} {l : Layout}
    (h : g.layout ds = .ok l) :
    ((l.sheets.map (Sheet.file g.emitter)).map (·.name)).Nodup := by
  obtain ⟨-, -, hfree, rfl⟩ := layout_eq_ok_iff.mp h
  have hnames := (collision?_eq_none_iff.mp hfree).2
  refine List.Nodup.sublist ?_ hnames
  have hsub := (List.filter_sublist (p := fun s : Sheet => !s.origins.isEmpty)
    (l := (planned g.config.ordering ds).groups.map
      (Group.sheet (planned g.config.ordering ds).hierarchies))).map
    fun s => Naming.fileName s.unit
  simpa only [List.map_map, Function.comp_def, Layout.sheets, Group.sheet, Sheet.file] using hsub

/-- A pass that succeeds writes every eligible declaration once and in its place, or tells that it
does not write it. -/
theorem every_declaration_accounted (g : Generator) {model : List Declaration} {files : List File}
    (hnames : NamesDistinct (model.filter g.isEligible)) (hfiles : g.generate model = .ok files) :
    ∃ pages : List Page,
      Printed g.config.modFile pages files ∧
        ((pages.map Page.file).map (·.name)).Nodup ∧
        (∀ page ∈ pages, ∀ p ∈ page.passages, p.IsWritten g.config.escapeTemplate) ∧
        Accounted (model.filter g.isEligible) pages (g.report model) := by
  obtain ⟨ss, hss, rfl⟩ := generate_eq_ok_iff.mp hfiles
  have hd := distinct_selected hnames
  have hsub : ∀ d ∈ g.selected model, d ∈ model.filter g.isEligible := fun d hd =>
    (mem_selected.mp hd).1
  obtain ⟨hl, rfl⟩ := sheets_eq_ok_iff.mp hss
  obtain ⟨-, hone, -, -⟩ := layout_eq_ok_iff.mp hl
  refine ⟨_, printed_pages g _, ?_, fun page hpage p hp => ?_, ?_⟩
  · rw [Sheet.files_pages]
    exact fileNames_nodup hl
  · obtain ⟨s, -, rfl⟩ := List.mem_map.mp hpage
    exact Sheet.isWritten_of_mem_page hp
  · constructor
    case child =>
      intro d hdm hk r hr hrk unit hunit hsup
      have hrm := mem_selected_of_unit hr (by rw [hunit]; exact Option.some_ne_none _)
      have hdm := mem_selected_of_ne hdm (by rw [hk]; decide)
      exact ⟨variantsOf_child hd hone hrm hrk hunit (Hierarchy.mem_childrenOf.mpr ⟨hdm, hk, hsup⟩),
        definitionsOf_of_stands hd hone (.child hdm hk hrm hrk hsup hunit)⟩
    case record =>
      intro d hdm hk hno unit hunit
      rw [hasPlacedRoot_iff] at hno
      have hdm := mem_selected_of_ne hdm (by rw [hk]; decide)
      exact definitionsOf_of_stands hd hone
        (.record hdm hk (fun r hr hrk hsup => hno ⟨r, hr, hrk, hsup⟩) hunit)
    case enumeration =>
      intro d hdm hk unit hunit
      exact definitionsOf_of_stands hd hone
        (.enumeration (mem_selected_of_ne hdm (by rw [hk]; decide)) hk hunit)
    case union =>
      intro r hr hrk unit hunit hne
      have hrm := mem_selected_of_unit hr (by rw [hunit]; exact Option.some_ne_none _)
      rw [← childrenOf_selected] at hne ⊢
      exact ⟨definitionsOf_of_stands hd hone (.union hrm hrk hunit hne),
        union_infix hd hrm hrk hunit hne⟩
    case withoutUnit =>
      intro d hdm hu hk hno
      have hdsel := mem_selected_of_ne hdm hk
      have halone : d.kind = .record →
          ∀ r ∈ g.selected model, r.kind = .sealedRoot → r.qualifiedName ∉ d.supertypes := by
        intro hrec r hr hrk hsup
        exact hno hrec (hasPlacedRoot_iff.mpr ⟨r, hr, hrk, hsup⟩)
      exact ⟨definitionsOf_unplaced hd hnames hsub hdm halone (Or.inl hu),
        declarationWithoutUnit_mem_report (hierarchies_of_layout hl)
          ((mem_standalone hd).mpr ⟨hdsel, halone⟩) hu⟩
    case rootWithoutUnit =>
      intro r hr hrk hu
      exact ⟨definitionsOf_unplaced hd hnames hsub hr (by simp [hrk]) (Or.inl hu),
        rootWithoutUnit_mem_report hr hrk hu⟩
    case childless =>
      intro r hr hrk hu hempty
      have hrm := mem_selected_of_unit hr hu
      rw [← childrenOf_selected] at hempty
      refine ⟨definitionsOf_unplaced hd hnames hsub hr (by simp [hrk]) (Or.inr ⟨hrk, hempty⟩), ?_⟩
      obtain ⟨group, hgroup, hdecl⟩ := exists_group_of_root g.config.ordering hd hrm hrk hu
      refine emptyHierarchy_mem_report hl hgroup (List.mem_map.mpr ⟨r, hdecl, ?_⟩)
      show Piece.ofDeclaration (Hierarchy.ofRoots _ _) r = _
      rw [ofDeclaration_root hd hrm hrk, hempty]
      rfl
    case onlyDefinitions =>
      intro p hp
      rw [definitions_pages] at hp
      exact hsub _ (declaration_mem_of_stands ((mem_placed_iff hd).mp hp))
    case onlyVariants =>
      intro v hv
      obtain ⟨hr, hc⟩ := mem_of_variants hd hv
      rw [childrenOf_selected] at hc
      exact ⟨hsub _ hr, hc⟩

/-- A hierarchy over two units, a root without children, and declarations without unit. -/
def sketches : List Declaration :=
  [marked ((Declaration.sealedRoot "geo.Shape").inUnit "Shape.kt"),
    marked (((Declaration.record "geo.Disc" []).extending "geo.Shape").inUnit "Disc.kt"),
    marked ((Declaration.record "geo.Square" []).extending "geo.Shape"),
    marked ((Declaration.enumeration "geo.Side" []).inUnit "Disc.kt"),
    marked ((Declaration.sealedRoot "geo.Curve").inUnit "Curve.kt"),
    marked (Declaration.record "geo.Point" []),
    marked (Declaration.sealedRoot "geo.Solid")]

theorem sketches_accounted :
    NamesDistinct (sketches.filter standard.isEligible) ∧
      ∃ files, standard.generate sketches = .ok files ∧ ∃ pages : List Page,
        Printed standard.config.modFile pages files ∧
          ((pages.map Page.file).map (·.name)).Nodup ∧
          (∀ page ∈ pages, ∀ p ∈ page.passages,
            p.IsWritten standard.config.escapeTemplate) ∧
          Accounted (sketches.filter standard.isEligible) pages (standard.report sketches) := by
  have hnames : NamesDistinct (sketches.filter standard.isEligible) := by
    unfold NamesDistinct
    decide
  exact ⟨hnames, _, rfl, every_declaration_accounted standard hnames rfl⟩

end Generator

end Facsimile
