import Facsimile.Proofs.Refusal
import Mathlib.Data.List.Dedup
import Mathlib.Data.List.Induction

/-!
# Hierarchies by index

The hierarchies of a list collected in one table, with an index from names into it: a first loop
enters each sealed root at the next position, and a second one adds each record to the hierarchy at
the position that its supertypes lead to.  `collect_hierarchies` says that this is
`Hierarchy.collect`, in its failures too, and `collect_sound` that no position is out of bounds and
what the table holds, for lists in which names and supertypes repeat in any way.
-/

namespace Facsimile

/-- Hierarchies, with the positions of the one that a root's name means and of the one that a
child's name belongs to. -/
structure Registry where
  hierarchies : List Hierarchy
  ofRoot : List (String × Nat)
  ofChild : List (String × Nat)

namespace Registry

def empty : Registry := ⟨[], [], []⟩

/-- A root takes the next position, which is what its name means from then on. -/
def register (r : Registry) (d : Declaration) : Registry :=
  { r with
    hierarchies := r.hierarchies ++ [⟨d, []⟩]
    ofRoot := (d.qualifiedName, r.hierarchies.length) :: r.ofRoot }

/-- The positions that the supertypes of a declaration lead to, ascending and each once. -/
def homes (r : Registry) (d : Declaration) : List Nat :=
  ((d.supertypes.filterMap (r.ofRoot.lookup ·)).mergeSort).dedup

def addChild (r : Registry) (d : Declaration) (i : Nat) : Registry :=
  { r with
    hierarchies := r.hierarchies.modify i fun h => { h with children := h.children ++ [d] }
    ofChild := (d.qualifiedName, i) :: r.ofChild }

def rootNames (r : Registry) (positions : List Nat) : List String :=
  positions.filterMap fun i => r.hierarchies[i]?.map (·.root.qualifiedName)

def attach (r : Registry) (d : Declaration) : Except SeveralParents Registry :=
  match r.homes d with
  | [] => .ok r
  | [i] => .ok (if d.kind = .record then r.addChild d i else r)
  | several => .error ⟨d.qualifiedName, r.rootNames several⟩

/-- The table of the first loop. -/
def ofRoots (roots : List Declaration) : Registry := roots.foldl register empty

def collect (ds : List Declaration) : Except SeveralParents Registry :=
  ds.foldlM attach (ofRoots (ds.filter Declaration.isSealedRoot))

/-- The hierarchy of a name, `some none` standing for a position that is out of bounds. -/
def get? (r : Registry) (d : Declaration) : Option (Option Hierarchy) :=
  (r.ofRoot.lookup d.qualifiedName).map (r.hierarchies[·]?)

def isVariant (r : Registry) (d : Declaration) : Bool :=
  (r.ofChild.lookup d.qualifiedName).isSome

/-! ## The first loop -/

theorem ofRoots_concat (roots : List Declaration) (d : Declaration) :
    ofRoots (roots ++ [d]) = (ofRoots roots).register d := by
  unfold ofRoots
  rw [List.foldl_append]
  rfl

@[simp] theorem hierarchies_ofRoots (roots : List Declaration) :
    (ofRoots roots).hierarchies = roots.map (⟨·, []⟩) := by
  induction roots using List.reverseRecOn with
  | nil => rfl
  | append_singleton roots d ih =>
    rw [ofRoots_concat]
    unfold register
    rw [ih, List.map_append]
    rfl

@[simp] theorem ofChild_ofRoots (roots : List Declaration) : (ofRoots roots).ofChild = [] := by
  induction roots using List.reverseRecOn with
  | nil => rfl
  | append_singleton roots d ih => rw [ofRoots_concat]; exact ih

theorem lookup_ofRoots {roots : List Declaration} (hroots : ∀ r ∈ roots, r.kind = .sealedRoot)
    {name : String} {i : Nat} :
    (ofRoots roots).ofRoot.lookup name = some i ↔ LastRootAt roots name i := by
  induction roots using List.reverseRecOn with
  | nil => simp [ofRoots, empty, LastRootAt]
  | append_singleton roots d ih =>
    have hinit : ∀ r ∈ roots, r.kind = .sealedRoot := fun r hr => hroots r (by simp [hr])
    rw [ofRoots_concat, lastRootAt_concat_iff (hroots d (by simp)), ← ih hinit]
    unfold register
    rw [hierarchies_ofRoots, List.length_map, List.lookup_cons]
    by_cases hn : name = d.qualifiedName
    · simp [hn, eq_comm]
    · have hbeq : (name == d.qualifiedName) = false := beq_eq_false_iff_ne.mpr hn
      simp [hbeq, Ne.symm hn]

/-! ## Homes -/

section Homes

variable {roots : List Declaration} (hroots : ∀ r ∈ roots, r.kind = .sealedRoot)
variable {d : Declaration} {i : Nat}

include hroots in
theorem mem_homes : i ∈ (ofRoots roots).homes d ↔ ∃ n ∈ d.supertypes, LastRootAt roots n i := by
  unfold homes
  rw [List.mem_dedup, List.mem_mergeSort, List.mem_filterMap]
  simp only [lookup_ofRoots hroots]

theorem homes_ascending (r : Registry) (d : Declaration) : (r.homes d).Pairwise (· < ·) := by
  have hsorted : (r.homes d).Pairwise fun i j => decide (i ≤ j) = true :=
    (List.pairwise_mergeSort (by simp only [decide_eq_true_eq]; omega)
      (by simp only [Bool.or_eq_true, decide_eq_true_eq]; omega) _).sublist
        (List.dedup_sublist _)
  have hnodup : (r.homes d).Nodup := List.nodup_dedup _
  exact (hsorted.and hnodup).imp fun h => Nat.lt_of_le_of_ne (of_decide_eq_true h.1) h.2

include hroots in
theorem one_lt_length_homes : 1 < ((ofRoots roots).homes d).length ↔ ExtendsSeveral roots d := by
  have hnodup : ((ofRoots roots).homes d).Nodup := List.nodup_dedup _
  rw [Hierarchy.one_lt_length_iff hnodup]
  constructor
  · intro h
    obtain ⟨i, hi, j, hj, hij⟩ := h
    obtain ⟨m, hm, him⟩ := (mem_homes hroots).mp hi
    obtain ⟨n, hn, hjn⟩ := (mem_homes hroots).mp hj
    refine ⟨m, hm, n, hn, ?_, him.namesRoot, hjn.namesRoot⟩
    rintro rfl
    exact hij (him.unique hjn)
  · intro h
    obtain ⟨m, hm, n, hn, hmn, hmr, hnr⟩ := h
    obtain ⟨i, hi⟩ := exists_lastRootAt hmr
    obtain ⟨j, hj⟩ := exists_lastRootAt hnr
    refine ⟨i, (mem_homes hroots).mpr ⟨m, hm, hi⟩, j, (mem_homes hroots).mpr ⟨n, hn, hj⟩, ?_⟩
    rintro rfl
    exact hmn (hi.name_unique hj)

theorem rootName_of_lastRootAt {name : String} (h : LastRootAt roots name i) :
    (ofRoots roots).hierarchies[i]?.map (·.root.qualifiedName) = some name := by
  obtain ⟨⟨r, hr, -, hn⟩, -⟩ := h
  rw [hierarchies_ofRoots, List.getElem?_map, hr, ← hn]
  rfl

include hroots in
/-- The names at the homes of a declaration are those of all roots that it extends. -/
theorem listsParents_homes :
    ListsParents roots d ((ofRoots roots).rootNames ((ofRoots roots).homes d)) := by
  -- a home is the position of the root that one of the supertypes means
  have hhome : ∀ {i}, i ∈ (ofRoots roots).homes d → ∃ n ∈ d.supertypes, LastRootAt roots n i ∧
      (ofRoots roots).hierarchies[i]?.map (·.root.qualifiedName) = some n := by
    intro i hi
    obtain ⟨n, hn, hlast⟩ := (mem_homes hroots).mp hi
    exact ⟨n, hn, hlast, rootName_of_lastRootAt hlast⟩
  unfold rootNames
  constructor
  · intro name
    rw [List.mem_filterMap]
    constructor
    · intro h
      obtain ⟨i, hi, hname⟩ := h
      obtain ⟨n, hn, hlast, hat⟩ := hhome hi
      rw [hat] at hname
      cases hname
      exact ⟨hn, hlast.namesRoot⟩
    · intro h
      obtain ⟨hn, hr⟩ := h
      obtain ⟨i, hi⟩ := exists_lastRootAt hr
      exact ⟨i, (mem_homes hroots).mpr ⟨name, hn, hi⟩, rootName_of_lastRootAt hi⟩
  · rw [List.pairwise_filterMap]
    refine (homes_ascending _ d).imp_of_mem ?_
    intro i j hi hj hij m hm n hn
    obtain ⟨m', -, hmlast, hmat⟩ := hhome hi
    obtain ⟨n', -, hnlast, hnat⟩ := hhome hj
    rw [hmat] at hm
    rw [hnat] at hn
    cases hm
    cases hn
    exact ⟨i, j, hmlast, hnlast, hij⟩

end Homes

/-! ## The second loop -/

/-- A record whose only home is the position `i`. -/
def belongs (r : Registry) (i : Nat) (d : Declaration) : Bool :=
  decide (d.kind = .record) && r.homes d == [i]

theorem belongs_iff {r : Registry} {i : Nat} {d : Declaration} :
    r.belongs i d = true ↔ d.kind = .record ∧ r.homes d = [i] := by
  simp [belongs]

theorem belongs_unique {r : Registry} {i j : Nat} {d : Declaration} (hi : r.belongs i d = true) :
    r.belongs j d = true ↔ i = j := by
  obtain ⟨hk, hhomes⟩ := belongs_iff.mp hi
  rw [belongs_iff, hhomes]
  simp [hk]

/-- The table when the declarations `done` have been attached to the roots. -/
structure Attached (roots done : List Declaration) (r : Registry) : Prop where
  ofRoot : r.ofRoot = (ofRoots roots).ofRoot
  hierarchies :
    r.hierarchies = roots.mapIdx fun i root => ⟨root, done.filter ((ofRoots roots).belongs i)⟩
  ofChild : ∀ {name i},
    (name, i) ∈ r.ofChild ↔ ∃ d ∈ done, (ofRoots roots).belongs i d ∧ d.qualifiedName = name

namespace Attached

variable {roots done : List Declaration} {r : Registry} {d : Declaration} {i : Nat}

theorem start (roots : List Declaration) : Attached roots [] (ofRoots roots) where
  ofRoot := rfl
  hierarchies := by
    rw [hierarchies_ofRoots]
    refine List.ext_getElem? fun i => ?_
    simp
  ofChild := by simp

theorem homes_eq (h : Attached roots done r) (d : Declaration) :
    r.homes d = (ofRoots roots).homes d := by
  unfold Registry.homes
  rw [h.ofRoot]

theorem rootNames_eq (h : Attached roots done r) (positions : List Nat) :
    r.rootNames positions = (ofRoots roots).rootNames positions := by
  unfold Registry.rootNames
  congr 1
  funext i
  rw [h.hierarchies, hierarchies_ofRoots, List.getElem?_mapIdx, List.getElem?_map]
  cases roots[i]? <;> rfl

theorem skip (h : Attached roots done r) (hd : ∀ i, (ofRoots roots).belongs i d = false) :
    Attached roots (done ++ [d]) r where
  ofRoot := h.ofRoot
  hierarchies := by
    rw [h.hierarchies]
    simp [List.filter_append, hd]
  ofChild := by
    intro name i
    rw [h.ofChild]
    simp [or_and_right, exists_or, hd]

theorem add (h : Attached roots done r) (hd : (ofRoots roots).belongs i d = true) :
    Attached roots (done ++ [d]) (r.addChild d i) where
  ofRoot := h.ofRoot
  hierarchies := by
    refine List.ext_getElem? fun j => ?_
    unfold addChild
    rw [List.getElem?_modify, h.hierarchies, List.getElem?_mapIdx, List.getElem?_mapIdx,
      List.filter_append, Option.map_eq_map, Option.map_map]
    refine congrArg (Option.map · roots[j]?) (funext fun root => ?_)
    by_cases hj : i = j
    · simp [hj, (belongs_unique hd).mpr hj]
    · simp [hj, (belongs_unique hd).not.mpr hj]
  ofChild := by
    intro name j
    unfold addChild
    rw [List.mem_cons, h.ofChild, Prod.mk.injEq]
    constructor
    · intro hj
      rcases hj with ⟨rfl, rfl⟩ | ⟨c, hc, hj, hn⟩
      · exact ⟨d, by simp, hd, rfl⟩
      · exact ⟨c, by simp [hc], hj, hn⟩
    · intro hj
      obtain ⟨c, hc, hj, hn⟩ := hj
      rcases List.mem_append.mp hc with hc | hc
      · exact Or.inr ⟨c, hc, hj, hn⟩
      · obtain rfl := List.mem_singleton.mp hc
        exact Or.inl ⟨hn.symm, ((belongs_unique hd).mp hj).symm⟩

/-- What attaching one declaration does. -/
theorem step (h : Attached roots done r) (d : Declaration) :
    (1 < ((ofRoots roots).homes d).length ∧ r.attach d =
        .error ⟨d.qualifiedName, (ofRoots roots).rootNames ((ofRoots roots).homes d)⟩) ∨
      (¬1 < ((ofRoots roots).homes d).length ∧
        ∃ s, r.attach d = .ok s ∧ Attached roots (done ++ [d]) s) := by
  unfold Registry.attach
  rw [h.homes_eq]
  rcases hhomes : (ofRoots roots).homes d with _ | ⟨i, _ | ⟨j, rest⟩⟩
  · refine Or.inr ⟨by simp, r, rfl, h.skip fun i => ?_⟩
    simp [belongs, hhomes]
  · refine Or.inr ⟨by simp, _, rfl, ?_⟩
    by_cases hk : d.kind = .record
    · rw [if_pos hk]
      exact h.add (belongs_iff.mpr ⟨hk, hhomes⟩)
    · rw [if_neg hk]
      exact h.skip fun i => by simp [belongs, hk]
  · refine Or.inl ⟨by simp, ?_⟩
    simp only [h.rootNames_eq]

/-- What attaching the rest of the declarations does: the first with several homes ends it. -/
theorem run (h : Attached roots done r) (ds : List Declaration) :
    (∃ d, FirstWith (fun d => 1 < ((ofRoots roots).homes d).length) ds d ∧
      ds.foldlM Registry.attach r =
        .error ⟨d.qualifiedName, (ofRoots roots).rootNames ((ofRoots roots).homes d)⟩) ∨
      ((∀ d ∈ ds, ¬1 < ((ofRoots roots).homes d).length) ∧
        ∃ s, ds.foldlM Registry.attach r = .ok s ∧ Attached roots (done ++ ds) s) := by
  induction ds generalizing done r with
  | nil => exact Or.inr ⟨by simp, r, rfl, by rwa [List.append_nil]⟩
  | cons d ds ih =>
    rw [List.foldlM_cons]
    rcases h.step d with ⟨hlong, herror⟩ | ⟨hshort, s, hok, hs⟩
    · refine Or.inl ⟨d, ⟨[], ds, rfl, hlong, by simp⟩, ?_⟩
      rw [herror]
      rfl
    · rw [hok]
      rcases ih hs with ⟨e, ⟨before, after, hds, hlong, hbefore⟩, herror⟩ | ⟨hall, t, ht, hattached⟩
      · refine Or.inl ⟨e, ⟨d :: before, after, by rw [hds]; rfl, hlong, ?_⟩, herror⟩
        exact List.forall_mem_cons.mpr ⟨hshort, hbefore⟩
      · refine Or.inr ⟨List.forall_mem_cons.mpr ⟨hshort, hall⟩, t, ht, ?_⟩
        rwa [List.append_assoc] at hattached

end Attached

/-! ## Both loops -/

theorem belongs_iff_mem {r : Registry} {i : Nat} {d : Declaration}
    (hshort : ¬1 < (r.homes d).length) :
    r.belongs i d = true ↔ d.kind = .record ∧ i ∈ r.homes d := by
  rw [belongs_iff]
  refine and_congr_right fun _ => ?_
  rcases hhomes : r.homes d with _ | ⟨j, _ | ⟨k, rest⟩⟩
  · simp
  · simp [eq_comm]
  · simp [hhomes] at hshort

section Collected

variable {ds : List Declaration}

theorem kind_of_mem_roots (ds : List Declaration) :
    ∀ r ∈ ds.filter Declaration.isSealedRoot, r.kind = .sealedRoot := by
  intro r hr
  exact isSealedRoot_iff.mp (List.mem_filter.mp hr).2

theorem one_lt_length_iff_extendsSeveral {d : Declaration} :
    1 < ((ofRoots (ds.filter Declaration.isSealedRoot)).homes d).length ↔
      ExtendsSeveral ds d := by
  rw [one_lt_length_homes (kind_of_mem_roots ds)]
  simp only [ExtendsSeveral, namesRoot_filter_iff]

section Children

variable {i : Nat} (hone : ∀ d ∈ ds, ¬ExtendsSeveral ds d)
include hone

theorem belongs_iff_names {c : Declaration} (hc : c ∈ ds) :
    (ofRoots (ds.filter Declaration.isSealedRoot)).belongs i c = true ↔
      c.kind = .record ∧
        ∃ n ∈ c.supertypes, LastRootAt (ds.filter Declaration.isSealedRoot) n i := by
  rw [belongs_iff_mem (one_lt_length_iff_extendsSeveral.not.mpr (hone c hc)),
    mem_homes (kind_of_mem_roots ds)]

theorem children_of_last {name : String}
    (hlast : LastRootAt (ds.filter Declaration.isSealedRoot) name i) :
    ds.filter ((ofRoots (ds.filter Declaration.isSealedRoot)).belongs i) =
      Hierarchy.childrenOf name ds := by
  refine List.filter_congr fun c hc => ?_
  rw [Bool.eq_iff_iff, belongs_iff_names hone hc]
  simp only [Bool.and_eq_true, beq_iff_eq, List.contains_iff_mem]
  refine and_congr_right fun _ => ⟨fun h => ?_, fun hn => ⟨name, hn, hlast⟩⟩
  obtain ⟨n, hn, hni⟩ := h
  rwa [hlast.name_unique hni]

theorem children_of_shadowed {root : Declaration}
    (hroot : (ds.filter Declaration.isSealedRoot)[i]? = some root)
    (hlast : ¬LastRootAt (ds.filter Declaration.isSealedRoot) root.qualifiedName i) :
    ds.filter ((ofRoots (ds.filter Declaration.isSealedRoot)).belongs i) = [] := by
  refine List.filter_eq_nil_iff.mpr fun c hc hbelongs => ?_
  obtain ⟨-, n, -, hn⟩ := (belongs_iff_names hone hc).mp hbelongs
  obtain ⟨root', hroot', -, rfl⟩ := hn.1
  rw [hroot] at hroot'
  cases hroot'
  exact hlast hn

theorem hierarchies_of_attached {r : Registry}
    (h : Attached (ds.filter Declaration.isSealedRoot) ds r) :
    r.hierarchies = Hierarchy.ofRoots ds ds := by
  refine List.ext_getElem? fun i => ?_
  rw [h.hierarchies, List.getElem?_mapIdx]
  cases hroot : (ds.filter Declaration.isSealedRoot)[i]? with
  | none =>
    rw [← Hierarchy.map_root_ofRoots ds ds, List.getElem?_map, Option.map_eq_none_iff] at hroot
    rw [hroot]
    rfl
  | some root =>
    rw [Option.map_some]
    by_cases hlast : LastRootAt (ds.filter Declaration.isSealedRoot) root.qualifiedName i
    · obtain ⟨root', hroot', -, hat⟩ := Hierarchy.getElem?_ofRoots_of_last ds hlast
      rw [hroot] at hroot'
      cases hroot'
      rw [hat, children_of_last hone hlast]
    · rw [Hierarchy.getElem?_ofRoots_of_shadowed ds hroot hlast,
        children_of_shadowed hone hroot hlast]

end Children

end Collected

/-- What the loops come to. -/
theorem collect_cases (ds : List Declaration) :
    (∃ d, FirstWith (ExtendsSeveral ds) ds d ∧ collect ds = .error ⟨d.qualifiedName,
        (Hierarchy.parents (Hierarchy.lastRoots ds) d).map (·.qualifiedName)⟩) ∨
      ((∀ d ∈ ds, ¬ExtendsSeveral ds d) ∧
        ∃ r, collect ds = .ok r ∧ Attached (ds.filter Declaration.isSealedRoot) ds r) := by
  have h := (Attached.start (ds.filter Declaration.isSealedRoot)).run ds
  simp only [one_lt_length_iff_extendsSeveral, List.nil_append] at h
  refine h.imp_left fun hfail => ?_
  obtain ⟨d, hfirst, herror⟩ := hfail
  have hnames := (listsParents_homes (kind_of_mem_roots ds)).unique
    (listsParents_parents (ds.filter Declaration.isSealedRoot) d)
  rw [Hierarchy.lastRoots_filter] at hnames
  rw [hnames] at herror
  exact ⟨d, hfirst, herror⟩

/-- The loops collect the hierarchies, and fail where and as collecting them does. -/
theorem collect_hierarchies (ds : List Declaration) :
    (collect ds).map (·.hierarchies) = Hierarchy.collect ds := by
  rcases collect_cases ds with ⟨d, hfirst, herror⟩ | ⟨hone, r, hok, hr⟩
  · rw [herror]
    unfold Hierarchy.collect
    simp only [Generator.find?_several_eq_some_iff.mpr hfirst]
    rfl
  · rw [hok]
    refine (Hierarchy.collect_eq_ok_iff.mpr ⟨fun d hd => ?_, ?_⟩).symm
    · rw [← Bool.not_eq_true, Hierarchy.hasSeveralParents_iff]
      exact hone d hd
    · exact hierarchies_of_attached hone hr

/-! ## What is collected -/

/-- The hierarchies of a list: one for each root, in the order of the roots, the last of a name with
every record that names it, in the order of the list, and the others without children. -/
structure Gathers (ds : List Declaration) (hs : List Hierarchy) : Prop where
  roots : hs.map (·.root) = ds.filter Declaration.isSealedRoot
  ofLast : ∀ {i h}, hs[i]? = some h → LastRootAt (hs.map (·.root)) h.root.qualifiedName i →
    h.children =
      ds.filter fun d => d.kind == .record && d.supertypes.contains h.root.qualifiedName
  ofShadowed : ∀ {i h}, hs[i]? = some h →
    ¬LastRootAt (hs.map (·.root)) h.root.qualifiedName i → h.children = []
  records : ∀ h ∈ hs, ∀ c ∈ h.children, c.kind = .record
  apart : hs.Pairwise fun g h => g.children.Disjoint h.children

section Gathered

variable {ds : List Declaration} {i : Nat} {h : Hierarchy}

theorem root_of_getElem? (hi : (Hierarchy.ofRoots ds ds)[i]? = some h) :
    (ds.filter Declaration.isSealedRoot)[i]? = some h.root := by
  rw [← Hierarchy.map_root_ofRoots ds ds, List.getElem?_map, hi]
  rfl

theorem children_of_getElem?_last (hi : (Hierarchy.ofRoots ds ds)[i]? = some h)
    (hlast : LastRootAt (ds.filter Declaration.isSealedRoot) h.root.qualifiedName i) :
    h.children = Hierarchy.childrenOf h.root.qualifiedName ds := by
  obtain ⟨r, -, -, hat⟩ := Hierarchy.getElem?_ofRoots_of_last ds hlast
  rw [hi] at hat
  exact congrArg Hierarchy.children (Option.some.inj hat)

theorem children_of_getElem?_shadowed (hi : (Hierarchy.ofRoots ds ds)[i]? = some h)
    (hlast : ¬LastRootAt (ds.filter Declaration.isSealedRoot) h.root.qualifiedName i) :
    h.children = [] := by
  have hat := Hierarchy.getElem?_ofRoots_of_shadowed ds (root_of_getElem? hi) hlast
  rw [hi] at hat
  exact congrArg Hierarchy.children (Option.some.inj hat)

/-- A child is a record that names the root, which is the last of its name. -/
theorem lastRootAt_of_child (hi : (Hierarchy.ofRoots ds ds)[i]? = some h) {c : Declaration}
    (hc : c ∈ h.children) :
    LastRootAt (ds.filter Declaration.isSealedRoot) h.root.qualifiedName i ∧
      c ∈ ds ∧ c.kind = .record ∧ h.root.qualifiedName ∈ c.supertypes := by
  by_cases hlast : LastRootAt (ds.filter Declaration.isSealedRoot) h.root.qualifiedName i
  · rw [children_of_getElem?_last hi hlast] at hc
    exact ⟨hlast, Hierarchy.mem_childrenOf.mp hc⟩
  · rw [children_of_getElem?_shadowed hi hlast] at hc
    cases hc

theorem gathers_ofRoots (hone : ∀ d ∈ ds, ¬ExtendsSeveral ds d) :
    Gathers ds (Hierarchy.ofRoots ds ds) where
  roots := Hierarchy.map_root_ofRoots ds ds
  ofLast := by
    intro i h hi hlast
    rw [Hierarchy.map_root_ofRoots] at hlast
    exact children_of_getElem?_last hi hlast
  ofShadowed := by
    intro i h hi hlast
    rw [Hierarchy.map_root_ofRoots] at hlast
    exact children_of_getElem?_shadowed hi hlast
  records := by
    intro h hh c hc
    obtain ⟨i, hi⟩ := List.getElem?_of_mem hh
    exact (lastRootAt_of_child hi hc).2.2.1
  apart := by
    refine List.pairwise_iff_getElem.mpr fun i j hi hj hij c hci hcj => ?_
    obtain ⟨hlasti, hc, -, hni⟩ := lastRootAt_of_child (List.getElem?_eq_getElem hi) hci
    obtain ⟨hlastj, -, -, hnj⟩ := lastRootAt_of_child (List.getElem?_eq_getElem hj) hcj
    refine hone c hc ⟨_, hni, _, hnj, ?_, namesRoot_filter_iff.mp hlasti.namesRoot,
      namesRoot_filter_iff.mp hlastj.namesRoot⟩
    intro heq
    rw [heq] at hlasti
    exact Nat.ne_of_lt hij (hlasti.unique hlastj)

end Gathered

/-- Every position that is stored is that of a hierarchy. -/
def InBounds (r : Registry) : Prop :=
  (∀ p ∈ r.ofRoot, p.2 < r.hierarchies.length) ∧ ∀ p ∈ r.ofChild, p.2 < r.hierarchies.length

theorem lt_of_mem_ofRoot {roots : List Declaration} :
    ∀ p ∈ (ofRoots roots).ofRoot, p.2 < roots.length := by
  induction roots using List.reverseRecOn with
  | nil => simp [ofRoots, empty]
  | append_singleton roots d ih =>
    rw [ofRoots_concat, List.length_append]
    unfold register
    rw [hierarchies_ofRoots, List.length_map]
    refine List.forall_mem_cons.mpr ⟨Nat.lt_succ_self _, fun p hp => ?_⟩
    exact Nat.lt_succ_of_lt (ih p hp)

section Finished

variable {ds : List Declaration} {r : Registry}
variable (hr : Attached (ds.filter Declaration.isSealedRoot) ds r)
include hr

theorem roots_of_attached :
    r.hierarchies.map (·.root) = ds.filter Declaration.isSealedRoot := by
  refine List.ext_getElem? fun i => ?_
  rw [hr.hierarchies, List.getElem?_map, List.getElem?_mapIdx, Option.map_map]
  exact Option.map_id_apply

theorem getElem?_of_belongs {i : Nat} {c : Declaration}
    (hc : (ofRoots (ds.filter Declaration.isSealedRoot)).belongs i c = true) :
    ∃ root, r.hierarchies[i]? =
      some ⟨root, ds.filter ((ofRoots (ds.filter Declaration.isSealedRoot)).belongs i)⟩ := by
  have hhome : i ∈ (ofRoots (ds.filter Declaration.isSealedRoot)).homes c := by
    rw [(belongs_iff.mp hc).2]
    exact List.mem_singleton_self _
  obtain ⟨n, -, ⟨root, hroot, -, -⟩, -⟩ := (mem_homes (kind_of_mem_roots ds)).mp hhome
  refine ⟨root, ?_⟩
  rw [hr.hierarchies, List.getElem?_mapIdx, hroot]
  rfl

theorem inBounds_of_attached : r.InBounds := by
  constructor
  · rw [hr.ofRoot, hr.hierarchies, List.length_mapIdx]
    exact lt_of_mem_ofRoot
  · intro p hp
    obtain ⟨c, -, hc, -⟩ := hr.ofChild.mp hp
    obtain ⟨root, hroot⟩ := getElem?_of_belongs hr hc
    exact (List.getElem?_eq_some_iff.mp hroot).1

theorem get?_of_attached (d : Declaration) :
    r.get? d = (Hierarchy.get? r.hierarchies d).map some := by
  have hkinds := Hierarchy.kinds_of_roots (roots_of_attached hr)
  have hlookup : ∀ i, r.ofRoot.lookup d.qualifiedName = some i ↔
      LastRootAt (r.hierarchies.map (·.root)) d.qualifiedName i := by
    intro i
    rw [hr.ofRoot, roots_of_attached hr, lookup_ofRoots (kind_of_mem_roots ds)]
  unfold get?
  cases hat : r.ofRoot.lookup d.qualifiedName with
  | none =>
    rw [(Hierarchy.get?_eq_none_iff hkinds).mpr]
    · rfl
    · intro hname
      obtain ⟨i, hi⟩ := exists_lastRootAt hname
      rw [(hlookup i).mpr hi] at hat
      cases hat
  | some i =>
    have hlast := (hlookup i).mp hat
    obtain ⟨root, hroot, -, -⟩ := hlast.1
    rw [List.getElem?_map, Option.map_eq_some_iff] at hroot
    obtain ⟨h, hh, -⟩ := hroot
    rw [Hierarchy.get?_of_lastRootAt hkinds hlast hh, Option.map_some, hh]
    rfl

theorem isVariant_of_attached (d : Declaration) :
    r.isVariant d = Hierarchy.isVariant r.hierarchies d := by
  unfold isVariant Hierarchy.isVariant
  rw [Bool.eq_iff_iff, List.lookup_isSome_iff]
  simp only [List.any_eq_true, beq_iff_eq]
  constructor
  · intro h
    obtain ⟨⟨name, i⟩, hp, hname⟩ := h
    obtain ⟨c, hmem, hc, rfl⟩ := hr.ofChild.mp hp
    obtain ⟨root, hroot⟩ := getElem?_of_belongs hr hc
    exact ⟨_, List.mem_of_getElem? hroot, c, List.mem_filter.mpr ⟨hmem, hc⟩, hname.symm⟩
  · intro h
    obtain ⟨g, hg, c, hc, hname⟩ := h
    rw [hr.hierarchies, List.mem_mapIdx] at hg
    obtain ⟨i, hi, rfl⟩ := hg
    obtain ⟨hmem, hbelongs⟩ := List.mem_filter.mp hc
    exact ⟨(c.qualifiedName, i), hr.ofChild.mpr ⟨c, hmem, hbelongs, rfl⟩, hname.symm⟩

end Finished

/-- Collecting hierarchies never meets a position that is out of bounds, and gives one hierarchy for
each root with the children that its name makes it have.  A declaration has a hierarchy exactly if a
root goes by its name, which is then that of the last such root, and is a variant exactly if a child
goes by its name. -/
theorem collect_sound {ds : List Declaration} {hs : List Hierarchy}
    (h : Hierarchy.collect ds = .ok hs) :
    ∃ r, collect ds = .ok r ∧ r.hierarchies = hs ∧ r.InBounds ∧ Gathers ds hs ∧
      (∀ d, r.get? d = (Hierarchy.get? hs d).map some) ∧
      (∀ d, (r.get? d).isSome ↔ NamesRoot ds d.qualifiedName) ∧
      (∀ d i, LastRootAt (hs.map (·.root)) d.qualifiedName i → r.get? d = some hs[i]?) ∧
      (∀ d, r.isVariant d = Hierarchy.isVariant hs d) ∧
      ∀ d, r.isVariant d = true ↔
        ∃ g ∈ hs, ∃ c ∈ g.children, c.qualifiedName = d.qualifiedName := by
  rcases collect_cases ds with ⟨d, -, herror⟩ | ⟨hone, r, hok, hr⟩
  · rw [← collect_hierarchies, herror] at h
    cases h
  · rw [← collect_hierarchies, hok] at h
    cases h
    have hgathers : Gathers ds r.hierarchies := by
      rw [hierarchies_of_attached hone hr]
      exact gathers_ofRoots hone
    refine ⟨r, hok, rfl, inBounds_of_attached hr, hgathers, get?_of_attached hr, fun d => ?_,
      fun d i hlast => ?_, isVariant_of_attached hr, fun d => ?_⟩
    · have hkinds := Hierarchy.kinds_of_roots (roots_of_attached hr)
      rw [get?_of_attached hr, Option.isSome_map, Option.isSome_iff_ne_none, ne_eq,
        Hierarchy.get?_eq_none_iff hkinds, not_not, roots_of_attached hr, namesRoot_filter_iff]
    · unfold get?
      rw [roots_of_attached hr, ← lookup_ofRoots (kind_of_mem_roots ds), ← hr.ofRoot] at hlast
      rw [hlast, Option.map_some]
    · simp [isVariant_of_attached hr, Hierarchy.isVariant]

/-- Two roots of one name, the second of which names itself, and a record that stands before them
and behind them and names them twice. -/
def namesakes : List Declaration :=
  let leaf := ((Declaration.record "m.Leaf" []).extending "m.Tree").extending "m.Tree"
  [leaf, Declaration.sealedRoot "m.Tree", (Declaration.enumeration "m.Side" []).extending "m.Tree",
    (Declaration.sealedRoot "m.Tree").extending "m.Tree", leaf]

theorem namesakes_collected :
    ∃ hs r, Hierarchy.collect namesakes = .ok hs ∧ collect namesakes = .ok r ∧
      r.hierarchies = hs ∧ hs.map (·.children.length) = [0, 2] := by
  have h : Hierarchy.collect namesakes = .ok (Hierarchy.ofRoots namesakes namesakes) := rfl
  obtain ⟨r, hr, hhs, -⟩ := collect_sound h
  exact ⟨_, r, h, hr, hhs, by decide⟩

end Registry
end Facsimile
