import Facsimile.Proofs.Registry

/-!
# Namesakes

A registry looks declarations up by name, and a list may hold several with one name.  What is asked
about a declaration is then answered about a namesake, unless it makes no difference:
`lookups_own_iff` says for each declaration of a list when its own answers come back.  They do for
every declaration where names are distinct, and `leaf_taken_for_variant` shows a list for which they
do not.
-/

namespace Facsimile

/-- A record that names a root of a list as a supertype. -/
def ExtendsRoot (ds : List Declaration) (d : Declaration) : Prop :=
  d.kind = .record ∧ ∃ n ∈ d.supertypes, NamesRoot ds n

/-- The number of roots in front of a position, which is the position of the hierarchy of a root
that stands there. -/
def rootRank (ds : List Declaration) (i : Nat) : Nat := (ds.take i).countP Declaration.isSealedRoot

namespace Registry

/-- What the lookups say of the declaration at position `i` is about itself. -/
structure OwnAnswers (ds : List Declaration) (r : Registry) (i : Nat) (d : Declaration) : Prop where
  variant : r.isVariant d = true → ∃ h ∈ r.hierarchies, d ∈ h.children
  hierarchy : ∀ k, r.ofRoot.lookup d.qualifiedName = some k →
    d.kind = .sealedRoot ∧ k = rootRank ds i

end Registry

/-! ## Ranks of roots -/

@[simp] theorem rootRank_zero (ds : List Declaration) : rootRank ds 0 = 0 := rfl

theorem rootRank_cons_succ (d : Declaration) (ds : List Declaration) (i : Nat) :
    rootRank (d :: ds) (i + 1) = rootRank ds i + if d.isSealedRoot then 1 else 0 := by
  unfold rootRank
  rw [List.take_succ_cons, List.countP_cons]

/-- Each hierarchy stands at the rank of its root. -/
theorem getElem?_rootRank {ds : List Declaration} {i : Nat} {d : Declaration}
    (hi : ds[i]? = some d) (hd : d.isSealedRoot = true) :
    (ds.filter Declaration.isSealedRoot)[rootRank ds i]? = some d := by
  induction ds generalizing i with
  | nil => cases hi
  | cons e ds ih =>
    cases i with
    | zero =>
      cases hi
      rw [List.filter_cons_of_pos hd]
      rfl
    | succ i =>
      rw [List.getElem?_cons_succ] at hi
      rw [rootRank_cons_succ, List.filter_cons]
      split
      · exact ih hi
      · exact ih hi

/-- A root has a higher rank than those in front of it. -/
theorem rootRank_lt {ds : List Declaration} {i j : Nat} {d : Declaration}
    (hi : ds[i]? = some d) (hd : d.isSealedRoot = true) (hij : i < j) :
    rootRank ds i < rootRank ds j := by
  induction ds generalizing i j with
  | nil => cases hi
  | cons e ds ih =>
    obtain ⟨j, rfl⟩ : ∃ j', j = j' + 1 := ⟨j - 1, by omega⟩
    cases i with
    | zero =>
      cases hi
      rw [rootRank_cons_succ, if_pos hd]
      exact Nat.succ_pos _
    | succ i =>
      rw [List.getElem?_cons_succ] at hi
      rw [rootRank_cons_succ, rootRank_cons_succ]
      exact Nat.add_lt_add_right (ih hi (Nat.lt_of_succ_lt_succ hij)) _

theorem rootRank_inj {ds : List Declaration} {i j : Nat} {d e : Declaration}
    (hi : ds[i]? = some d) (hj : ds[j]? = some e) (hd : d.isSealedRoot = true)
    (he : e.isSealedRoot = true) (hrank : rootRank ds i = rootRank ds j) : i = j := by
  rcases Nat.lt_trichotomy i j with hij | hij | hij
  · have hlt := rootRank_lt hi hd hij
    omega
  · exact hij
  · have hlt := rootRank_lt hj he hij
    omega

/-- Among the roots alone, the last one of a name stands at its rank. -/
theorem lastRootAt_filter_iff {ds : List Declaration} {name : String} {k : Nat} :
    LastRootAt (ds.filter Declaration.isSealedRoot) name k ↔
      ∃ i, LastRootAt ds name i ∧ k = rootRank ds i := by
  induction ds generalizing k with
  | nil => simp [not_lastRootAt_nil]
  | cons d ds ih =>
    rw [← Nat.or_exists_add_one]
    simp only [lastRootAt_zero_iff, lastRootAt_succ_iff, rootRank_cons_succ]
    by_cases hd : d.isSealedRoot = true
    · rw [List.filter_cons_of_pos hd]
      cases k with
      | zero =>
        rw [lastRootAt_zero_iff, namesRoot_filter_iff]
        simp [isSealedRoot_iff.mp hd, hd]
      | succ k =>
        rw [lastRootAt_succ_iff, ih]
        simp [hd]
    · rw [List.filter_cons_of_neg hd, ih]
      simp [isSealedRoot_iff.not.mp hd, hd]

namespace Registry

/-! ## Whose answers come back -/

section Attached

variable {ds : List Declaration} {r : Registry}
variable (hr : Attached (ds.filter Declaration.isSealedRoot) ds r)

include hr in
theorem lookup_of_attached {name : String} {k : Nat} :
    r.ofRoot.lookup name = some k ↔ ∃ i, LastRootAt ds name i ∧ k = rootRank ds i := by
  rw [hr.ofRoot, lookup_ofRoots (kind_of_mem_roots ds), lastRootAt_filter_iff]

variable (hone : ∀ d ∈ ds, ¬ExtendsSeveral ds d)

include hr hone in
theorem isVariant_of_attached_iff {d : Declaration} :
    r.isVariant d = true ↔ NamesVariant ds d := by
  rw [isVariant_of_attached hr, hierarchies_of_attached hone hr, Hierarchy.isVariant_iff]

include hr hone in
theorem exists_child_iff {d : Declaration} (hd : d ∈ ds) :
    (∃ h ∈ r.hierarchies, d ∈ h.children) ↔ ExtendsRoot ds d := by
  rw [hierarchies_of_attached hone hr, Hierarchy.exists_child_ofRoots, and_iff_right hd]
  rfl

include hr in
/-- The position that a declaration's name leads to is its own one exactly if no later root, and no
root at all if it is none itself, goes by that name. -/
theorem own_hierarchy_iff {i : Nat} {d : Declaration} (hi : ds[i]? = some d) :
    (∀ k, r.ofRoot.lookup d.qualifiedName = some k →
        d.kind = .sealedRoot ∧ k = rootRank ds i) ↔
      (NamesRoot ds d.qualifiedName → LastRootAt ds d.qualifiedName i) := by
  constructor
  · intro hown hname
    obtain ⟨j, hj⟩ := exists_lastRootAt hname
    obtain ⟨hk, hrank⟩ := hown _ ((lookup_of_attached hr).mpr ⟨j, hj, rfl⟩)
    obtain ⟨e, he, hek, -⟩ := hj.1
    obtain rfl := rootRank_inj he hi (isSealedRoot_iff.mpr hek) (isSealedRoot_iff.mpr hk) hrank
    exact hj
  · intro hlast k hk
    obtain ⟨j, hj, rfl⟩ := (lookup_of_attached hr).mp hk
    have hi' := hlast hj.namesRoot
    obtain rfl := hj.unique hi'
    obtain ⟨e, he, hek, -⟩ := hi'.1
    rw [hi] at he
    cases he
    exact ⟨hek, rfl⟩

include hr hone in
theorem ownAnswers_iff {i : Nat} {d : Declaration} (hi : ds[i]? = some d) :
    r.OwnAnswers ds i d ↔ (NamesVariant ds d → ExtendsRoot ds d) ∧
      (NamesRoot ds d.qualifiedName → LastRootAt ds d.qualifiedName i) := by
  rw [← isVariant_of_attached_iff hr hone, ← exists_child_iff hr hone (List.mem_of_getElem? hi),
    ← own_hierarchy_iff hr hi]
  exact ⟨fun h => ⟨h.variant, h.hierarchy⟩, fun h => ⟨h.1, h.2⟩⟩

end Attached

end Registry

/-! ## Distinct names -/

namespace NamesDistinct

variable {ds : List Declaration} (h : NamesDistinct ds)
include h

theorem extendsRoot_of_namesVariant {d : Declaration} (hd : d ∈ ds) (hv : NamesVariant ds d) :
    ExtendsRoot ds d := by
  obtain ⟨c, hc, hk, hn, hroot⟩ := hv
  obtain rfl := h.eq_of_name hc hd hn
  exact ⟨hk, hroot⟩

theorem lastRootAt_of_namesRoot {i : Nat} {d : Declaration} (hi : ds[i]? = some d)
    (hname : NamesRoot ds d.qualifiedName) : LastRootAt ds d.qualifiedName i := by
  obtain ⟨j, hj⟩ := exists_lastRootAt hname
  obtain ⟨e, he, -, hn⟩ := hj.1
  obtain rfl := h.eq_of_name (List.mem_of_getElem? he) (List.mem_of_getElem? hi) hn
  obtain rfl :=
    (List.getElem?_inj (List.getElem?_eq_some_iff.mp he).1 h.nodup).mp (he.trans hi.symm)
  exact hj

end NamesDistinct

namespace Registry

/-- What collecting hierarchies by index ends with, where collecting them does not fail. -/
theorem exists_attached {ds : List Declaration} {hs : List Hierarchy}
    (h : Hierarchy.collect ds = .ok hs) :
    ∃ r, collect ds = .ok r ∧ r.hierarchies = hs ∧ (∀ d ∈ ds, ¬ExtendsSeveral ds d) ∧
      Attached (ds.filter Declaration.isSealedRoot) ds r := by
  rcases collect_cases ds with ⟨d, -, herror⟩ | ⟨hone, r, hok, hr⟩
  · rw [← collect_hierarchies, herror] at h
    cases h
  · rw [← collect_hierarchies, hok] at h
    cases h
    exact ⟨r, hok, rfl, hone, hr⟩

/-- A declaration of the list is answered for itself exactly if it extends a root whenever it goes
by the name of a record that does, and is the last root of its name whenever that is the name of a
root.  With distinct names all of them are. -/
theorem lookups_own_iff {ds : List Declaration} {hs : List Hierarchy}
    (h : Hierarchy.collect ds = .ok hs) :
    ∃ r, collect ds = .ok r ∧ r.hierarchies = hs ∧
      (∀ d, r.get? d = (Hierarchy.get? hs d).map some ∧
        r.isVariant d = Hierarchy.isVariant hs d) ∧
      (∀ i d, ds[i]? = some d → d.kind = .sealedRoot →
        hs[rootRank ds i]?.map (·.root) = some d) ∧
      (∀ i d, ds[i]? = some d →
        (r.OwnAnswers ds i d ↔ (NamesVariant ds d → ExtendsRoot ds d) ∧
          (NamesRoot ds d.qualifiedName → LastRootAt ds d.qualifiedName i))) ∧
      (NamesDistinct ds → ∀ i d, ds[i]? = some d → r.OwnAnswers ds i d) := by
  obtain ⟨r, hok, rfl, hone, hr⟩ := exists_attached h
  refine ⟨r, hok, rfl, fun d => ⟨get?_of_attached hr d, isVariant_of_attached hr d⟩,
    fun i d hi hk => ?_, fun i d hi => ownAnswers_iff hr hone hi,
    fun hd i d hi => (ownAnswers_iff hr hone hi).mpr ?_⟩
  · rw [← List.getElem?_map, roots_of_attached hr]
    exact getElem?_rootRank hi (isSealedRoot_iff.mpr hk)
  · exact ⟨hd.extendsRoot_of_namesVariant (List.mem_of_getElem? hi),
      hd.lastRootAt_of_namesRoot hi⟩

def treeLeaf : Declaration := (Declaration.record "m.Leaf" []).extending "m.Tree"

/-- A tree with its leaf, a leaf that extends nothing, and a record called like the tree. -/
def leaves : List Declaration :=
  [.sealedRoot "m.Tree", treeLeaf, .record "m.Leaf" [], .record "m.Tree" []]

theorem leaves_own_iff :
    ∃ hs r, Hierarchy.collect leaves = .ok hs ∧ collect leaves = .ok r ∧
      ∀ i d, leaves[i]? = some d →
        (r.OwnAnswers leaves i d ↔ (NamesVariant leaves d → ExtendsRoot leaves d) ∧
          (NamesRoot leaves d.qualifiedName → LastRootAt leaves d.qualifiedName i)) := by
  have h : Hierarchy.collect leaves = .ok (Hierarchy.ofRoots leaves leaves) := rfl
  obtain ⟨r, hr, -, -, -, hown, -⟩ := lookups_own_iff h
  exact ⟨_, r, h, hr, hown⟩

/-- The second leaf is a variant although no hierarchy has it, and the record is given the hierarchy
of the root. -/
theorem leaf_taken_for_variant :
    ∃ hs r, Hierarchy.collect leaves = .ok hs ∧ collect leaves = .ok r ∧ r.hierarchies = hs ∧
      leaves[2]? = some (.record "m.Leaf" []) ∧ leaves[3]? = some (.record "m.Tree" []) ∧
      r.isVariant (.record "m.Leaf" []) = true ∧
      (∀ h ∈ hs, Declaration.record "m.Leaf" [] ∉ h.children) ∧
      ∃ g, r.get? (.record "m.Tree" []) = some (some g) ∧
        g.root.kind = .sealedRoot ∧ g.root ≠ .record "m.Tree" [] := by
  have h : Hierarchy.collect leaves = .ok [⟨.sealedRoot "m.Tree", [treeLeaf]⟩] := rfl
  obtain ⟨r, hok, hhs, -, hr⟩ := exists_attached h
  refine ⟨_, r, h, hok, hhs, rfl, rfl, ?_, ?_, ⟨.sealedRoot "m.Tree", [treeLeaf]⟩, ?_, rfl, ?_⟩
  · rw [isVariant_of_attached hr, hhs]
    decide
  · intro g hg hc
    obtain rfl := List.mem_singleton.mp hg
    have heq : Declaration.record "m.Leaf" [] = treeLeaf := List.mem_singleton.mp hc
    exact absurd (congrArg Declaration.supertypes heq) (by decide)
  · rw [get?_of_attached hr, hhs]
    rfl
  · intro heq
    exact absurd (congrArg Declaration.kind heq) (by decide)

end Registry
end Facsimile
