import Facsimile.Hierarchy
import Mathlib.Data.List.Nodup

/-!
# What hierarchies are made of

`Hierarchy.collect` read off the names that supertypes mention: which names are those of roots, in
which order the roots are registered, who extends several of them, and who becomes a child.  Where
no two declarations share a name, every root has the records that name it.
-/

namespace Facsimile

/-- A name is that of a sealed root of a list. -/
def NamesRoot (ds : List Declaration) (name : String) : Prop :=
  ∃ r ∈ ds, r.kind = .sealedRoot ∧ r.qualifiedName = name

/-- The last sealed root with a name stands at position `i`. -/
def LastRootAt (ds : List Declaration) (name : String) (i : Nat) : Prop :=
  (∃ r, ds[i]? = some r ∧ r.kind = .sealedRoot ∧ r.qualifiedName = name) ∧
    ∀ j r, i < j → ds[j]? = some r → r.kind = .sealedRoot → r.qualifiedName ≠ name

/-- A sealed root without a later namesake. -/
def IsLastRoot (ds : List Declaration) (r : Declaration) : Prop :=
  ∃ i, ds[i]? = some r ∧ LastRootAt ds r.qualifiedName i

/-- The root that supertypes mean by the name `m` is registered before the one that they mean by
`n`. -/
def RegisteredBefore (ds : List Declaration) (m n : String) : Prop :=
  ∃ i j, LastRootAt ds m i ∧ LastRootAt ds n j ∧ i < j

/-- A declaration names two different roots of a list as supertypes. -/
def ExtendsSeveral (ds : List Declaration) (d : Declaration) : Prop :=
  ∃ m ∈ d.supertypes, ∃ n ∈ d.supertypes, m ≠ n ∧ NamesRoot ds m ∧ NamesRoot ds n

/-- A declaration goes by the name of a record that extends a root of a list. -/
def NamesVariant (ds : List Declaration) (d : Declaration) : Prop :=
  ∃ c ∈ ds, c.kind = .record ∧ c.qualifiedName = d.qualifiedName ∧
    ∃ n ∈ c.supertypes, NamesRoot ds n

/-- No two declarations share a qualified name. -/
def NamesDistinct (ds : List Declaration) : Prop := (ds.map (·.qualifiedName)).Nodup

theorem isSealedRoot_iff {d : Declaration} : d.isSealedRoot = true ↔ d.kind = .sealedRoot := by
  simp [Declaration.isSealedRoot]

theorem NamesRoot.of_mem {ds : List Declaration} {r : Declaration} (hr : r ∈ ds)
    (hk : r.kind = .sealedRoot) : NamesRoot ds r.qualifiedName :=
  ⟨r, hr, hk, rfl⟩

theorem namesRoot_cons {d : Declaration} {ds : List Declaration} {name : String} :
    NamesRoot (d :: ds) name ↔
      (d.kind = .sealedRoot ∧ d.qualifiedName = name) ∨ NamesRoot ds name := by
  simp [NamesRoot]

theorem namesRoot_filter_iff {ds : List Declaration} {name : String} :
    NamesRoot (ds.filter Declaration.isSealedRoot) name ↔ NamesRoot ds name := by
  simp only [NamesRoot, List.mem_filter, isSealedRoot_iff]
  constructor
  · intro h
    obtain ⟨r, ⟨hr, -⟩, hk, hn⟩ := h
    exact ⟨r, hr, hk, hn⟩
  · intro h
    obtain ⟨r, hr, hk, hn⟩ := h
    exact ⟨r, ⟨hr, hk⟩, hk, hn⟩

namespace NamesDistinct

theorem eq_of_name {ds : List Declaration} (h : NamesDistinct ds) {d e : Declaration}
    (hd : d ∈ ds) (he : e ∈ ds) (hn : d.qualifiedName = e.qualifiedName) : d = e :=
  List.inj_on_of_nodup_map h hd he hn

theorem sublist {ds es : List Declaration} (h : NamesDistinct ds) (hs : es.Sublist ds) :
    NamesDistinct es :=
  List.Nodup.sublist (hs.map _) h

theorem perm {ds es : List Declaration} (h : NamesDistinct ds) (hp : ds.Perm es) :
    NamesDistinct es :=
  (hp.map _).nodup h

theorem nodup {ds : List Declaration} (h : NamesDistinct ds) : ds.Nodup :=
  List.Nodup.of_map _ h

end NamesDistinct

/-! ## Registered roots -/

theorem LastRootAt.cons {ds : List Declaration} {name : String} {i : Nat} (d : Declaration)
    (h : LastRootAt ds name i) : LastRootAt (d :: ds) name (i + 1) := by
  obtain ⟨⟨r, hr, hk, hn⟩, hlast⟩ := h
  refine ⟨⟨r, by rw [List.getElem?_cons_succ]; exact hr, hk, hn⟩, ?_⟩
  intro j s hj hs
  obtain ⟨j, rfl⟩ : ∃ j', j = j' + 1 := ⟨j - 1, by omega⟩
  rw [List.getElem?_cons_succ] at hs
  exact hlast j s (by omega) hs

theorem not_lastRootAt_nil {name : String} {i : Nat} : ¬LastRootAt [] name i := by
  simp [LastRootAt]

theorem lastRootAt_zero_iff {d : Declaration} {ds : List Declaration} {name : String} :
    LastRootAt (d :: ds) name 0 ↔
      d.kind = .sealedRoot ∧ d.qualifiedName = name ∧ ¬NamesRoot ds name := by
  constructor
  · intro h
    obtain ⟨⟨r, hr, hk, hn⟩, hlast⟩ := h
    cases hr
    refine ⟨hk, hn, ?_⟩
    intro hlater
    obtain ⟨s, hs, hsk, hsn⟩ := hlater
    obtain ⟨j, hj⟩ := List.getElem?_of_mem hs
    exact hlast (j + 1) s (Nat.succ_pos j) (by rw [List.getElem?_cons_succ]; exact hj) hsk hsn
  · intro h
    obtain ⟨hk, hn, hlater⟩ := h
    refine ⟨⟨d, rfl, hk, hn⟩, ?_⟩
    intro j s hj hs hsk hsn
    obtain ⟨j, rfl⟩ : ∃ j', j = j' + 1 := ⟨j - 1, by omega⟩
    rw [List.getElem?_cons_succ] at hs
    exact hlater ⟨s, List.mem_of_getElem? hs, hsk, hsn⟩

theorem lastRootAt_succ_iff {d : Declaration} {ds : List Declaration} {name : String} {i : Nat} :
    LastRootAt (d :: ds) name (i + 1) ↔ LastRootAt ds name i := by
  constructor
  · intro h
    obtain ⟨⟨r, hr, hk, hn⟩, hlast⟩ := h
    rw [List.getElem?_cons_succ] at hr
    refine ⟨⟨r, hr, hk, hn⟩, fun j s hj hs => hlast (j + 1) s (by omega) ?_⟩
    rw [List.getElem?_cons_succ]
    exact hs
  · exact LastRootAt.cons d

theorem lastRootAt_concat_iff {roots : List Declaration} {d : Declaration}
    (hd : d.kind = .sealedRoot) {name : String} {i : Nat} :
    LastRootAt (roots ++ [d]) name i ↔
      (d.qualifiedName = name ∧ i = roots.length) ∨
        (d.qualifiedName ≠ name ∧ LastRootAt roots name i) := by
  induction roots generalizing i with
  | nil =>
    cases i with
    | zero =>
      rw [List.nil_append, lastRootAt_zero_iff]
      simp [hd, NamesRoot, not_lastRootAt_nil]
    | succ i =>
      rw [List.nil_append, lastRootAt_succ_iff]
      simp [not_lastRootAt_nil]
  | cons e roots ih =>
    cases i with
    | zero =>
      have hlater : NamesRoot (roots ++ [d]) name ↔
          NamesRoot roots name ∨ d.qualifiedName = name := by
        simp [NamesRoot, or_and_right, exists_or, hd]
      rw [List.cons_append, lastRootAt_zero_iff, lastRootAt_zero_iff, hlater]
      have hlength : 0 ≠ (e :: roots).length := by simp
      tauto
    | succ i =>
      rw [List.cons_append, lastRootAt_succ_iff, lastRootAt_succ_iff, ih]
      simp

theorem exists_lastRootAt {ds : List Declaration} {name : String} (h : NamesRoot ds name) :
    ∃ i, LastRootAt ds name i := by
  induction ds with
  | nil => simp [NamesRoot] at h
  | cons d ds ih =>
    by_cases hds : NamesRoot ds name
    · obtain ⟨i, hi⟩ := ih hds
      exact ⟨i + 1, hi.cons d⟩
    · have hd := (namesRoot_cons.mp h).resolve_right hds
      exact ⟨0, lastRootAt_zero_iff.mpr ⟨hd.1, hd.2, hds⟩⟩

theorem LastRootAt.unique {ds : List Declaration} {name : String} {i j : Nat}
    (hi : LastRootAt ds name i) (hj : LastRootAt ds name j) : i = j := by
  obtain ⟨⟨r, hr, hrk, hrn⟩, hri⟩ := hi
  obtain ⟨⟨s, hs, hsk, hsn⟩, hsj⟩ := hj
  rcases Nat.lt_trichotomy i j with h | h | h
  · exact absurd hsn (hri j s h hs hsk)
  · exact h
  · exact absurd hrn (hsj i r h hr hrk)

theorem LastRootAt.name_unique {ds : List Declaration} {m n : String} {i : Nat}
    (hm : LastRootAt ds m i) (hn : LastRootAt ds n i) : m = n := by
  obtain ⟨⟨r, hr, -, rfl⟩, -⟩ := hm
  obtain ⟨⟨s, hs, -, rfl⟩, -⟩ := hn
  rw [hr] at hs
  cases hs
  rfl

theorem LastRootAt.namesRoot {ds : List Declaration} {name : String} {i : Nat}
    (h : LastRootAt ds name i) : NamesRoot ds name := by
  obtain ⟨⟨r, hr, hk, hn⟩, -⟩ := h
  exact ⟨r, List.mem_of_getElem? hr, hk, hn⟩

theorem IsLastRoot.kind {ds : List Declaration} {r : Declaration} (h : IsLastRoot ds r) :
    r.kind = .sealedRoot := by
  obtain ⟨i, hr, ⟨s, hs, hk, -⟩, -⟩ := h
  rw [hr] at hs
  cases hs
  exact hk

theorem IsLastRoot.mem {ds : List Declaration} {r : Declaration} (h : IsLastRoot ds r) :
    r ∈ ds := by
  obtain ⟨i, hr, -⟩ := h
  exact List.mem_of_getElem? hr

theorem IsLastRoot.unique {ds : List Declaration} {r s : Declaration} (hr : IsLastRoot ds r)
    (hs : IsLastRoot ds s) (hname : r.qualifiedName = s.qualifiedName) : r = s := by
  obtain ⟨i, hri, hi⟩ := hr
  obtain ⟨j, hsj, hj⟩ := hs
  rw [hname] at hi
  rw [hi.unique hj, hsj] at hri
  exact (Option.some.inj hri).symm

theorem isLastRoot_cons {d r : Declaration} {ds : List Declaration} :
    IsLastRoot (d :: ds) r ↔
      (d = r ∧ d.kind = .sealedRoot ∧ ¬NamesRoot ds d.qualifiedName) ∨ IsLastRoot ds r := by
  unfold IsLastRoot
  constructor
  · intro h
    obtain ⟨i, hr, hlast⟩ := h
    cases i with
    | zero =>
      cases hr
      obtain ⟨hk, -, hlater⟩ := lastRootAt_zero_iff.mp hlast
      exact Or.inl ⟨rfl, hk, hlater⟩
    | succ i =>
      rw [List.getElem?_cons_succ] at hr
      exact Or.inr ⟨i, hr, lastRootAt_succ_iff.mp hlast⟩
  · intro h
    rcases h with ⟨rfl, hk, hlater⟩ | ⟨i, hr, hlast⟩
    · exact ⟨0, rfl, lastRootAt_zero_iff.mpr ⟨hk, rfl, hlater⟩⟩
    · exact ⟨i + 1, by rw [List.getElem?_cons_succ, hr], lastRootAt_succ_iff.mpr hlast⟩

theorem isLastRoot_filter_iff {ds : List Declaration} {r : Declaration} :
    IsLastRoot (ds.filter Declaration.isSealedRoot) r ↔ IsLastRoot ds r := by
  induction ds with
  | nil => rfl
  | cons d ds ih =>
    rw [isLastRoot_cons, ← ih, List.filter_cons]
    split
    · rw [isLastRoot_cons, namesRoot_filter_iff]
    · rename_i hd
      rw [isSealedRoot_iff] at hd
      simp [hd]

theorem RegisteredBefore.asymm {ds : List Declaration} {m n : String}
    (h : RegisteredBefore ds m n) : ¬RegisteredBefore ds n m := by
  obtain ⟨i, j, hi, hj, hij⟩ := h
  intro h
  obtain ⟨j', i', hj', hi', hji⟩ := h
  have hjj := hj.unique hj'
  have hii := hi.unique hi'
  omega

namespace Hierarchy

theorem lastRoots_cons (d : Declaration) (ds : List Declaration) :
    lastRoots (d :: ds) =
      if d.isSealedRoot && !(lastRoots ds).any (fun r => r.qualifiedName == d.qualifiedName) then
        d :: lastRoots ds
      else lastRoots ds := rfl

theorem lastRoots_filter (ds : List Declaration) :
    lastRoots (ds.filter Declaration.isSealedRoot) = lastRoots ds := by
  induction ds with
  | nil => rfl
  | cons d ds ih =>
    rw [List.filter_cons]
    split
    · rw [lastRoots_cons, lastRoots_cons, ih]
    · rename_i hd
      rw [ih, lastRoots_cons, if_neg (by simp [hd])]

theorem any_name_lastRoots {ds : List Declaration} {name : String} :
    (lastRoots ds).any (fun r => r.qualifiedName == name) = true ↔ NamesRoot ds name := by
  induction ds with
  | nil => simp [lastRoots, NamesRoot]
  | cons d ds ih =>
    rw [namesRoot_cons, ← ih]
    rw [lastRoots_cons]
    split
    · rename_i hd
      rw [Bool.and_eq_true, isSealedRoot_iff] at hd
      simp [hd.1]
    · rename_i hd
      rw [Bool.and_eq_true, isSealedRoot_iff] at hd
      constructor
      · exact Or.inr
      · intro h
        rcases h with ⟨hk, rfl⟩ | h
        · by_contra hno
          exact hd ⟨hk, by rw [Bool.eq_false_iff.mpr hno]; rfl⟩
        · exact h

theorem mem_names_lastRoots {ds : List Declaration} {name : String} :
    name ∈ (lastRoots ds).map (·.qualifiedName) ↔ NamesRoot ds name := by
  rw [← any_name_lastRoots]
  simp

theorem lastRoots_pairwise (ds : List Declaration) :
    (lastRoots ds).Pairwise fun r s => RegisteredBefore ds r.qualifiedName s.qualifiedName := by
  induction ds with
  | nil => exact List.Pairwise.nil
  | cons d ds ih =>
    have hrest : (lastRoots ds).Pairwise fun r s =>
        RegisteredBefore (d :: ds) r.qualifiedName s.qualifiedName := by
      refine ih.imp ?_
      intro r s h
      obtain ⟨i, j, hi, hj, hij⟩ := h
      exact ⟨i + 1, j + 1, hi.cons d, hj.cons d, by omega⟩
    rw [lastRoots_cons]
    split
    · rename_i hd
      rw [Bool.and_eq_true, isSealedRoot_iff, Bool.not_eq_true', ← Bool.not_eq_true,
        any_name_lastRoots] at hd
      refine List.pairwise_cons.mpr ⟨?_, hrest⟩
      intro s hs
      have hname : NamesRoot ds s.qualifiedName :=
        mem_names_lastRoots.mp (List.mem_map.mpr ⟨s, hs, rfl⟩)
      obtain ⟨j, hj⟩ := exists_lastRootAt hname
      exact ⟨0, j + 1, lastRootAt_zero_iff.mpr ⟨hd.1, rfl, hd.2⟩, hj.cons d, by omega⟩
    · exact hrest

theorem names_lastRoots_nodup (ds : List Declaration) :
    ((lastRoots ds).map (·.qualifiedName)).Nodup := by
  refine List.pairwise_map.mpr ((lastRoots_pairwise ds).imp ?_)
  intro r s h heq
  obtain ⟨i, j, ⟨⟨a, ha, hak, han⟩, hi⟩, ⟨⟨b, hb, hbk, hbn⟩, hj⟩, hij⟩ := h
  exact hi j b hij hb hbk (by rw [hbn, heq])

/-! ## Parents -/

theorem mem_names_parents {ds : List Declaration} {d : Declaration} {name : String} :
    name ∈ (parents (lastRoots ds) d).map (·.qualifiedName) ↔
      name ∈ d.supertypes ∧ NamesRoot ds name := by
  rw [← mem_names_lastRoots]
  simp only [parents, List.mem_map, List.mem_filter, List.contains_iff_mem]
  constructor
  · intro h
    obtain ⟨r, ⟨hr, hsup⟩, rfl⟩ := h
    exact ⟨hsup, r, hr, rfl⟩
  · intro h
    obtain ⟨hsup, r, hr, rfl⟩ := h
    exact ⟨r, ⟨hr, hsup⟩, rfl⟩

theorem names_parents_registered (ds : List Declaration) (d : Declaration) :
    ((parents (lastRoots ds) d).map (·.qualifiedName)).Pairwise (RegisteredBefore ds) :=
  List.pairwise_map.mpr ((lastRoots_pairwise ds).sublist List.filter_sublist)

theorem names_parents_nodup (ds : List Declaration) (d : Declaration) :
    ((parents (lastRoots ds) d).map (·.qualifiedName)).Nodup :=
  (names_lastRoots_nodup ds).sublist (List.filter_sublist.map _)

theorem one_lt_length_iff {α : Type} {l : List α} (h : l.Nodup) :
    1 < l.length ↔ ∃ a ∈ l, ∃ b ∈ l, a ≠ b := by
  constructor
  · intro hl
    match l, h, hl with
    | a :: b :: rest, h, _ =>
      have hab : a ≠ b := fun e => (List.nodup_cons.mp h).1 (by rw [e]; exact List.mem_cons_self)
      exact ⟨a, List.mem_cons_self, b, List.mem_cons_of_mem _ List.mem_cons_self, hab⟩
  · intro h
    obtain ⟨a, ha, b, hb, hab⟩ := h
    match l, ha, hb with
    | [c], ha, hb =>
      rw [List.mem_singleton] at ha hb
      exact absurd (ha.trans hb.symm) hab
    | _ :: _ :: _, _, _ =>
      simp only [List.length_cons]
      omega

theorem hasSeveralParents_iff {ds : List Declaration} {d : Declaration} :
    hasSeveralParents (lastRoots ds) d = true ↔ ExtendsSeveral ds d := by
  have hlen : (parents (lastRoots ds) d).length =
      ((parents (lastRoots ds) d).map (·.qualifiedName)).length := by
    rw [List.length_map]
  unfold hasSeveralParents
  rw [decide_eq_true_iff, hlen, one_lt_length_iff (names_parents_nodup ds d)]
  constructor
  · intro h
    obtain ⟨m, hm, n, hn, hmn⟩ := h
    rw [mem_names_parents] at hm hn
    exact ⟨m, hm.1, n, hn.1, hmn, hm.2, hn.2⟩
  · intro h
    obtain ⟨m, hm, n, hn, hmn, hmr, hnr⟩ := h
    exact ⟨m, mem_names_parents.mpr ⟨hm, hmr⟩, n, mem_names_parents.mpr ⟨hn, hnr⟩, hmn⟩

/-! ## Children -/

theorem any_namesake_iff {ds : List Declaration} {name : String} :
    (ds.any fun e => e.isSealedRoot && e.qualifiedName == name) = true ↔ NamesRoot ds name := by
  simp [NamesRoot, isSealedRoot_iff]

/-- A root with a later namesake has no children, but then the namesake has them. -/
theorem exists_child_ofRoots {all ds : List Declaration} {c : Declaration} :
    (∃ h ∈ ofRoots all ds, c ∈ h.children) ↔
      c ∈ all ∧ c.kind = .record ∧ ∃ n ∈ c.supertypes, NamesRoot ds n := by
  induction ds with
  | nil => simp [ofRoots, NamesRoot]
  | cons d ds ih =>
    unfold ofRoots
    split
    · rename_i hroot
      rw [isSealedRoot_iff] at hroot
      simp only [List.mem_cons, exists_eq_or_imp, ih]
      constructor
      · intro h
        rcases h with hc | ⟨hc, hk, n, hn, hr⟩
        · split at hc
          · simp at hc
          · obtain ⟨hc, hk, hn⟩ := mem_childrenOf.mp hc
            exact ⟨hc, hk, _, hn, namesRoot_cons.mpr (Or.inl ⟨hroot, rfl⟩)⟩
        · exact ⟨hc, hk, n, hn, namesRoot_cons.mpr (Or.inr hr)⟩
      · intro h
        obtain ⟨hc, hk, n, hn, hr⟩ := h
        by_cases hlater : NamesRoot ds n
        · exact Or.inr ⟨hc, hk, n, hn, hlater⟩
        · obtain ⟨-, rfl⟩ := (namesRoot_cons.mp hr).resolve_right hlater
          refine Or.inl ?_
          rw [if_neg (any_namesake_iff.not.mpr hlater)]
          exact mem_childrenOf.mpr ⟨hc, hk, hn⟩
    · rename_i hroot
      rw [isSealedRoot_iff] at hroot
      simp only [ih, namesRoot_cons, hroot, false_and, false_or]

theorem isVariant_iff {ds : List Declaration} {d : Declaration} :
    isVariant (ofRoots ds ds) d = true ↔ NamesVariant ds d := by
  have hany : isVariant (ofRoots ds ds) d = true ↔
      ∃ c, (∃ h ∈ ofRoots ds ds, c ∈ h.children) ∧ c.qualifiedName = d.qualifiedName := by
    simp only [isVariant, List.any_eq_true, beq_iff_eq]
    constructor
    · intro h
      obtain ⟨h, hh, c, hc, hn⟩ := h
      exact ⟨c, ⟨h, hh, hc⟩, hn⟩
    · intro h
      obtain ⟨c, ⟨h, hh, hc⟩, hn⟩ := h
      exact ⟨h, hh, c, hc, hn⟩
  rw [hany]
  constructor
  · intro h
    obtain ⟨c, hc, hn⟩ := h
    obtain ⟨hmem, hk, hsup⟩ := exists_child_ofRoots.mp hc
    exact ⟨c, hmem, hk, hn, hsup⟩
  · intro h
    obtain ⟨c, hmem, hk, hn, hsup⟩ := h
    exact ⟨c, exists_child_ofRoots.mpr ⟨hmem, hk, hsup⟩, hn⟩

/-! ## Namesakes -/

/-- The last root of a name has the records that name it. -/
theorem getElem?_ofRoots_of_last (all : List Declaration) {ds : List Declaration} {name : String}
    {i : Nat} (h : LastRootAt (ds.filter Declaration.isSealedRoot) name i) :
    ∃ r, (ds.filter Declaration.isSealedRoot)[i]? = some r ∧ r.qualifiedName = name ∧
      (ofRoots all ds)[i]? = some ⟨r, childrenOf name all⟩ := by
  induction ds generalizing i with
  | nil => exact absurd h.namesRoot (by simp [NamesRoot])
  | cons d ds ih =>
    by_cases hroot : d.isSealedRoot = true
    · unfold ofRoots
      rw [List.filter_cons_of_pos hroot] at h ⊢
      rw [if_pos hroot]
      cases i with
      | zero =>
        obtain ⟨-, rfl, hlater⟩ := lastRootAt_zero_iff.mp h
        rw [namesRoot_filter_iff, ← any_namesake_iff] at hlater
        exact ⟨d, rfl, rfl, by simp [hlater]⟩
      | succ i => simpa using ih (lastRootAt_succ_iff.mp h)
    · unfold ofRoots
      rw [List.filter_cons_of_neg hroot] at h ⊢
      rw [if_neg hroot]
      exact ih h

/-- A root with a later namesake has no children. -/
theorem getElem?_ofRoots_of_shadowed (all : List Declaration) {ds : List Declaration}
    {r : Declaration} {i : Nat}
    (hr : (ds.filter Declaration.isSealedRoot)[i]? = some r)
    (h : ¬LastRootAt (ds.filter Declaration.isSealedRoot) r.qualifiedName i) :
    (ofRoots all ds)[i]? = some ⟨r, []⟩ := by
  induction ds generalizing i with
  | nil => cases hr
  | cons d ds ih =>
    by_cases hroot : d.isSealedRoot = true
    · unfold ofRoots
      rw [List.filter_cons_of_pos hroot] at hr h
      rw [if_pos hroot]
      cases i with
      | zero =>
        cases hr
        rw [lastRootAt_zero_iff, namesRoot_filter_iff, ← any_namesake_iff] at h
        have hlater := not_not.mp fun hno => h ⟨isSealedRoot_iff.mp hroot, rfl, hno⟩
        simp [hlater]
      | succ i => simpa using ih (by simpa using hr) (lastRootAt_succ_iff.not.mp h)
    · unfold ofRoots
      rw [List.filter_cons_of_neg hroot] at hr h
      rw [if_neg hroot]
      exact ih hr h

theorem get?_cons (h : Hierarchy) (hs : List Hierarchy) (d : Declaration) :
    get? (h :: hs) d =
      (get? hs d).or (if h.root.qualifiedName = d.qualifiedName then some h else none) := by
  unfold get?
  rw [List.reverse_cons, List.find?_append]
  by_cases hn : h.root.qualifiedName = d.qualifiedName <;> simp [hn]

section Lookup

variable {hs : List Hierarchy} {d : Declaration} {h : Hierarchy}

theorem get?_eq_none_iff (hroots : ∀ g ∈ hs, g.root.kind = .sealedRoot) :
    get? hs d = none ↔ ¬NamesRoot (hs.map (·.root)) d.qualifiedName := by
  unfold get? NamesRoot
  rw [List.find?_eq_none]
  constructor
  · intro hno hroot
    obtain ⟨r, hr, -, hn⟩ := hroot
    obtain ⟨g, hg, rfl⟩ := List.mem_map.mp hr
    exact hno g (List.mem_reverse.mpr hg) (beq_iff_eq.mpr hn)
  · intro hno g hg hn
    rw [List.mem_reverse] at hg
    exact hno ⟨g.root, List.mem_map.mpr ⟨g, hg, rfl⟩, hroots g hg, beq_iff_eq.mp hn⟩

/-- A name means the hierarchy of the last root that has it. -/
theorem get?_of_lastRootAt (hroots : ∀ g ∈ hs, g.root.kind = .sealedRoot) {i : Nat}
    (hlast : LastRootAt (hs.map (·.root)) d.qualifiedName i) (hi : hs[i]? = some h) :
    get? hs d = some h := by
  induction hs generalizing i with
  | nil => cases hi
  | cons g hs ih =>
    have htail := (List.forall_mem_cons.mp hroots).2
    rw [get?_cons]
    rw [List.map_cons] at hlast
    cases i with
    | zero =>
      cases hi
      obtain ⟨-, hn, hlater⟩ := lastRootAt_zero_iff.mp hlast
      rw [(get?_eq_none_iff htail).mpr hlater, if_pos hn]
      rfl
    | succ i => rw [ih htail (lastRootAt_succ_iff.mp hlast) (by simpa using hi), Option.some_or]

end Lookup

theorem kinds_of_roots {ds : List Declaration} {hs : List Hierarchy}
    (h : hs.map (·.root) = ds.filter Declaration.isSealedRoot) :
    ∀ g ∈ hs, g.root.kind = .sealedRoot := by
  intro g hg
  have hroot : g.root ∈ hs.map (·.root) := List.mem_map_of_mem hg
  rw [h] at hroot
  exact isSealedRoot_iff.mp (List.mem_filter.mp hroot).2

/-- The name of a root means the last root that has it, with every record that names it. -/
theorem get?_ofRoots {ds : List Declaration} {d : Declaration}
    (hname : NamesRoot ds d.qualifiedName) :
    ∃ r, IsLastRoot ds r ∧ r.qualifiedName = d.qualifiedName ∧
      get? (ofRoots ds ds) d = some ⟨r, childrenOf d.qualifiedName ds⟩ := by
  obtain ⟨i, hi⟩ := exists_lastRootAt (namesRoot_filter_iff.mpr hname)
  obtain ⟨r, hr, hrn, hat⟩ := getElem?_ofRoots_of_last ds hi
  have hkinds := kinds_of_roots (map_root_ofRoots ds ds)
  refine ⟨r, isLastRoot_filter_iff.mp ⟨i, hr, by rwa [hrn]⟩, hrn, ?_⟩
  exact get?_of_lastRootAt hkinds (by rwa [map_root_ofRoots]) hat

/-! ## Distinct names -/

/-- A root has the records that name it. -/
theorem get?_of_distinct {ds : List Declaration} (h : NamesDistinct ds) {r : Declaration}
    (hr : r ∈ ds) (hk : r.kind = .sealedRoot) :
    get? (ofRoots ds ds) r = some ⟨r, childrenOf r.qualifiedName ds⟩ := by
  obtain ⟨s, hs, hname, hget⟩ := get?_ofRoots (NamesRoot.of_mem hr hk)
  obtain rfl := h.eq_of_name hs.mem hr hname
  exact hget

/-- Where names are distinct, the variants are the records that name a root. -/
theorem isVariant_of_distinct {ds : List Declaration} (h : NamesDistinct ds) {d : Declaration}
    (hd : d ∈ ds) :
    isVariant (ofRoots ds ds) d = true ↔
      d.kind = .record ∧ ∃ r ∈ ds, r.kind = .sealedRoot ∧ r.qualifiedName ∈ d.supertypes := by
  rw [isVariant_iff]
  constructor
  · intro h
    obtain ⟨c, hc, hk, hn, n, hsup, r, hr, hrk, rfl⟩ := h
    obtain rfl := h.eq_of_name hc hd hn
    exact ⟨hk, r, hr, hrk, hsup⟩
  · intro h
    obtain ⟨hk, r, hr, hrk, hsup⟩ := h
    exact ⟨d, hd, hk, rfl, r.qualifiedName, hsup, r, hr, hrk, rfl⟩

end Hierarchy
end Facsimile
