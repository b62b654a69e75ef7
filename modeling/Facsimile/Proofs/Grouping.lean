import Facsimile.Pass.Grouping
import Mathlib.Data.List.Nodup
import Mathlib.Data.List.Perm.Basic

/-!
# Units and their file names

`groups` deals the declarations that have a source unit out to their units, none twice and none
forgotten, and `collision?` finds the first unit whose file name is taken.
-/

namespace Facsimile

/-! ## Lists in ascending order -/

theorem Sorted.Ascending.nodup {l : List String} (h : Ascending l) : l.Nodup := by
  refine h.imp ?_
  intro a b hlt heq
  rw [heq] at hlt
  exact String.lt_irrefl b hlt

/-- A list in ascending order is known by its elements. -/
theorem Sorted.Ascending.ext {l m : List String} (hl : Ascending l) (hm : Ascending m)
    (h : ∀ a, a ∈ l ↔ a ∈ m) : l = m := by
  have hperm : l.Perm m := (List.perm_ext_iff_of_nodup hl.nodup hm.nodup).mpr h
  refine hperm.eq_of_pairwise ?_ hl hm
  intro a b _ _ hab hba
  exact absurd (String.lt_trans hab hba) (String.lt_irrefl a)

/-! ## Groups -/

theorem map_unit_groups (o : Ordering) (ds : List Declaration) :
    (groups o ds).map (·.unit) = Sorted.ofList (ds.filterMap (·.sourceUnit)) := by
  simp [groups, Function.comp_def]

theorem mem_units {o : Ordering} {ds : List Declaration} {unit : String} :
    unit ∈ (groups o ds).map (·.unit) ↔ ∃ d ∈ ds, d.sourceUnit = some unit := by
  rw [map_unit_groups, Sorted.mem_ofList, List.mem_filterMap]

theorem units_ascending (o : Ordering) (ds : List Declaration) :
    ((groups o ds).map (·.unit)).Pairwise (· < ·) := by
  rw [map_unit_groups]
  exact Sorted.ascending_ofList _

theorem units_nodup (o : Ordering) (ds : List Declaration) :
    ((groups o ds).map (·.unit)).Nodup := by
  rw [map_unit_groups]
  exact (Sorted.ascending_ofList _).nodup

theorem arrange_perm (o : Ordering) (ds : List Declaration) : (o.arrange ds).Perm ds := by
  cases o with
  | discovery => exact List.Perm.refl ds
  | name => exact List.mergeSort_perm ds Declaration.nameLe

theorem mem_declarations {o : Ordering} {ds : List Declaration} {group : Group}
    (h : group ∈ groups o ds) {d : Declaration} :
    d ∈ group.declarations ↔ d ∈ ds ∧ d.sourceUnit = some group.unit := by
  obtain ⟨unit, -, rfl⟩ := List.mem_map.mp h
  rw [(arrange_perm o _).mem_iff, mem_declarationsOf]

/-- The declarations of a list whose unit is one of `units`. -/
def withUnitIn (units : List String) (ds : List Declaration) : List Declaration :=
  ds.filter fun d => d.sourceUnit.any units.contains

theorem withUnitIn_cons {unit : String} {units : List String} (h : unit ∉ units)
    (ds : List Declaration) :
    (withUnitIn (unit :: units) ds).Perm (declarationsOf unit ds ++ withUnitIn units ds) := by
  have hsplit := List.filter_append_perm (fun d => d.sourceUnit == some unit)
    (withUnitIn (unit :: units) ds)
  have hfirst : (withUnitIn (unit :: units) ds).filter (fun d => d.sourceUnit == some unit) =
      declarationsOf unit ds := by
    unfold withUnitIn declarationsOf
    rw [List.filter_filter]
    refine List.filter_congr fun d _ => ?_
    cases hd : d.sourceUnit with
    | none => rfl
    | some v => by_cases hv : v = unit <;> simp [hv]
  have hrest : (withUnitIn (unit :: units) ds).filter (fun d => !(d.sourceUnit == some unit)) =
      withUnitIn units ds := by
    unfold withUnitIn
    rw [List.filter_filter]
    refine List.filter_congr fun d _ => ?_
    cases hd : d.sourceUnit with
    | none => rfl
    | some v => by_cases hv : v = unit <;> simp [hv, h]
  rw [hfirst, hrest] at hsplit
  exact hsplit.symm

theorem flatMap_declarationsOf_perm {units : List String} (h : units.Nodup)
    (ds : List Declaration) :
    (units.flatMap fun unit => declarationsOf unit ds).Perm (withUnitIn units ds) := by
  induction units with
  | nil =>
    have hnil : withUnitIn [] ds = [] := by
      refine List.filter_eq_nil_iff.mpr fun d _ => ?_
      cases d.sourceUnit <;> simp
    rw [hnil]
    exact List.Perm.refl _
  | cons unit units ih =>
    obtain ⟨hnot, hnd⟩ := List.nodup_cons.mp h
    rw [List.flatMap_cons]
    exact ((ih hnd).append_left _).trans (withUnitIn_cons hnot ds).symm

/-- The groups hold the declarations that have a unit, each as often as the list does. -/
theorem flatMap_groups_perm (o : Ordering) (ds : List Declaration) :
    ((groups o ds).flatMap (·.declarations)).Perm (ds.filter (·.sourceUnit.isSome)) := by
  have hall : withUnitIn ((groups o ds).map (·.unit)) ds = ds.filter (·.sourceUnit.isSome) := by
    refine List.filter_congr fun d hd => ?_
    cases hu : d.sourceUnit with
    | none => rfl
    | some unit =>
      have hmem : unit ∈ (groups o ds).map (·.unit) := mem_units.mpr ⟨d, hd, hu⟩
      simpa using hmem
  have hperm := flatMap_declarationsOf_perm (units_nodup o ds) ds
  rw [hall, List.flatMap_map] at hperm
  refine List.Perm.trans (List.Perm.flatMap_left _ ?_) hperm
  intro group hg
  obtain ⟨unit, -, rfl⟩ := List.mem_map.mp hg
  exact arrange_perm o _

/-! ## Names in the order of a list -/

theorem nameLe_trans (a b c : Declaration) (hab : a.nameLe b = true) (hbc : b.nameLe c = true) :
    a.nameLe c = true := by
  unfold Declaration.nameLe at *
  rw [decide_eq_true_iff] at *
  exact String.le_trans hab hbc

theorem nameLe_total (a b : Declaration) : (a.nameLe b || b.nameLe a) = true := by
  unfold Declaration.nameLe
  rw [Bool.or_eq_true, decide_eq_true_iff, decide_eq_true_iff]
  exact String.le_total _ _

theorem arrange_name_sorted (ds : List Declaration) :
    (Ordering.name.arrange ds).Pairwise fun a b => a.qualifiedName ≤ b.qualifiedName := by
  refine (List.pairwise_mergeSort nameLe_trans nameLe_total ds).imp ?_
  intro a b h
  unfold Declaration.nameLe at h
  rwa [decide_eq_true_iff] at h

/-! ## File names -/

/-- The file name of a unit is taken, by an owner in `owners` or by one of `units`. -/
def Owns (owners : List (String × String)) (units : List String) (name first : String) : Prop :=
  owners.lookup name = some first ∨ (first ∈ units ∧ Naming.fileName first = name)

theorem collision?_eq_none_iff {owners : List (String × String)} {units : List String} :
    collision? owners units = none ↔
      (∀ unit ∈ units, owners.lookup (Naming.fileName unit) = none) ∧
        (units.map Naming.fileName).Nodup := by
  induction units generalizing owners with
  | nil => simp [collision?]
  | cons unit units ih =>
    unfold collision?
    simp only
    cases hown : owners.lookup (Naming.fileName unit) with
    | some first =>
      refine iff_of_false (by simp) ?_
      intro h
      obtain ⟨hfree, -⟩ := h
      rw [hfree unit List.mem_cons_self] at hown
      cases hown
    | none =>
      simp only [ih, List.forall_mem_cons, List.map_cons, List.nodup_cons, hown, true_and,
        List.lookup_cons]
      constructor
      · intro h
        obtain ⟨hfree, hnd⟩ := h
        refine ⟨fun v hv => ?_, ?_, hnd⟩
        · have hv' := hfree v hv
          by_cases hname : Naming.fileName v == Naming.fileName unit
          · simp [hname] at hv'
          · simpa [hname] using hv'
        · intro hmem
          obtain ⟨v, hv, hname⟩ := List.mem_map.mp hmem
          have hv' := hfree v hv
          simp [hname] at hv'
      · intro h
        obtain ⟨hfree, hnot, hnd⟩ := h
        refine ⟨fun v hv => ?_, hnd⟩
        have hne : (Naming.fileName v == Naming.fileName unit) = false := by
          rw [beq_eq_false_iff_ne]
          intro hname
          exact hnot (List.mem_map.mpr ⟨v, hv, hname⟩)
        rw [hne]
        exact hfree v hv

/-- A collision is met at the first unit whose file name is taken, and names its owner. -/
theorem collision?_eq_some {owners : List (String × String)} {units : List String} {c : Collision}
    (h : collision? owners units = some c) :
    ∃ before after, units = before ++ c.second :: after ∧ collision? owners before = none ∧
      c.fileName = Naming.fileName c.second ∧ Owns owners before c.fileName c.first := by
  induction units generalizing owners with
  | nil => simp [collision?] at h
  | cons unit units ih =>
    unfold collision? at h
    simp only at h
    cases hown : owners.lookup (Naming.fileName unit) with
    | some first =>
      rw [hown] at h
      obtain rfl := Option.some.inj h
      exact ⟨[], units, rfl, rfl, rfl, Or.inl hown⟩
    | none =>
      rw [hown] at h
      obtain ⟨before, after, hsplit, hfree, hname, howns⟩ := ih h
      refine ⟨unit :: before, after, by rw [hsplit]; rfl, ?_, hname, ?_⟩
      · unfold collision?
        simp only
        rw [hown]
        exact hfree
      · rcases howns with hlook | ⟨hmem, hfile⟩
        · rw [List.lookup_cons] at hlook
          by_cases heq : c.fileName == Naming.fileName unit
          · rw [heq] at hlook
            obtain rfl := Option.some.inj hlook
            exact Or.inr ⟨List.mem_cons_self, (beq_iff_eq.mp heq).symm⟩
          · rw [Bool.eq_false_iff.mpr heq] at hlook
            exact Or.inl hlook
        · exact Or.inr ⟨List.mem_cons_of_mem _ hmem, hfile⟩

end Facsimile
