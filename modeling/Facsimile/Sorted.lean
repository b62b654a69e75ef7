/-!
# Lists in ascending order

Sets and finite maps of text as lists in ascending order of code points.
-/

namespace Facsimile
namespace Sorted

/-- Adds an element to a list in ascending order that does not hold it yet. -/
def insert (k : String) : List String → List String
  | [] => [k]
  | x :: xs => if k < x then k :: x :: xs else if k = x then x :: xs else x :: insert k xs

def ofList (l : List String) : List String := l.foldr insert []

def put {α : Type} (k : String) (v : α) : List (String × α) → List (String × α)
  | [] => [(k, v)]
  | (x, w) :: rest =>
    if k < x then (k, v) :: (x, w) :: rest
    else if k = x then (k, v) :: rest
    else (x, w) :: put k v rest

theorem mem_insert {a k : String} {l : List String} : a ∈ insert k l ↔ a = k ∨ a ∈ l := by
  induction l with
  | nil => simp [insert]
  | cons x xs ih =>
    unfold insert
    split
    · simp
    · split
      · rename_i h
        subst h
        simp
      · simp only [List.mem_cons, ih]
        constructor
        · intro h
          rcases h with h | h | h
          · exact Or.inr (Or.inl h)
          · exact Or.inl h
          · exact Or.inr (Or.inr h)
        · intro h
          rcases h with h | h | h
          · exact Or.inr (Or.inl h)
          · exact Or.inl h
          · exact Or.inr (Or.inr h)

theorem mem_ofList {a : String} {l : List String} : a ∈ ofList l ↔ a ∈ l := by
  induction l with
  | nil => simp [ofList]
  | cons x xs ih =>
    have : a ∈ ofList (x :: xs) ↔ a = x ∨ a ∈ ofList xs := mem_insert
    rw [this, ih, List.mem_cons]

def Ascending (l : List String) : Prop := l.Pairwise (· < ·)

/-- What stands before the first of a list in ascending order stands before all of it. -/
theorem before_all {k x : String} {l : List String} (hk : k < x) (h : Ascending (x :: l)) :
    ∀ y ∈ x :: l, k < y := by
  intro y hy
  rcases List.mem_cons.mp hy with rfl | hy
  · exact hk
  · exact String.lt_trans hk ((List.pairwise_cons.mp h).1 y hy)

theorem behind_of_ne {k x : String} (hlt : ¬ k < x) (hne : k ≠ x) : x < k := by
  refine Classical.byContradiction fun h => hne ?_
  exact String.le_antisymm (String.not_lt.mp h) (String.not_lt.mp hlt)

theorem ascending_insert {k : String} {l : List String} (h : Ascending l) :
    Ascending (insert k l) := by
  induction l with
  | nil => simp [insert, Ascending]
  | cons x xs ih =>
    obtain ⟨hx, hxs⟩ := List.pairwise_cons.mp h
    unfold insert
    split
    · rename_i hk
      exact List.pairwise_cons.mpr ⟨before_all hk h, h⟩
    · split
      · exact h
      · rename_i hlt hne
        refine List.pairwise_cons.mpr ⟨fun y hy => ?_, ih hxs⟩
        rcases mem_insert.mp hy with rfl | hy
        · exact behind_of_ne hlt hne
        · exact hx y hy

theorem ascending_ofList (l : List String) : Ascending (ofList l) := by
  induction l with
  | nil => exact List.Pairwise.nil
  | cons x xs ih => exact ascending_insert ih

theorem lookup_put_self {α : Type} (k : String) (v : α) (l : List (String × α)) :
    (put k v l).lookup k = some v := by
  induction l with
  | nil => simp [put]
  | cons p rest ih =>
    obtain ⟨x, w⟩ := p
    unfold put
    split
    · simp
    · split
      · simp
      · rename_i h
        have : (k == x) = false := by simpa using h
        simp [List.lookup_cons, ih, this]

theorem lookup_put_of_ne {α : Type} {k k' : String} (h : k' ≠ k) (v : α)
    (l : List (String × α)) : (put k v l).lookup k' = l.lookup k' := by
  have hk : (k' == k) = false := by simpa using h
  induction l with
  | nil => simp [put, List.lookup_cons, hk]
  | cons p rest ih =>
    obtain ⟨x, w⟩ := p
    unfold put
    split
    · simp [List.lookup_cons, hk]
    · split
      · rename_i heq
        subst heq
        simp [List.lookup_cons, hk]
      · simp [List.lookup_cons, ih]

theorem mem_keys_put {α : Type} {a k : String} {v : α} {l : List (String × α)} :
    a ∈ (put k v l).map Prod.fst ↔ a = k ∨ a ∈ l.map Prod.fst := by
  induction l with
  | nil => simp [put]
  | cons p rest ih =>
    obtain ⟨x, w⟩ := p
    unfold put
    split
    · simp
    · split
      · rename_i heq
        subst heq
        simp
      · rw [List.map_cons, List.mem_cons, ih, List.map_cons, List.mem_cons]
        exact or_left_comm

theorem ascending_put {α : Type} {k : String} {v : α} {l : List (String × α)}
    (h : Ascending (l.map Prod.fst)) : Ascending ((put k v l).map Prod.fst) := by
  induction l with
  | nil => exact List.pairwise_singleton _ _
  | cons p rest ih =>
    obtain ⟨x, w⟩ := p
    obtain ⟨hx, hrest⟩ := List.pairwise_cons.mp h
    unfold put
    split
    · rename_i hk
      exact List.pairwise_cons.mpr ⟨before_all hk h, h⟩
    · split
      · rename_i heq
        subst heq
        exact h
      · rename_i hlt hne
        refine List.pairwise_cons.mpr ⟨fun y hy => ?_, ih hrest⟩
        rcases mem_keys_put.mp hy with rfl | hy
        · exact behind_of_ne hlt hne
        · exact hx y hy

/-- Nothing is found under a key that stands before all others. -/
theorem lookup_of_before {α : Type} {k : String} {l : List (String × α)}
    (h : ∀ x ∈ l.map Prod.fst, k < x) : l.lookup k = none := by
  rw [List.lookup_eq_none_iff]
  intro p hp
  have hlt := h p.1 (List.mem_map_of_mem hp)
  have hne : k ≠ p.1 := fun heq => String.lt_irrefl k (heq ▸ hlt)
  simpa using hne

theorem lookup_head {α : Type} (k : String) (v : α) (l : List (String × α)) :
    ((k, v) :: l).lookup k = some v := by
  simp

theorem lookup_cons_of_ne {α : Type} {k x : String} (h : k ≠ x) (v : α)
    (l : List (String × α)) : ((x, v) :: l).lookup k = l.lookup k := by
  have hk : (k == x) = false := by simpa using h
  rw [List.lookup_cons, hk]

/-- In a map in ascending order no key comes twice, so it does not matter which is found first. -/
theorem lookup_reverse {α : Type} {l : List (String × α)} (h : Ascending (l.map Prod.fst))
    (k : String) : l.reverse.lookup k = l.lookup k := by
  induction l with
  | nil => rfl
  | cons p l ih =>
    obtain ⟨x, v⟩ := p
    obtain ⟨hx, hl⟩ := List.pairwise_cons.mp h
    rw [List.reverse_cons, List.lookup_append, ih hl]
    by_cases hk : k = x
    · subst hk
      rw [lookup_of_before hx, lookup_head, lookup_head]
      rfl
    · rw [lookup_cons_of_ne hk, lookup_cons_of_ne hk]
      exact Option.or_none

/-- A map whose first key stands before all keys of another has more under that key. -/
theorem lookup_ne_of_lt {α : Type} {k : String} {v : α} {l m : List (String × α)}
    (h : ∀ x ∈ m.map Prod.fst, k < x) : ((k, v) :: l).lookup k ≠ m.lookup k := by
  rw [lookup_head, lookup_of_before h]
  exact Option.some_ne_none v

/-- A map in ascending order is known by what it holds under each key. -/
theorem eq_of_lookup {α : Type} {l m : List (String × α)} (hl : Ascending (l.map Prod.fst))
    (hm : Ascending (m.map Prod.fst)) (h : ∀ k, l.lookup k = m.lookup k) : l = m := by
  induction l generalizing m with
  | nil =>
    cases m with
    | nil => rfl
    | cons q m =>
      have hq := h q.1
      rw [lookup_head] at hq
      cases hq
  | cons p l ih =>
    cases m with
    | nil =>
      have hp := h p.1
      rw [lookup_head] at hp
      cases hp
    | cons q m =>
      obtain ⟨x, v⟩ := p
      obtain ⟨y, w⟩ := q
      obtain ⟨hx, hl'⟩ := List.pairwise_cons.mp hl
      obtain ⟨hy, hm'⟩ := List.pairwise_cons.mp hm
      have hxy : ¬ x < y := by
        intro hlt
        exact lookup_ne_of_lt (m := (y, w) :: m) (before_all hlt hm) (h x)
      have hyx : ¬ y < x := by
        intro hlt
        exact lookup_ne_of_lt (m := (x, v) :: l) (before_all hlt hl) (h y).symm
      obtain rfl : x = y := String.le_antisymm (String.not_lt.mp hyx) (String.not_lt.mp hxy)
      have hv := h x
      rw [lookup_head, lookup_head] at hv
      obtain rfl := Option.some.inj hv
      congr 1
      refine ih hl' hm' fun k => ?_
      by_cases hk : k = x
      · rw [hk, lookup_of_before hx, lookup_of_before hy]
      · have hrest := h k
        rwa [lookup_cons_of_ne hk, lookup_cons_of_ne hk] at hrest

end Sorted
end Facsimile
