/-!
# Splitting text at a character

`List.splitOn` cuts at every occurrence of a separator and keeps empty parts, which hold all of the
text but the separators (`flatten_splitOn`).  `splitLast?` cuts once, at the last occurrence, and is
characterised by `splitLast?_eq_some_iff` and `splitLast?_eq_none_iff`.
-/

namespace Facsimile
namespace Text

def splitLast? (sep : Char) : List Char → Option (List Char × List Char)
  | [] => none
  | c :: cs =>
    match splitLast? sep cs with
    | some (before, after) => some (c :: before, after)
    | none => if c = sep then some ([], cs) else none

/-- The list without the elements at either end that satisfy `p`. -/
def stripEnds {α : Type} (p : α → Bool) (l : List α) : List α :=
  ((l.dropWhile p).reverse.dropWhile p).reverse

theorem flatten_splitOn (sep : Char) (s : List Char) :
    (s.splitOn sep).flatten = s.filter (· != sep) := by
  induction s with
  | nil => rfl
  | cons c cs ih =>
    rw [List.splitOn_cons_eq_if_modifyHead, List.filter_cons, ← ih]
    by_cases hc : c = sep
    · simp [hc]
    · obtain ⟨part, parts, hs⟩ := List.exists_cons_of_ne_nil (List.splitOn_ne_nil sep cs)
      simp [hc, hs]

theorem exists_mem_splitOn_iff {sep c : Char} {s : List Char} :
    (∃ part ∈ s.splitOn sep, c ∈ part) ↔ c ∈ s ∧ c ≠ sep := by
  rw [← List.mem_flatten, flatten_splitOn, List.mem_filter, bne_iff_ne]

theorem not_mem_of_mem_splitOn {sep : Char} {s part : List Char} (h : part ∈ s.splitOn sep) :
    sep ∉ part := fun hsep => (exists_mem_splitOn_iff.mp ⟨part, h, hsep⟩).2 rfl

theorem stripEnds_sublist {α : Type} (p : α → Bool) (l : List α) : (stripEnds p l).Sublist l := by
  have hfront : (l.dropWhile p).Sublist l := List.dropWhile_sublist p
  have hback := (List.dropWhile_sublist p (l := (l.dropWhile p).reverse)).reverse
  rw [List.reverse_reverse] at hback
  exact hback.trans hfront

theorem splitLast?_eq_none_iff {sep : Char} {s : List Char} :
    splitLast? sep s = none ↔ sep ∉ s := by
  induction s with
  | nil => simp [splitLast?]
  | cons c cs ih =>
    unfold splitLast?
    cases h : splitLast? sep cs with
    | some p =>
      have : sep ∈ cs := by
        rw [h] at ih
        simpa using ih
      simp [this]
    | none =>
      have hcs : sep ∉ cs := ih.mp h
      by_cases hc : c = sep
      · simp [hc]
      · simp [hc, hcs, Ne.symm hc]

theorem splitLast?_append_cons {sep : Char} (before : List Char) {after : List Char}
    (h : sep ∉ after) : splitLast? sep (before ++ sep :: after) = some (before, after) := by
  induction before with
  | nil => simp [splitLast?, splitLast?_eq_none_iff.mpr h]
  | cons c cs ih => simp [splitLast?, ih]

theorem splitLast?_eq_some_iff {sep : Char} {s before after : List Char} :
    splitLast? sep s = some (before, after) ↔ s = before ++ sep :: after ∧ sep ∉ after := by
  constructor
  · intro h
    induction s generalizing before with
    | nil => simp [splitLast?] at h
    | cons c cs ih =>
      unfold splitLast? at h
      split at h
      · rename_i b a heq
        simp only [Option.some.injEq, Prod.mk.injEq] at h
        obtain ⟨rfl, rfl⟩ := h
        obtain ⟨rfl, hn⟩ := ih heq
        exact ⟨rfl, hn⟩
      · rename_i heq
        split at h
        · rename_i hc
          simp only [Option.some.injEq, Prod.mk.injEq] at h
          obtain ⟨rfl, rfl⟩ := h
          exact ⟨by simp [hc], splitLast?_eq_none_iff.mp heq⟩
        · simp at h
  · intro h
    obtain ⟨rfl, h⟩ := h
    exact splitLast?_append_cons before h

end Text
end Facsimile
