import Facsimile.Storage.Path
import Mathlib.Data.List.Basic

/-!
# Texts of paths

What the file system reads from the texts that are made for it: the text of a list of parts has
these parts, and the text of a name within a directory has the parts of the directory and the name.
-/

namespace Facsimile
namespace Path

/-- A name that can stand for an entry of a directory. -/
def IsComponent (name : String) : Prop :=
  name ≠ "" ∧ name ≠ "." ∧ name ≠ ".." ∧ '/' ∉ name.toList

instance (name : String) : Decidable (IsComponent name) := inferInstanceAs (Decidable (_ ∧ _))

/-- What can stand between two slashes. -/
def IsPart (part : String) : Prop := part ≠ "" ∧ '/' ∉ part.toList

theorem partsOf_append_slash (a b : List Char) :
    partsOf (a ++ '/' :: b) = partsOf a ++ partsOf b := by
  unfold partsOf
  rw [List.splitOn_append_cons_self, List.filter_append, List.map_append]

theorem partsOf_of_no_slash {s : List Char} (hne : s ≠ []) (h : '/' ∉ s) :
    partsOf s = [String.ofList s] := by
  unfold partsOf
  rw [List.splitOn_eq_singleton h]
  simp [hne]

theorem isPart_of_mem_partsOf {s : List Char} {part : String} (h : part ∈ partsOf s) :
    IsPart part := by
  obtain ⟨cs, hcs, rfl⟩ := List.mem_map.mp h
  obtain ⟨hmem, hne⟩ := List.mem_filter.mp hcs
  have hne : cs ≠ [] := of_decide_eq_true hne
  have hslash : '/' ∉ cs := Text.not_mem_of_mem_splitOn hmem
  constructor
  · intro hempty
    rw [← String.toList_inj, String.toList_ofList] at hempty
    exact hne hempty
  · rw [String.toList_ofList]
    exact hslash

theorem mem_parts_of_mem_steps {p : Path} {part : String} (h : part ∈ p.steps) :
    part ∈ p.parts := by
  obtain ⟨absolute, parts, slashEnded⟩ := p
  cases parts with
  | nil => exact h
  | cons first rest =>
    have hsub : (Path.steps ⟨absolute, first :: rest, slashEnded⟩).Sublist (first :: rest) := by
      show ((if first = "." ∧ absolute then [] else [first]) ++ rest.filter _).Sublist
        ([first] ++ rest)
      refine List.Sublist.append ?_ List.filter_sublist
      split
      · exact List.nil_sublist _
      · exact List.Sublist.refl _
    exact hsub.subset h

/-! ## Texts of parts -/

theorem toList_ne_nil {s : String} (h : s ≠ "") : s.toList ≠ [] :=
  mt String.toList_eq_nil_iff.mp h

theorem partsOf_intercalate {parts : List String} (h : ∀ part ∈ parts, IsPart part) :
    partsOf ("/".intercalate parts).toList = parts := by
  induction parts with
  | nil => rfl
  | cons part rest ih =>
    obtain ⟨hne, hslash⟩ := h part List.mem_cons_self
    have hpart : partsOf part.toList = [part] := by
      rw [partsOf_of_no_slash (toList_ne_nil hne) hslash, String.ofList_toList]
    cases rest with
    | nil => rw [String.intercalate_singleton, hpart]
    | cons next rest =>
      have htext : ("/".intercalate (part :: next :: rest)).toList =
          part.toList ++ '/' :: ("/".intercalate (next :: rest)).toList := by
        rw [String.intercalate_cons_cons]
        simp
      rw [htext, partsOf_append_slash, hpart, ih fun q hq => h q (List.mem_cons_of_mem _ hq)]
      rfl

theorem head?_intercalate {part : String} {rest : List String} (h : part ≠ "") :
    ("/".intercalate (part :: rest)).toList.head? = part.toList.head? := by
  cases rest with
  | nil => rw [String.intercalate_singleton]
  | cons next rest =>
    obtain ⟨c, cs, hcs⟩ := List.exists_cons_of_ne_nil (toList_ne_nil h)
    rw [String.intercalate_cons_cons]
    simp [hcs]

theorem head?_ne_slash {part : String} (h : '/' ∉ part.toList) : part.toList.head? ≠ some '/' := by
  intro hhead
  exact h (List.mem_of_mem_head? hhead)

theorem parts_ofText_textOf (absolute : Bool) {parts : List String}
    (h : ∀ part ∈ parts, IsPart part) :
    (ofText (textOf absolute parts)).parts = parts := by
  show partsOf (textOf absolute parts).toList = parts
  cases absolute with
  | false =>
    have htext : textOf false parts = "/".intercalate parts := String.empty_append
    rw [htext, partsOf_intercalate h]
  | true =>
    have htext : (textOf true parts).toList = [] ++ '/' :: ("/".intercalate parts).toList := by
      show ("/" ++ "/".intercalate parts).toList = _
      simp
    rw [htext, partsOf_append_slash, partsOf_intercalate h]
    rfl

theorem absolute_ofText_textOf (absolute : Bool) {part : String} {rest : List String}
    (h : IsPart part) :
    (ofText (textOf absolute (part :: rest))).absolute = absolute := by
  show ((textOf absolute (part :: rest)).toList.head? == some '/') = absolute
  cases absolute with
  | false =>
    have htext : textOf false (part :: rest) = "/".intercalate (part :: rest) := String.empty_append
    rw [htext, head?_intercalate h.1, beq_eq_false_iff_ne]
    exact head?_ne_slash h.2
  | true =>
    show (("/" ++ "/".intercalate (part :: rest)).toList.head? == some '/') = true
    simp

/-! ## Names within a directory -/

section Join

variable {name : String}

/-- The text of a name within a directory has the parts of the directory, then the name. -/
theorem parts_join (directory : String) (h : IsComponent name) :
    (ofText (join directory name)).parts = (ofText directory).parts ++ [name] := by
  obtain ⟨hne, -, -, hslash⟩ := h
  have hname : partsOf name.toList = [name] := by
    rw [partsOf_of_no_slash (toList_ne_nil hne) hslash, String.ofList_toList]
  show partsOf (join directory name).toList = partsOf directory.toList ++ [name]
  unfold join
  rw [if_neg (head?_ne_slash hslash)]
  split
  · rename_i hend
    rw [Bool.or_eq_true, beq_iff_eq, String.isEmpty_iff] at hend
    rcases hend with rfl | hlast
    · rw [String.empty_append, hname]
      rfl
    · -- The slash that ends the directory is the one in front of the name.
      obtain ⟨start, hstart⟩ := List.getLast?_eq_some_iff.mp hlast
      have hdirectory : partsOf directory.toList = partsOf start := by
        rw [hstart, partsOf_append_slash]
        exact List.append_nil _
      rw [String.toList_append, hdirectory, hstart, List.append_assoc, List.singleton_append,
        partsOf_append_slash, hname]
  · have htext : (directory ++ "/" ++ name).toList = directory.toList ++ '/' :: name.toList := by
      simp
    rw [htext, partsOf_append_slash, hname]

theorem absolute_join (directory : String) (h : IsComponent name) :
    (ofText (join directory name)).absolute = (ofText directory).absolute := by
  have hhead := head?_ne_slash h.2.2.2
  show ((join directory name).toList.head? == some '/') = (directory.toList.head? == some '/')
  by_cases hempty : directory = ""
  · subst hempty
    have hjoin : join "" name = name := by
      unfold join
      rw [if_neg hhead, if_pos (by rfl), String.empty_append]
    rw [hjoin, beq_eq_false_iff_ne.mpr hhead]
    rfl
  · obtain ⟨c, cs, hcs⟩ := List.exists_cons_of_ne_nil (toList_ne_nil hempty)
    unfold join
    rw [if_neg hhead]
    split
    · simp [hcs]
    · simp [hcs]

theorem slashEnded_join (directory : String) (h : IsComponent name) :
    (ofText (join directory name)).slashEnded = false := by
  obtain ⟨hne, -, -, hslash⟩ := h
  have hlast : name.toList.getLast? ≠ some '/' := by
    intro hend
    exact hslash (List.mem_of_getLast? hend)
  have happend : ∀ before : String, (before ++ name).toList.getLast? = name.toList.getLast? := by
    intro before
    rw [String.toList_append, List.getLast?_append_of_ne_nil _ (toList_ne_nil hne)]
  show ((join directory name).toList.getLast? == some '/') = false
  rw [beq_eq_false_iff_ne]
  unfold join
  rw [if_neg (head?_ne_slash hslash)]
  split
  · rw [happend]
    exact hlast
  · rw [happend]
    exact hlast

theorem parse_eq_ofText {text : String} {p : Path} (h : parse text = .ok p) : p = ofText text := by
  unfold parse at h
  split at h
  · cases h
  · split at h
    · cases h
    · split at h
      · cases h
      · exact (Except.ok.inj h).symm

end Join

end Path
end Facsimile
