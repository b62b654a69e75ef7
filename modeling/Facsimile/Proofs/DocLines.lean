import Facsimile.Text.Blank
import Mathlib.Data.List.DropRight
import Mathlib.Data.List.TakeWhile

/-!
# Lines of documentation

Documentation consists of the trimmed lines of a text, from the first that is not empty to the
last.  What is left of a list whose ends are stripped is determined by how it stands in the list
(`stripEnds_eq_iff`), for the characters of a line as for the lines of a text.  `docLines_project`
says where the lines come from, that no other line has a text, and that they are the documentation
of the text that they make up.
-/

namespace Facsimile
namespace Text

/-! ## Ends of a list -/

section Ends

variable {α : Type} {p : α → Bool} {l m : List α}

/-- `m` is what stands between elements with `p` at either end of `l`. -/
structure IsStripped (p : α → Bool) (l m : List α) : Prop where
  run : ∃ before after, l = before ++ (m ++ after) ∧ (∀ a ∈ before, p a = true) ∧
    ∀ a ∈ after, p a = true
  start : ∀ a ∈ m.head?, p a = false
  finish : ∀ a ∈ m.getLast?, p a = false

theorem head?_dropWhile (p : α → Bool) (l : List α) :
    ∀ a ∈ (l.dropWhile p).head?, p a = false := by
  intro a ha
  have hhead := List.head?_dropWhile_not p l
  rw [Option.mem_def.mp ha] at hhead
  exact hhead

theorem isStripped_stripEnds (p : α → Bool) (l : List α) : IsStripped p l (stripEnds p l) := by
  have hback : stripEnds p l ++ (l.dropWhile p).rtakeWhile p = l.dropWhile p :=
    List.rdropWhile_append_rtakeWhile
  constructor
  case run =>
    refine ⟨l.takeWhile p, (l.dropWhile p).rtakeWhile p, ?_, fun a => List.mem_takeWhile_imp,
      fun a => List.mem_rtakeWhile_imp⟩
    rw [hback, List.takeWhile_append_dropWhile]
  case start =>
    intro a ha
    refine head?_dropWhile p l a ?_
    rw [← hback, List.head?_append, Option.mem_def.mp ha]
    rfl
  case finish =>
    unfold stripEnds
    rw [List.getLast?_reverse]
    exact head?_dropWhile p _

/-- Stripping stops at the first element of what is left. -/
theorem dropWhile_run {before after : List α} (hbefore : ∀ a ∈ before, p a = true)
    (hstart : ∀ a ∈ m.head?, p a = false) (hm : m ≠ []) :
    (before ++ (m ++ after)).dropWhile p = m ++ after := by
  obtain ⟨a, m, rfl⟩ := List.exists_cons_of_ne_nil hm
  have ha : ¬p a = true := Bool.eq_false_iff.mp (hstart a rfl)
  rw [List.dropWhile_append_of_pos hbefore, List.cons_append, List.dropWhile_cons_of_neg ha]

theorem stripEnds_eq_nil_iff : stripEnds p l = [] ↔ ∀ a ∈ l, p a = true := by
  constructor
  · intro h
    obtain ⟨before, after, hrun, hbefore, hafter⟩ := (isStripped_stripEnds p l).run
    rw [h, List.nil_append] at hrun
    rw [hrun]
    exact List.forall_mem_append.mpr ⟨hbefore, hafter⟩
  · intro h
    rw [stripEnds, List.dropWhile_eq_nil_iff.mpr h]
    rfl

theorem stripEnds_eq_iff : stripEnds p l = m ↔ IsStripped p l m := by
  constructor
  · intro h
    rw [← h]
    exact isStripped_stripEnds p l
  · intro h
    obtain ⟨⟨before, after, hrun, hbefore, hafter⟩, hstart, hfinish⟩ := h
    by_cases hm : m = []
    · subst hm
      rw [stripEnds_eq_nil_iff, hrun]
      exact List.forall_mem_append.mpr ⟨hbefore, hafter⟩
    · have hfront : l.dropWhile p = m ++ after := by
        rw [hrun, dropWhile_run hbefore hstart hm]
      have hback : (after.reverse ++ (m.reverse ++ [])).dropWhile p = m.reverse ++ [] := by
        refine dropWhile_run ?_ ?_ ?_
        · exact fun a ha => hafter a (List.mem_reverse.mp ha)
        · rwa [List.head?_reverse]
        · rwa [ne_eq, List.reverse_eq_nil_iff]
      rw [List.append_nil] at hback
      rw [stripEnds, hfront, List.reverse_append, hback, List.reverse_reverse]

theorem stripEnds_append {after : List α} (h : ∀ a ∈ after, p a = true) :
    stripEnds p (l ++ after) = stripEnds p l := by
  obtain ⟨⟨before, behind, hrun, hbefore, hbehind⟩, hstart, hfinish⟩ := isStripped_stripEnds p l
  refine stripEnds_eq_iff.mpr ⟨⟨before, behind ++ after, ?_, hbefore, ?_⟩, hstart, hfinish⟩
  · rw [← List.append_assoc _ behind, ← List.append_assoc before, ← hrun]
  · exact List.forall_mem_append.mpr ⟨hbehind, h⟩

theorem stripEnds_of_ends (hstart : ∀ a ∈ l.head?, p a = false)
    (hfinish : ∀ a ∈ l.getLast?, p a = false) : stripEnds p l = l := by
  refine stripEnds_eq_iff.mpr ⟨⟨[], [], ?_, List.forall_mem_nil _, List.forall_mem_nil _⟩, hstart,
    hfinish⟩
  rw [List.nil_append, List.append_nil]

theorem stripEnds_map {β : Type} (f : β → α) (k : List β) :
    stripEnds p (k.map f) = (stripEnds (p ∘ f) k).map f := by
  unfold stripEnds
  rw [List.dropWhile_map, ← List.map_reverse, List.dropWhile_map, ← List.map_reverse]

end Ends

/-! ## Stripping by index -/

section Slices

variable {α : Type} {p : α → Bool} {before l m after : List α}

/-- The elements from one index up to another, if the list has both in this order. -/
def slice? (l : List α) (start stop : Nat) : Option (List α) :=
  if start ≤ stop ∧ stop ≤ l.length then some ((l.take stop).drop start) else none

def findLastIdx? (p : α → Bool) (l : List α) : Option Nat :=
  (l.reverse.findIdx? p).map fun i => l.length - 1 - i

/-- The index of the first element without `p`, behind the list if there is none. -/
def keptFrom (p : α → Bool) (l : List α) : Nat := (l.findIdx? fun a => !p a).getD l.length

/-- The index behind the last element without `p`. -/
def keptTo (p : α → Bool) (l : List α) : Nat :=
  (findLastIdx? (fun a => !p a) l).elim (keptFrom p l) (· + 1)

theorem findIdx?_of_all (h : ∀ a ∈ l, p a = true) : (l.findIdx? fun a => !p a) = none := by
  rw [List.findIdx?_eq_none_iff]
  intro a ha
  rw [h a ha]
  rfl

theorem findIdx?_run (hbefore : ∀ a ∈ before, p a = true) (hstart : ∀ a ∈ m.head?, p a = false)
    (hm : m ≠ []) : ((before ++ (m ++ after)).findIdx? fun a => !p a) = some before.length := by
  obtain ⟨a, m, rfl⟩ := List.exists_cons_of_ne_nil hm
  have ha : (!p a) = true := by rw [hstart a rfl]; rfl
  rw [List.findIdx?_append, findIdx?_of_all hbefore, List.cons_append, List.findIdx?_cons,
    if_pos ha]
  simp

theorem keptFrom_run (hbefore : ∀ a ∈ before, p a = true) (hstart : ∀ a ∈ m.head?, p a = false)
    (hm : m ≠ []) : keptFrom p (before ++ (m ++ after)) = before.length := by
  rw [keptFrom, findIdx?_run hbefore hstart hm]
  rfl

theorem keptTo_run (hafter : ∀ a ∈ after, p a = true) (hfinish : ∀ a ∈ m.getLast?, p a = false)
    (hm : m ≠ []) : keptTo p (before ++ (m ++ after)) = before.length + m.length := by
  have hback : (before ++ (m ++ after)).reverse =
      after.reverse ++ (m.reverse ++ before.reverse) := by
    rw [List.reverse_append, List.reverse_append, List.append_assoc]
  have hlast : (after.reverse ++ (m.reverse ++ before.reverse)).findIdx? (fun a => !p a) =
      some after.reverse.length := by
    refine findIdx?_run (fun a ha => hafter a (List.mem_reverse.mp ha)) ?_ ?_
    · rwa [List.head?_reverse]
    · rwa [ne_eq, List.reverse_eq_nil_iff]
  have hpos := List.length_pos_iff.mpr hm
  rw [keptTo, findLastIdx?, hback, hlast]
  simp only [Option.map_some, Option.elim_some, List.length_append, List.length_reverse]
  omega

theorem slice?_run :
    slice? (before ++ (m ++ after)) before.length (before.length + m.length) = some m := by
  have hbounds : before.length ≤ before.length + m.length ∧
      before.length + m.length ≤ (before ++ (m ++ after)).length := by
    rw [List.length_append, List.length_append]
    omega
  rw [slice?, if_pos hbounds, ← List.append_assoc, ← List.length_append, List.take_left,
    List.drop_left]

theorem slice?_of_all (h : ∀ a ∈ l, p a = true) :
    slice? l (keptFrom p l) (keptTo p l) = some [] := by
  have hfrom : keptFrom p l = l.length := by
    rw [keptFrom, findIdx?_of_all h]
    rfl
  have hto : keptTo p l = l.length := by
    rw [keptTo, findLastIdx?, findIdx?_of_all fun a ha => h a (List.mem_reverse.mp ha)]
    exact hfrom
  rw [hfrom, hto, slice?, if_pos ⟨Nat.le_refl _, Nat.le_refl _⟩, List.take_length,
    List.drop_length]

/-- The indices are in order and within the list, and the list without its ends stands between
them. -/
theorem slice?_kept (p : α → Bool) (l : List α) :
    slice? l (keptFrom p l) (keptTo p l) = some (stripEnds p l) := by
  by_cases hm : stripEnds p l = []
  · rw [hm]
    exact slice?_of_all (stripEnds_eq_nil_iff.mp hm)
  · obtain ⟨⟨before, after, hrun, hbefore, hafter⟩, hstart, hfinish⟩ := isStripped_stripEnds p l
    generalize stripEnds p l = m at hm hrun hstart hfinish ⊢
    rw [hrun, keptFrom_run hbefore hstart hm, keptTo_run hafter hfinish hm, slice?_run]

end Slices

/-! ## Lines of a text -/

/-- A line that a line feed has ended, without the carriage return in front of the line feed. -/
def withoutReturn (line : List Char) : List Char :=
  if line.getLast? = some '\r' then line.dropLast else line

/-- The lines among the parts between line feeds.  The last part is a line unless it is empty. -/
def linesOf : List (List Char) → List (List Char)
  | [] => []
  | [rest] => if rest.isEmpty then [] else [rest]
  | part :: parts => withoutReturn part :: linesOf parts

def lines (s : List Char) : List (List Char) := linesOf (s.splitOn '\n')

def trimmedText (line : List Char) : String := String.ofList (trim line)

/-- The lines of a documentation text, without white space at their ends. -/
def trimmedLines (docs : String) : List String := (lines docs.toList).map trimmedText

theorem trim_withoutReturn (line : List Char) : trim (withoutReturn line) = trim line := by
  unfold withoutReturn
  split
  · rename_i hreturn
    have hline : line.dropLast ++ ['\r'] = line := List.dropLast_append_getLast? '\r' hreturn
    have hblank : ∀ c ∈ ['\r'], isBlank c = true := List.forall_mem_singleton.mpr (by decide)
    conv_rhs => rw [← hline]
    exact (stripEnds_append hblank).symm
  · rfl

/-- Only an empty part can be missing among the lines. -/
theorem exists_trimmed_parts (parts : List (List Char)) :
    ∃ rest, parts.map trimmedText = (linesOf parts).map trimmedText ++ rest ∧
      ∀ line ∈ rest, line.isEmpty = true := by
  fun_induction linesOf parts with
  | case1 => exact ⟨[], rfl, List.forall_mem_nil _⟩
  | case2 rest hempty =>
    rw [List.isEmpty_iff] at hempty
    subst hempty
    exact ⟨[""], rfl, List.forall_mem_singleton.mpr rfl⟩
  | case3 rest hfull => exact ⟨[], rfl, List.forall_mem_nil _⟩
  | case4 part parts hmore ih =>
    obtain ⟨rest, hparts, hrest⟩ := ih
    have hpart : trimmedText (withoutReturn part) = trimmedText part :=
      congrArg String.ofList (trim_withoutReturn part)
    refine ⟨rest, ?_, hrest⟩
    rw [List.map_cons, List.map_cons, hpart, hparts, List.cons_append]

theorem isEmpty_ofList (s : List Char) : (String.ofList s).isEmpty = s.isEmpty := by
  cases s with
  | nil => rfl
  | cons c cs => simp

theorem docLines_eq_of_parts (docs : String) :
    docLines docs = stripEnds String.isEmpty ((docs.toList.splitOn '\n').map trimmedText) := by
  have hempty : String.isEmpty ∘ String.ofList = List.isEmpty := funext isEmpty_ofList
  have hmap : (docs.toList.splitOn '\n').map trimmedText =
      ((docs.toList.splitOn '\n').map trim).map String.ofList := by
    rw [List.map_map]
    rfl
  rw [hmap, stripEnds_map String.ofList, hempty]
  rfl

theorem docLines_eq (docs : String) :
    docLines docs = stripEnds String.isEmpty (trimmedLines docs) := by
  obtain ⟨rest, hparts, hrest⟩ := exists_trimmed_parts (docs.toList.splitOn '\n')
  rw [docLines_eq_of_parts, hparts, stripEnds_append hrest]
  rfl

/-! ## Documentation -/

/-- Lines as they stand in documentation. -/
structure IsDocumentation (lines : List String) : Prop where
  unbroken : ∀ line ∈ lines, '\n' ∉ line.toList
  trimmed : ∀ line ∈ lines, (∀ c ∈ line.toList.head?, isBlank c = false) ∧
    ∀ c ∈ line.toList.getLast?, isBlank c = false
  start : lines.head? ≠ some ""
  finish : lines.getLast? ≠ some ""

theorem exists_trimmedText_eq {docs line : String} (h : line ∈ docLines docs) :
    ∃ part, trimmedText part = line := by
  rw [docLines_eq_of_parts] at h
  obtain ⟨part, -, hpart⟩ := List.mem_map.mp ((stripEnds_sublist String.isEmpty _).mem h)
  exact ⟨part, hpart⟩

theorem isEmpty_end_iff {o : Option String} :
    (∀ line ∈ o, line.isEmpty = false) ↔ o ≠ some "" := by
  cases o with
  | none => simp
  | some line => simp [Bool.eq_false_iff]

theorem isDocumentation_docLines (docs : String) : IsDocumentation (docLines docs) := by
  have hstripped := isStripped_stripEnds String.isEmpty (trimmedLines docs)
  rw [← docLines_eq] at hstripped
  constructor
  case unbroken => exact fun line => lineFeed_not_mem_docLines
  case trimmed =>
    intro line hline
    obtain ⟨part, rfl⟩ := exists_trimmedText_eq hline
    rw [trimmedText, String.toList_ofList]
    have hpart := isStripped_stripEnds isBlank part
    exact ⟨hpart.start, hpart.finish⟩
  case start => exact isEmpty_end_iff.mp hstripped.start
  case finish => exact isEmpty_end_iff.mp hstripped.finish

/-- Lines that are documentation can be told from the text that they make up. -/
theorem docLines_intercalate {lines : List String} (h : IsDocumentation lines) :
    docLines ("\n".intercalate lines) = lines := by
  obtain ⟨hunbroken, htrimmed, hstart, hfinish⟩ := h
  by_cases hlines : lines = []
  · subst hlines
    rfl
  · have hfeed : ∀ part ∈ lines.map String.toList, '\n' ∉ part := by
      intro part hpart
      obtain ⟨line, hline, rfl⟩ := List.mem_map.mp hpart
      exact hunbroken line hline
    have hparts : ("\n".intercalate lines).toList.splitOn '\n' = lines.map String.toList := by
      rw [String.toList_intercalate]
      exact List.splitOn_intercalate '\n' hfeed (by rwa [ne_eq, List.map_eq_nil_iff])
    have hkept : (lines.map String.toList).map trimmedText = lines.map id := by
      rw [List.map_map]
      refine List.map_congr_left fun line hline => ?_
      obtain ⟨hfirst, hlast⟩ := htrimmed line hline
      show String.ofList (stripEnds isBlank line.toList) = line
      rw [stripEnds_of_ends hfirst hlast, String.ofList_toList]
    rw [docLines_eq_of_parts, hparts, hkept, List.map_id]
    exact stripEnds_of_ends (isEmpty_end_iff.mpr hstart) (isEmpty_end_iff.mpr hfinish)

theorem isEmpty_trimmedText_iff {line : List Char} :
    (trimmedText line).isEmpty = true ↔ ∀ c ∈ line, isBlank c = true := by
  rw [trimmedText, isEmpty_ofList, List.isEmpty_iff, trim, stripEnds_eq_nil_iff]

theorem docLines_eq_nil_iff {docs : String} :
    docLines docs = [] ↔ ∀ c ∈ docs.toList, isBlank c = true := by
  rw [docLines_eq_of_parts, stripEnds_eq_nil_iff, List.forall_mem_map]
  simp only [isEmpty_trimmedText_iff]
  constructor
  · intro h c hc
    by_cases hfeed : c = '\n'
    · subst hfeed
      decide
    · obtain ⟨part, hpart, hmem⟩ := exists_mem_splitOn_iff.mpr ⟨hc, hfeed⟩
      exact h part hpart c hmem
  · intro h part hpart c hc
    exact h c (exists_mem_splitOn_iff.mp ⟨part, hpart, hc⟩).1

/-- The documentation lines of a text are a run of its trimmed lines, between the indices of the
first and the last that is not empty, and leave out empty lines only.  There are none exactly if the
text is blank, and joined again they are the lines of their own documentation. -/
theorem docLines_project (docs : String) :
    slice? (trimmedLines docs) (keptFrom String.isEmpty (trimmedLines docs))
        (keptTo String.isEmpty (trimmedLines docs)) = some (docLines docs) ∧
      IsDocumentation (docLines docs) ∧
      (docLines docs = [] ↔ ∀ c ∈ docs.toList, isBlank c = true) ∧
      (∃ before after, trimmedLines docs = before ++ (docLines docs ++ after) ∧
        ∀ line ∈ before ++ after, line = "") ∧
      docLines ("\n".intercalate (docLines docs)) = docLines docs := by
  have hdocs := isDocumentation_docLines docs
  refine ⟨?_, hdocs, docLines_eq_nil_iff, ?_, docLines_intercalate hdocs⟩
  · rw [docLines_eq]
    exact slice?_kept String.isEmpty (trimmedLines docs)
  · obtain ⟨before, after, hrun, hbefore, hafter⟩ :=
      (isStripped_stripEnds String.isEmpty (trimmedLines docs)).run
    rw [← docLines_eq] at hrun
    refine ⟨before, after, hrun, fun line hline => String.isEmpty_iff.mp ?_⟩
    rcases List.mem_append.mp hline with hline | hline
    · exact hbefore line hline
    · exact hafter line hline

example : docLines "\r\n  A user.\r\n\u3000\n\tShown\rtwice. \n\n" =
    ["A user.", "", "Shown\rtwice."] := rfl

end Text
end Facsimile
