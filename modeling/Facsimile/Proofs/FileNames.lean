import Facsimile.Proofs.Paths
import Facsimile.Proofs.Placement
import Facsimile.Proofs.Refusal
import Facsimile.Proofs.SnakeCase

/-!
# Files as entries of one directory

The files of a pass have different names.  A name can stand for an entry of a directory if it is one
component of a path, and which source units give such a name is known: those that have a last
component, and those without one that name no directory either (`isComponent_fileName_iff`).
-/

namespace Facsimile
namespace Naming

open Facsimile.Path (IsComponent)

/-- A source unit whose file is named after one component of a path.  A unit without last component,
whose whole text is used, has to be without slash. -/
def HasBaseName (unit : String) : Prop := lastComponent? unit.toList ≠ none ∨ '/' ∉ unit.toList

instance (unit : String) : Decidable (HasBaseName unit) := inferInstanceAs (Decidable (_ ∨ _))

theorem slash_mem_snakeAfter_iff {prev : Option Char} {s : List Char} :
    '/' ∈ snakeAfter prev s ↔ '/' ∈ s := by
  induction s generalizing prev with
  | nil => exact Iff.rfl
  | cons c cs ih =>
    have hhead : '/' ∈ (if startsWord prev c cs.head? then ['_', c.toLower] else [c.toLower]) ↔
        '/' = c := by
      rw [eq_comm (b := c), ← toLower_eq_iff (by decide)]
      split
      · simp [eq_comm]
      · simp [eq_comm]
    unfold snakeAfter
    rw [List.mem_append, hhead, ih, List.mem_cons]

theorem mem_of_mem_stem {x : Char} {component : List Char} (h : x ∈ stem component) :
    x ∈ component := by
  unfold stem at h
  split at h
  · exact h
  · rename_i before after _ hsplit
    rw [(Text.splitLast?_eq_some_iff.mp hsplit).1]
    exact List.mem_append_left _ h
  · exact h

theorem slash_not_mem_lastComponent {path component : List Char}
    (h : lastComponent? path = some component) : '/' ∉ component := by
  unfold lastComponent? at h
  split at h
  · rename_i part hfind
    split at h
    · cases h
    · obtain rfl := Option.some.inj h
      have hmem := List.mem_reverse.mp (List.mem_of_find?_eq_some hfind)
      exact Text.not_mem_of_mem_splitOn hmem
  · cases h

theorem slash_mem_fileName_iff {unit : String} :
    '/' ∈ (fileName unit).toList ↔ ¬HasBaseName unit := by
  have hname : ∀ base : List Char,
      '/' ∈ (fieldName (String.ofList base) ++ fileExtension).toList ↔ '/' ∈ base := by
    intro base
    have hext : '/' ∉ fileExtension.toList := by decide
    have hfield : (fieldName (String.ofList base)).toList = snakeAfter none base := by
      unfold fieldName
      rw [String.toList_ofList, String.toList_ofList]
    rw [String.toList_append, List.mem_append, hfield, slash_mem_snakeAfter_iff]
    exact or_iff_left hext
  unfold fileName HasBaseName
  rw [hname]
  cases hlast : lastComponent? unit.toList with
  | none => simp
  | some component =>
    have hstem : '/' ∉ stem component := fun h =>
      slash_not_mem_lastComponent hlast (mem_of_mem_stem h)
    simpa using hstem

theorem isComponent_of_extension {base : String} (h : '/' ∉ (base ++ fileExtension).toList) :
    IsComponent (base ++ fileExtension) := by
  have hlong : 3 ≤ (base ++ fileExtension).length := by
    have hext : fileExtension.length = 3 := rfl
    rw [String.length_append]
    omega
  have hshort : ∀ name : String, name.length < 3 → base ++ fileExtension ≠ name := by
    intro name hlt heq
    rw [heq] at hlong
    omega
  exact ⟨hshort "" (by decide), hshort "." (by decide), hshort ".." (by decide), h⟩

/-- A unit gives the name of an entry exactly if it has a base name. -/
theorem isComponent_fileName_iff {unit : String} :
    IsComponent (fileName unit) ↔ HasBaseName unit := by
  constructor
  · intro h
    by_contra hno
    exact h.2.2.2 (slash_mem_fileName_iff.mpr hno)
  · intro h
    exact isComponent_of_extension fun hslash => slash_mem_fileName_iff.mp hslash h

end Naming

namespace Generator

theorem mem_withIndex {modFile : Bool} {fs : List File} {f : File} (h : f ∈ withIndex modFile fs) :
    f ∈ fs ∨ f = index fs := by
  unfold withIndex at h
  split at h
  · rcases List.mem_append.mp h with h | h
    · exact Or.inl h
    · exact Or.inr (List.mem_singleton.mp h)
  · exact Or.inl h

theorem name_of_mem {g : Generator} {model : List Declaration} {files : List File}
    (h : g.generate model = .ok files) {f : File} (hf : f ∈ files) :
    (∃ unit, f.unit = some unit ∧ f.name = Naming.fileName unit) ∨
      (f.unit = none ∧ f.name = indexFileName) := by
  obtain ⟨ss, -, rfl⟩ := generate_eq_ok_iff.mp h
  rcases mem_withIndex hf with hf | rfl
  · obtain ⟨s, -, rfl⟩ := List.mem_map.mp hf
    exact Or.inl ⟨s.unit, rfl, rfl⟩
  · exact Or.inr ⟨rfl, rfl⟩

/-- The files of a pass can all stand in one directory exactly if their units have base names. -/
theorem components_iff {g : Generator} {model : List Declaration} {files : List File}
    (h : g.generate model = .ok files) :
    (∀ f ∈ files, Path.IsComponent f.name) ↔
      ∀ f ∈ files, ∀ unit, f.unit = some unit → Naming.HasBaseName unit := by
  refine forall₂_congr fun f hf => ?_
  rcases name_of_mem h hf with ⟨unit, hunit, hname⟩ | ⟨hunit, hname⟩
  · rw [hunit, hname, Naming.isComponent_fileName_iff]
    constructor
    · intro hbase v hv
      obtain rfl := Option.some.inj hv
      exact hbase
    · intro hbase
      exact hbase unit rfl
  · rw [hunit, hname]
    have hindex : Path.IsComponent indexFileName := by decide
    exact iff_of_true hindex fun _ hv => by cases hv

/-- No two files of a pass have one name, the index included. -/
theorem names_nodup {g : Generator} {model : List Declaration} {files : List File}
    (h : g.generate model = .ok files) : (files.map (·.name)).Nodup := by
  obtain ⟨ss, hss, rfl⟩ := generate_eq_ok_iff.mp h
  obtain ⟨hl, rfl⟩ := sheets_eq_ok_iff.mp hss
  have hunits := fileNames_nodup hl
  unfold withIndex
  split
  · rename_i hindex
    rw [Bool.and_eq_true] at hindex
    obtain ⟨-, -, hfree, -⟩ := layout_eq_ok_iff.mp hl
    have howner := (collision?_eq_none_iff.mp hfree).1
    rw [List.map_append, List.nodup_append]
    refine ⟨hunits, List.nodup_singleton _, ?_⟩
    intro name hname name' hname' heq
    rw [List.mem_singleton.mp hname'] at heq
    subst heq
    obtain ⟨f, hf, hfile⟩ := List.mem_map.mp hname
    obtain ⟨s, hs, rfl⟩ := List.mem_map.mp hf
    obtain ⟨group, hgroup, rfl⟩ := List.mem_map.mp (List.mem_of_mem_filter hs)
    have hnone := howner group.unit (List.mem_map.mpr ⟨group, hgroup, rfl⟩)
    have hsame : Naming.fileName group.unit = indexFileName := hfile
    have hsome := lookup_reservedFiles.mpr ⟨hindex.1, rfl, hsame⟩
    rw [hnone] at hsome
    cases hsome
  · exact hunits

end Generator
end Facsimile
