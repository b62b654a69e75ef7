import Facsimile.Proofs.ByteOrder
import Facsimile.Proofs.FileNames

/-!
# The index of modules

The files of a pass go by their source units, in the order of the bytes of these.  The index, where
it is wanted and there are files, is one more behind them, which lists the modules of all files and
nothing else.  It can stand in the way of a unit whose file has its name, and of nothing else
(`index_adds_one_file`).
-/

namespace Facsimile

/-- Files of source units, each named after its unit, in the order of the units' bytes. -/
structure ByUnit (files : List File) (units : List String) : Prop where
  unit : files.map (·.unit) = units.map some
  ascending : units.Pairwise fun u v => Text.bytes u < Text.bytes v
  name : files.map (·.name) = units.map Naming.fileName
  distinct : (files.map (·.name)).Nodup

/-- A file lists the modules of other files: a pair of lines for each of them, in their order. -/
structure Indexes (i : File) (files : List File) : Prop where
  name : i.name = indexFileName
  unit : i.unit = none
  fresh : ∀ f ∈ files, f.name ≠ i.name
  content : ∃ modules : List String, files.map (·.name) = modules.map (· ++ ".rs") ∧
    i.content = "// Code generated by typemirror. DO NOT EDIT.\n\n" ++
      String.join (modules.map fun m => "pub mod " ++ m ++ ";\npub use " ++ m ++ "::*;\n")

namespace Generator

/-! ## Modules -/

/-- What is taken off the name of a file to get its module was put there before. -/
theorem moduleName_append {f : File} {unit : String} (h : f.name = Naming.fileName unit) :
    moduleName f ++ ".rs" = f.name := by
  obtain ⟨base, hbase⟩ : ∃ base, f.name = base ++ Naming.fileExtension := ⟨_, h⟩
  have hstem : moduleName f = base := by
    have hlength : f.name.length - Naming.fileExtension.length = base.toList.length := by
      rw [hbase, String.length_append, String.length_toList]
      omega
    unfold moduleName
    rw [hlength, hbase, String.toList_append, List.take_left, String.ofList_toList]
  rw [hstem, hbase]
  rfl

theorem map_name_eq_modules {files : List File} {units : List String}
    (h : files.map (·.name) = units.map Naming.fileName) :
    files.map (·.name) = (files.map moduleName).map (· ++ ".rs") := by
  rw [List.map_map]
  refine List.map_congr_left fun f hf => ?_
  have hname : f.name ∈ units.map Naming.fileName := by
    rw [← h]
    exact List.mem_map.mpr ⟨f, hf, rfl⟩
  obtain ⟨unit, -, hunit⟩ := List.mem_map.mp hname
  exact (moduleName_append hunit.symm).symm

/-! ## Files by unit -/

theorem units_sheets_ascending (o : Ordering) (ds : List Declaration) :
    ((planned o ds).sheets.map (·.unit)).Pairwise (· < ·) := by
  have hsub : ((planned o ds).sheets.map (·.unit)).Sublist
      ((planned o ds).groups.map (·.unit)) := by
    have hsheets := (List.filter_sublist (p := fun s : Sheet => !s.origins.isEmpty)
      (l := (planned o ds).groups.map (Group.sheet (planned o ds).hierarchies))).map (·.unit)
    rwa [List.map_map] at hsheets
  exact (units_ascending o _).sublist hsub

theorem byUnit_of_layout {g : Generator} {ds : List Declaration} {l : Layout}
    (h : g.layout ds = .ok l) :
    ByUnit (l.sheets.map (Sheet.file g.emitter)) (l.sheets.map (·.unit)) := by
  have hdistinct := fileNames_nodup h
  obtain ⟨-, -, -, rfl⟩ := layout_eq_ok_iff.mp h
  refine ⟨?_, ?_, ?_, hdistinct⟩
  · rw [List.map_map, List.map_map]
    rfl
  · exact (units_sheets_ascending _ ds).imp Text.bytes_lt
  · rw [List.map_map, List.map_map]
    rfl

/-! ## The same pass with and without the index -/

section WithAndWithout

variable {g g' : Generator} {ds : List Declaration} {l : Layout}

theorem layout_without_index (ht : g'.config.escapeTemplate = g.config.escapeTemplate)
    (ho : g'.config.ordering = g.config.ordering) (hm : g.config.modFile = false)
    (h : g'.layout ds = .ok l) : g.layout ds = .ok l := by
  obtain ⟨hname, hone, hfree, hl⟩ := layout_eq_ok_iff.mp h
  refine layout_eq_ok_iff.mpr ⟨?_, hone, ?_, ?_⟩
  · unfold rawPathKeyword? at hname ⊢
    rwa [ht] at hname
  · rw [ho] at hfree
    rw [hm]
    exact collision?_eq_none_iff.mpr ⟨fun _ _ => rfl, (collision?_eq_none_iff.mp hfree).2⟩
  · rwa [ho] at hl

/-- Only the name of the index can be taken once there is an index. -/
theorem refused_by_index (ht : g'.config.escapeTemplate = g.config.escapeTemplate)
    (h : g.layout ds = .ok l) {e : PassError} (h' : g'.layout ds = .error e) :
    ∃ unit, Naming.fileName unit = indexFileName ∧
      e = .collision ⟨indexFileName, indexOwner, unit⟩ := by
  obtain ⟨hname, hone, hfree, -⟩ := layout_eq_ok_iff.mp h
  rw [rawPathKeyword?_eq_none_iff_not_clash] at hname
  rw [collision?_eq_none_iff_not_clash] at hfree
  have hrefuses := layout_eq_error_iff.mp h'
  cases e with
  | rawPathKeyword keyword =>
    obtain ⟨hraw, hfirst⟩ := hrefuses
    rw [ht] at hraw
    exact absurd ⟨hraw, firstWith_exists_iff.mp ⟨keyword, hfirst⟩⟩ hname
  | severalParents e =>
    obtain ⟨-, d, hfirst, -, -⟩ := hrefuses
    obtain ⟨d, hd, hseveral⟩ := firstWith_exists_iff.mp ⟨d, hfirst⟩
    exact absurd hseveral (hone d hd)
  | collision c =>
    obtain ⟨fileName, first, second⟩ := c
    obtain ⟨-, -, hsame, hunit, htaken, -⟩ := hrefuses
    rcases htaken with ⟨-, howner, hindex⟩ | ⟨howner, hlt, hfile⟩
    · simp only at hsame howner hindex
      rw [hsame, howner, hindex]
      exact ⟨second, hindex, rfl⟩
    · refine absurd (Or.inl ⟨first, second, ?_, howner, hunit, hfile⟩) hfree
      intro heq
      rw [heq] at hlt
      exact String.lt_irrefl _ hlt

end WithAndWithout

/-! ## The file of the index -/

theorem withIndex_of_ne_nil {files : List File} (h : files ≠ []) :
    withIndex true files = files ++ [index files] := by
  have hempty : files.isEmpty = false := by simpa using h
  unfold withIndex
  rw [hempty]
  rfl

theorem indexes_index {files : List File} {units : List String} (h : ByUnit files units)
    (hnames : ((files ++ [index files]).map (·.name)).Nodup) : Indexes (index files) files where
  name := rfl
  unit := rfl
  fresh := by
    intro f hf hsame
    rw [List.map_append, List.nodup_append] at hnames
    obtain ⟨-, -, hother⟩ := hnames
    exact hother f.name (List.mem_map.mpr ⟨f, hf, rfl⟩) _ (List.mem_singleton.mpr rfl) hsame
  content := by
    refine ⟨files.map moduleName, map_name_eq_modules h.name, ?_⟩
    rw [List.map_map]
    rfl

/-- Without index a pass writes files by unit.  The index adds one file to them, if there is any,
and refuses a model for the sake of its own name alone. -/
theorem index_adds_one_file {c : Config} {g g' : Generator}
    (hg : new { c with modFile := false } = .ok g) (hg' : new { c with modFile := true } = .ok g')
    (model : List Declaration) :
    (∀ files, g.generate model = .ok files → ∃ units, ByUnit files units) ∧
      (∀ files', g'.generate model = .ok files' → ∃ files, g.generate model = .ok files ∧
        ((files = [] ∧ files' = []) ∨
          files ≠ [] ∧ ∃ i, files' = files ++ [i] ∧ Indexes i files)) ∧
      ∀ files e, g.generate model = .ok files → g'.generate model = .error e →
        ∃ unit, Naming.fileName unit = indexFileName ∧
          e = .collision ⟨indexFileName, indexOwner, unit⟩ := by
  have hc := (new_eq_ok hg).1
  have hc' := (new_eq_ok hg').1
  obtain ⟨hemitter, hselected⟩ := alike_of_new hg hg' rfl rfl rfl rfl
  have ht : g'.config.escapeTemplate = g.config.escapeTemplate := by rw [hc, hc']
  have ho : g'.config.ordering = g.config.ordering := by rw [hc, hc']
  have hoff : g.config.modFile = false := by rw [hc]
  have hon : g'.config.modFile = true := by rw [hc']
  refine ⟨?_, ?_, ?_⟩
  · intro files hfiles
    obtain ⟨ss, hss, rfl⟩ := generate_eq_ok_iff.mp hfiles
    obtain ⟨hl, rfl⟩ := sheets_eq_ok_iff.mp hss
    rw [hoff]
    exact ⟨_, byUnit_of_layout hl⟩
  · intro files' hfiles'
    have hnames := names_nodup hfiles'
    obtain ⟨ss, hss, rfl⟩ := generate_eq_ok_iff.mp hfiles'
    obtain ⟨hl', hsheets⟩ := sheets_eq_ok_iff.mp hss
    rw [hselected, ho] at hl' hsheets
    have hl := layout_without_index ht ho hoff hl'
    have hfiles : g.generate model = .ok (ss.map (Sheet.file g.emitter)) := by
      refine generate_eq_ok_iff.mpr ⟨ss, sheets_eq_ok_iff.mpr ⟨hl, hsheets⟩, ?_⟩
      rw [hoff]
      rfl
    have hby := byUnit_of_layout hl
    rw [← hsheets] at hby
    refine ⟨_, hfiles, ?_⟩
    rw [hon, hemitter] at hnames ⊢
    by_cases hnone : ss.map (Sheet.file g.emitter) = []
    · rw [hnone]
      exact Or.inl ⟨rfl, rfl⟩
    · rw [withIndex_of_ne_nil hnone] at hnames ⊢
      exact Or.inr ⟨hnone, _, rfl, indexes_index hby hnames⟩
  · intro files e hfiles herror
    obtain ⟨ss, hss, -⟩ := generate_eq_ok_iff.mp hfiles
    obtain ⟨hl, -⟩ := sheets_eq_ok_iff.mp hss
    rw [generate_eq_error_iff, ← layout_eq_error_iff, hselected] at herror
    exact refused_by_index ht hl herror

def indexed : Generator :=
  { standard with config := { Config.default with modFile := true } }

theorem new_indexed : new { Config.default with modFile := true } = .ok indexed := rfl

/-- Two files with an index, and a file that has the name of the index. -/
theorem discs_indexed :
    new { Config.default with modFile := false } = .ok standard ∧
      new { Config.default with modFile := true } = .ok indexed ∧
      (∃ files files', standard.generate [discIn "Round.kt", discIn "Disc.kt"] = .ok files ∧
        indexed.generate [discIn "Round.kt", discIn "Disc.kt"] = .ok files' ∧
        (∃ units, ByUnit files units) ∧ ∃ i, files' = files ++ [i] ∧ Indexes i files) ∧
      ∃ files e, standard.generate [discIn "mod.kt"] = .ok files ∧
        indexed.generate [discIn "mod.kt"] = .error e ∧
        ∃ unit, Naming.fileName unit = indexFileName ∧
          e = .collision ⟨indexFileName, indexOwner, unit⟩ := by
  have hdiscs := index_adds_one_file new_default new_indexed [discIn "Round.kt", discIn "Disc.kt"]
  have hmod := index_adds_one_file new_default new_indexed [discIn "mod.kt"]
  refine ⟨new_default, new_indexed, ?_, _, _, rfl, rfl, hmod.2.2 _ _ rfl rfl⟩
  obtain ⟨files, hfiles, hnone | hsome⟩ := hdiscs.2.1 _ rfl
  · cases hnone.2
  · exact ⟨files, _, hfiles, rfl, hdiscs.1 files hfiles, hsome.2⟩

end Generator
end Facsimile
