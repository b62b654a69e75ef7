import Facsimile.Proofs.CamelCase
import Facsimile.Proofs.ModuleIndex
import Facsimile.Proofs.ReservedNames

/-!
# Reserved words as modules

The index declares a module for each file, under the name that the file has without its extension,
and escapes nothing.  That name is the base name of the source unit in snake case, so it is reserved
exactly if the base name is a reserved word in one of three spellings
(`index_modules_reserved_iff`).  One word cannot occur: its file would take the place of the index.
-/

namespace Facsimile
namespace Naming

/-- What the file of a source unit is named after. -/
def baseName (unit : String) : List Char :=
  match lastComponent? unit.toList with
  | some component => stem component
  | none => unit.toList

def moduleName (unit : String) : String := fieldName (String.ofList (baseName unit))

theorem fileName_eq (unit : String) : fileName unit = moduleName unit ++ ".rs" := rfl

/-- Base names of which a module gets a reserved name. -/
def keywordStems : List (List Char) :=
  (spelledWords.filter fun word => word.all Char.isLower).flatMap spellings

theorem mem_spelledWords_iff {s : List Char} :
    s ∈ spelledWords ↔ isReserved (String.ofList s) = true := by
  constructor
  · intro h
    obtain ⟨word, hword, rfl⟩ := List.mem_map.mp h
    rw [String.ofList_toList]
    exact List.contains_iff_mem.mpr hword
  · intro h
    have hword := toList_mem_spelledWords h
    rwa [String.toList_ofList] at hword

theorem isAlpha_of_mem_spelledWords {word : List Char} (h : word ∈ spelledWords) :
    ∀ c ∈ word, c.isAlpha = true := by
  have hall : spelledWords.all (fun word => word.all Char.isAlpha) = true := by decide +kernel
  exact List.all_eq_true.mp (List.all_eq_true.mp hall word h)

/-- Snake case of a spelling of a word is the word. -/
theorem snakeAfter_of_spelling {word s : List Char} (hword : ∀ c ∈ word, c.isLower = true)
    (hs : s ∈ spellings word) : snakeAfter none s = word := by
  have hkept : ∀ c ∈ word, c.isUpper = false := fun c hc =>
    Bool.eq_false_iff.mpr (Char.not_isUpper_of_isLower (hword c hc))
  have hback : ∀ c ∈ word, c.toUpper.toLower = c := by
    intro c hc
    rw [Char.toLower_toUpper_eq_toLower]
    exact Char.toLower_eq_of_not_isUpper (Bool.eq_false_iff.mp (hkept c hc))
  cases word with
  | nil =>
    have hnil : s = [] := by simpa [spellings] using hs
    rw [hnil]
    rfl
  | cons c cs =>
    obtain ⟨hfirst, hothers⟩ := List.forall_mem_cons.mp hback
    simp only [spellings, List.mem_cons, List.not_mem_nil, or_false] at hs
    rcases hs with rfl | rfl | rfl
    · exact snakeAfter_of_not_upper none hkept
    · rw [List.modifyHead_cons, snakeAfter_none_cons, hfirst,
        snakeAfter_of_not_upper _ (List.forall_mem_cons.mp hkept).2]
    · have hupper : ∀ d ∈ (c :: cs).map Char.toUpper, d.isUpper = true := by
        intro d hd
        obtain ⟨e, he, rfl⟩ := List.mem_map.mp hd
        rw [Char.isUpper_toUpper_eq_isAlpha, Char.isAlpha, hword e he, Bool.or_true]
      obtain ⟨hcapital, hcapitals⟩ := List.forall_mem_cons.mp hupper
      have hrest : snakeAfter (some c.toUpper) (cs.map Char.toUpper ++ []) =
          (cs.map Char.toUpper).map Char.toLower ++ [] := snakeAfter_capitals hcapital hcapitals rfl
      have hlower : (cs.map Char.toUpper).map Char.toLower = cs := by
        rw [List.map_map]
        calc cs.map (Char.toLower ∘ Char.toUpper) = cs.map id := List.map_congr_left hothers
          _ = cs := List.map_id cs
      rw [List.append_nil, List.append_nil, hlower] at hrest
      rw [List.map_cons, snakeAfter_none_cons, hfirst, hrest]

theorem snakeAfter_keywordStems {stem : List Char} (h : stem ∈ keywordStems) :
    snakeAfter none stem ∈ spelledWords := by
  obtain ⟨word, hword, hspelling⟩ := List.mem_flatMap.mp h
  obtain ⟨hmem, hlower⟩ := List.mem_filter.mp hword
  rwa [snakeAfter_of_spelling (List.all_eq_true.mp hlower) hspelling]

/-- Snake case gives a reserved word for its three spellings only. -/
theorem isReserved_fieldName_iff {s : List Char} :
    isReserved (fieldName (String.ofList s)) = true ↔ s ∈ keywordStems := by
  have hname : fieldName (String.ofList s) = String.ofList (snakeAfter none s) := by
    unfold fieldName
    rw [String.toList_ofList]
  rw [hname, ← mem_spelledWords_iff]
  constructor
  · intro h
    have halpha := isAlpha_of_mem_spelledWords h
    have hone : '_' ∉ snakeAfter none s := fun hmem => absurd (halpha '_' hmem) (by decide)
    have hlower := snakeAfter_eq_map hone
    rw [hlower] at h halpha
    have hs : ∀ c ∈ s, c.isAlpha = true := by
      intro c hc
      have hc' := halpha c.toLower (List.mem_map.mpr ⟨c, hc, rfl⟩)
      rwa [Char.isAlpha_toLower_eq_isAlpha] at hc'
    refine List.mem_flatMap.mpr ⟨_, List.mem_filter.mpr ⟨h, ?_⟩, mem_spellings_of_snake hs hone⟩
    rw [List.all_map, List.all_eq_true]
    intro c hc
    show c.toLower.isLower = true
    rw [Char.isLower_toLower_eq_isAlpha]
    exact hs c hc
  · exact snakeAfter_keywordStems

end Naming

namespace Generator

theorem moduleName_of_unit {f : File} {unit : String} (h : f.name = Naming.fileName unit) :
    moduleName f = Naming.moduleName unit := by
  have happend := moduleName_append h
  rw [h, Naming.fileName_eq, ← String.toList_inj, String.toList_append, String.toList_append,
    List.append_cancel_right_eq, String.toList_inj] at happend
  exact happend

theorem map_moduleName {fs : List File} {units : List String}
    (h : fs.map (·.name) = units.map Naming.fileName) :
    fs.map moduleName = units.map Naming.moduleName := by
  induction fs generalizing units with
  | nil =>
    cases units with
    | nil => rfl
    | cons _ _ => cases h
  | cons f fs ih =>
    cases units with
    | nil => cases h
    | cons unit units =>
      obtain ⟨hf, hfs⟩ := List.cons.inj h
      rw [List.map_cons, List.map_cons, moduleName_of_unit hf, ih hfs]

/-- The index of a pass declares the module of each of its source units.  A module is reserved
exactly if the base name of its unit is a reserved word other than `mod`, in lower case, with a
capital, or in capitals. -/
theorem index_modules_reserved_iff {c : Config} {g : Generator} (hg : new c = .ok g)
    (hm : c.modFile = true) {model : List Declaration} {files : List File}
    (hfiles : g.generate model = .ok files) :
    files = [] ∨ ∃ fs i units, files = fs ++ [i] ∧ ByUnit fs units ∧ i.name = "mod.rs" ∧
      i.content = "// Code generated by typemirror. DO NOT EDIT.\n\n" ++
        String.join (units.map fun unit => "pub mod " ++ Naming.moduleName unit ++ ";\npub use " ++
          Naming.moduleName unit ++ "::*;\n") ∧
      ∀ unit ∈ units, Naming.moduleName unit ≠ "mod" ∧
        (Naming.isReserved (Naming.moduleName unit) = true ↔
          Naming.baseName unit ∈ Naming.keywordStems) := by
  have hnames := names_nodup hfiles
  obtain ⟨ss, hss, rfl⟩ := generate_eq_ok_iff.mp hfiles
  obtain ⟨hl, rfl⟩ := sheets_eq_ok_iff.mp hss
  have hby := byUnit_of_layout hl
  have hon : g.config.modFile = true := by rw [(new_eq_ok hg).1, hm]
  rw [hon] at hnames ⊢
  generalize (planned g.config.ordering (g.selected model)).sheets.map
    (Sheet.file g.emitter) = fs at hby hnames ⊢
  generalize (planned g.config.ordering (g.selected model)).sheets.map (·.unit) = units at hby
  by_cases hnone : fs = []
  · subst hnone
    exact Or.inl rfl
  · right
    rw [withIndex_of_ne_nil hnone] at hnames ⊢
    refine ⟨fs, index fs, units, rfl, hby, rfl, ?_, fun unit hunit => ⟨?_, ?_⟩⟩
    · have hmodules :=
        congrArg (List.map fun m => "pub mod " ++ m ++ ";\npub use " ++ m ++ "::*;\n")
        (map_moduleName hby.name)
      rw [List.map_map, List.map_map] at hmodules
      exact congrArg (fun lines => _ ++ String.join lines) hmodules
    · intro hmod
      have hname : Naming.fileName unit ∈ fs.map (·.name) := by
        rw [hby.name]
        exact List.mem_map.mpr ⟨unit, hunit, rfl⟩
      have hindex : (index fs).name = Naming.fileName unit := by
        rw [Naming.fileName_eq, hmod]
        rfl
      rw [List.map_append, List.nodup_append] at hnames
      exact hnames.2.2 _ hname _ (List.mem_singleton.mpr rfl) hindex.symm
    · exact Naming.isReserved_fieldName_iff

/-- A record in a unit that is named after a reserved word. -/
def kindIn (unit : String) : Declaration := marked ((Declaration.record "m.Kind" []).inUnit unit)

theorem kinds_indexed :
    new { Config.default with modFile := true } = .ok indexed ∧
      { Config.default with modFile := true }.modFile = true ∧
      ∃ files, indexed.generate [kindIn "src/Type.kt", kindIn "typeName.kt"] = .ok files ∧
        (files = [] ∨ ∃ fs i units, files = fs ++ [i] ∧ ByUnit fs units ∧ i.name = "mod.rs" ∧
          i.content = "// Code generated by typemirror. DO NOT EDIT.\n\n" ++
            String.join (units.map fun unit => "pub mod " ++ Naming.moduleName unit ++
              ";\npub use " ++ Naming.moduleName unit ++ "::*;\n") ∧
          ∀ unit ∈ units, Naming.moduleName unit ≠ "mod" ∧
            (Naming.isReserved (Naming.moduleName unit) = true ↔
              Naming.baseName unit ∈ Naming.keywordStems)) ∧
        Naming.baseName "src/Type.kt" ∈ Naming.keywordStems ∧
        Naming.baseName "typeName.kt" ∉ Naming.keywordStems := by
  obtain ⟨files, hfiles⟩ : ∃ files,
      indexed.generate [kindIn "src/Type.kt", kindIn "typeName.kt"] = .ok files := ⟨_, rfl⟩
  exact ⟨new_indexed, rfl, files, hfiles, index_modules_reserved_iff new_indexed rfl hfiles,
    by decide +kernel, by decide +kernel⟩

/-- The unit `Type.kt` has a stem of letters, and the index declares the module `type` for it. -/
theorem kind_declares_reserved :
    new { Config.default with modFile := true } = .ok indexed ∧
      Naming.baseName "Type.kt" = "Type".toList ∧ Naming.isReserved "type" = true ∧
      ∃ f i, indexed.generate [kindIn "Type.kt"] = .ok [f, i] ∧ f.name = "type.rs" ∧
        i.name = "mod.rs" ∧
        i.content = "// Code generated by typemirror. DO NOT EDIT.\n\n" ++
          "pub mod type;\npub use type::*;\n" :=
  ⟨new_indexed, by decide +kernel, by decide, _, _, rfl, by decide +kernel, rfl, by decide +kernel⟩

end Generator
end Facsimile
