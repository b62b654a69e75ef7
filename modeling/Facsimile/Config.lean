import Facsimile.Naming.Reserved
import Facsimile.Text.Split

/-!
# Settings

What a user may set, which declarations the settings let through, and the settings that name an
argument of an annotation: `AnnotationPath.parse?` cuts such a text at its last dot, as
`AnnotationPath.parse?_eq_some_iff` says.
-/

namespace Facsimile

/-- The order of declarations within one source unit. -/
inductive Ordering where
  | discovery
  | name
  deriving DecidableEq, Repr

namespace Ordering

def names : List (String × Ordering) := [("discovery", .discovery), ("name", .name)]

end Ordering

structure Config where
  outputDir : String
  /-- Packages to include, each with all packages that it is the start of. -/
  packages : List String
  sourceUnits : List String
  /-- Annotations of which a declaration needs one. -/
  markers : List String
  /-- Annotation arguments that give the discriminator key of a sealed root. -/
  discriminators : List String
  /-- The annotation argument that gives the name on the wire. -/
  serialName : String
  escapeTemplate : String
  ordering : Ordering
  /-- Whether an index of all generated modules is written. -/
  modFile : Bool

namespace Config

def default : Config where
  outputDir := "generated"
  packages := []
  sourceUnits := []
  markers := ["kotlinx.serialization.Serializable"]
  discriminators := ["kotlinx.serialization.json.JsonClassDiscriminator.discriminator"]
  serialName := "kotlinx.serialization.SerialName.value"
  escapeTemplate := "\x7bfield\x7d_"
  ordering := .discovery
  modFile := false

def includesPackage (c : Config) (package : String) : Bool :=
  c.packages.any fun start => start.toList.isPrefixOf package.toList

/-- Whether the filters let a declaration through: without filters everything, else what one of them
includes. -/
def accepts (c : Config) (package sourceUnit : Option String) : Bool :=
  (c.packages.isEmpty && c.sourceUnits.isEmpty) || package.any c.includesPackage ||
    sourceUnit.any c.sourceUnits.contains

end Config

inductive ConfigError where
  | malformedPath (text : String)
  | missingPlaceholder (template : String)
  deriving DecidableEq, Repr

def ConfigError.message : ConfigError → String
  | .malformedPath text =>
    "invalid annotation config `" ++ text ++
      "`: expected `qualified.annotation.Name.argument` with a non-empty name and argument"
  | .missingPlaceholder template =>
    "escape template `" ++ template ++ "` must contain the `\x7bfield\x7d` placeholder"

/-- An argument of an annotation. -/
structure AnnotationPath where
  qualifiedName : String
  argument : String
  deriving DecidableEq, Repr

namespace AnnotationPath

def parse? (text : String) : Option AnnotationPath :=
  match Text.splitLast? '.' text.toList with
  | some (name, argument) =>
    if name.isEmpty || argument.isEmpty then none
    else some ⟨String.ofList name, String.ofList argument⟩
  | none => none

theorem parse?_eq_some_iff {text : String} {path : AnnotationPath} :
    parse? text = some path ↔
      text.toList = path.qualifiedName.toList ++ '.' :: path.argument.toList ∧
        '.' ∉ path.argument.toList ∧ path.qualifiedName ≠ "" ∧ path.argument ≠ "" := by
  obtain ⟨name, argument⟩ := path
  unfold parse?
  split
  · rename_i before after heq
    obtain ⟨hs, hn⟩ := Text.splitLast?_eq_some_iff.mp heq
    split
    · rename_i hempty
      constructor
      · intro h
        cases h
      · intro h
        obtain ⟨ht, ha, hq, hne⟩ := h
        have h := Text.splitLast?_eq_some_iff.mpr ⟨ht, ha⟩
        rw [heq] at h
        simp only [Option.some.injEq, Prod.mk.injEq] at h
        simp_all
    · rename_i hempty
      constructor
      · intro h
        simp only [Option.some.injEq, AnnotationPath.mk.injEq] at h
        obtain ⟨rfl, rfl⟩ := h
        simp_all
      · intro h
        obtain ⟨ht, ha, -, -⟩ := h
        have h := Text.splitLast?_eq_some_iff.mpr ⟨ht, ha⟩
        rw [heq] at h
        simp only [Option.some.injEq, Prod.mk.injEq] at h
        simp [h.1, h.2]
  · rename_i heq
    constructor
    · intro h
      cases h
    · intro h
      obtain ⟨ht, ha, -, -⟩ := h
      rw [Text.splitLast?_eq_some_iff.mpr ⟨ht, ha⟩] at heq
      cases heq

def parse (text : String) : Except ConfigError AnnotationPath :=
  match parse? text with
  | some path => .ok path
  | none => .error (.malformedPath text)

end AnnotationPath
end Facsimile
