import Facsimile.Proofs.AcceptedSettings
import Mathlib.Data.List.Induction

/-!
# Declarations built step by step

A declaration is started with its qualified name as a record, an enumeration or a sealed root, and
then changed: its unit, its documentation, its supertypes, its annotations.  `IsBuilt` says what it
holds after a list of changes, and one more change keeps this.  The qualified name is cut at its
last dot, where the path of an annotation argument is cut too, so that a name and a path of one text
have the same two parts (`names_and_changes_kept`).
-/

namespace Facsimile

/-! ## Names -/

/-- The package and the simple name that a qualified name consists of. -/
structure CutsName (qualifiedName : String) (package : Option String) (simple : String) : Prop where
  absent : package = none ↔ '.' ∉ qualifiedName.toList
  joined : package.elim simple (fun start => start ++ "." ++ simple) = qualifiedName
  undotted : '.' ∉ simple.toList

theorem splitLast?_joined {package simple : String} (h : '.' ∉ simple.toList) :
    Text.splitLast? '.' (package ++ "." ++ simple).toList =
      some (package.toList, simple.toList) := by
  rw [String.toList_append, String.toList_append, List.append_assoc]
  exact Text.splitLast?_append_cons package.toList h

theorem dot_mem_joined (package simple : String) : '.' ∈ (package ++ "." ++ simple).toList := by
  rw [String.toList_append, String.toList_append]
  exact List.mem_append_left _ (List.mem_append_right _ List.mem_cons_self)

theorem joined_inj {package simple package' simple' : String} (h : '.' ∉ simple.toList)
    (h' : '.' ∉ simple'.toList) (heq : package ++ "." ++ simple = package' ++ "." ++ simple') :
    package = package' ∧ simple = simple' := by
  have hsplit := congrArg (fun q => Text.splitLast? '.' q.toList) heq
  simp only [splitLast?_joined h, splitLast?_joined h'] at hsplit
  obtain ⟨hpackage, hsimple⟩ := Prod.mk.inj (Option.some.inj hsplit)
  exact ⟨String.toList_inj.mp hpackage, String.toList_inj.mp hsimple⟩

theorem cutsName_ofName (kind : Kind) (q : String) :
    CutsName q (Declaration.ofName kind q).package (Declaration.ofName kind q).simpleName := by
  unfold Declaration.ofName
  cases hsplit : Text.splitLast? '.' q.toList with
  | none =>
    have hundotted := Text.splitLast?_eq_none_iff.mp hsplit
    exact ⟨iff_of_true rfl hundotted, rfl, hundotted⟩
  | some parts =>
    obtain ⟨package, simple⟩ := parts
    obtain ⟨hq, hundotted⟩ := Text.splitLast?_eq_some_iff.mp hsplit
    have hjoined : String.ofList package ++ "." ++ String.ofList simple = q := by
      rw [← String.toList_inj, hq]
      simp
    have hdot := dot_mem_joined (String.ofList package) (String.ofList simple)
    rw [hjoined] at hdot
    refine ⟨iff_of_false (Option.some_ne_none _) (not_not_intro hdot), hjoined, ?_⟩
    rwa [String.toList_ofList]

namespace CutsName

variable {q simple : String} {package : Option String}

/-- The simple name is the last of the parts between dots. -/
theorem getLast?_splitOn (h : CutsName q package simple) :
    (q.toList.splitOn '.').getLast? = some simple.toList := by
  obtain ⟨-, hjoined, hundotted⟩ := h
  cases package with
  | none =>
    rw [← hjoined]
    exact congrArg List.getLast? (List.splitOn_eq_singleton hundotted)
  | some start =>
    have hparts : q.toList.splitOn '.' = start.toList.splitOn '.' ++ [simple.toList] := by
      rw [← hjoined, Option.elim_some, String.toList_append, String.toList_append,
        List.append_assoc, ← List.splitOn_eq_singleton hundotted]
      exact List.splitOn_append_cons_self start.toList simple.toList
    rw [hparts, List.getLast?_concat]

/-- A path is read from a qualified name exactly if both parts of the name are there, and then it
has these parts. -/
theorem parse_eq_ok_iff (h : CutsName q package simple) {path : AnnotationPath} :
    AnnotationPath.parse q = .ok path ↔
      package = some path.qualifiedName ∧ simple = path.argument ∧
        path.qualifiedName ≠ "" ∧ path.argument ≠ "" := by
  obtain ⟨habsent, hjoined, hundotted⟩ := h
  rw [AnnotationPath.parse_eq_ok_iff]
  constructor
  · intro hpath
    obtain ⟨⟨hnamed, hargued, hundotted'⟩, htext⟩ := hpath
    cases package with
    | none =>
      have hdot := dot_mem_joined path.qualifiedName path.argument
      rw [← AnnotationPath.text, htext] at hdot
      exact absurd hdot (habsent.mp rfl)
    | some start =>
      rw [← htext] at hjoined
      obtain ⟨hstart, hsimple⟩ := joined_inj hundotted hundotted' hjoined
      exact ⟨congrArg some hstart, hsimple, hnamed, hargued⟩
  · intro hparts
    obtain ⟨rfl, rfl, hnamed, hargued⟩ := hparts
    exact ⟨⟨hnamed, hargued, hundotted⟩, hjoined⟩

end CutsName

namespace Declaration

/-! ## Changes -/

/-- What a declaration is started as. -/
inductive Start where
  | record (fields : List Field)
  | enumeration (entries : List Entry)
  | sealedRoot

namespace Start

def declare (q : String) : Start → Declaration
  | .record fields => Declaration.record q fields
  | .enumeration entries => Declaration.enumeration q entries
  | .sealedRoot => Declaration.sealedRoot q

def kind : Start → Kind
  | .record _ => .record
  | .enumeration _ => .enumeration
  | .sealedRoot => .sealedRoot

def fields : Start → List Field
  | .record fields => fields
  | .enumeration _ | .sealedRoot => []

def entries : Start → List Entry
  | .enumeration entries => entries
  | .record _ | .sealedRoot => []

end Start

inductive Change where
  | placed (unit : String)
  | documented (text : String)
  | extended (supertype : String)
  | annotated (a : Annotation)

namespace Change

@[simp] def unit? : Change → Option String
  | .placed unit => some unit
  | _ => none

@[simp] def docs? : Change → Option String
  | .documented text => some text
  | _ => none

@[simp] def supertype? : Change → Option String
  | .extended supertype => some supertype
  | _ => none

@[simp] def annotation? : Change → Option Annotation
  | .annotated a => some a
  | _ => none

end Change

def change (d : Declaration) : Change → Declaration
  | .placed unit => d.inUnit unit
  | .documented text => d.withDocs text
  | .extended supertype => d.extending supertype
  | .annotated a => d.annotatedWith a

def built (start : Start) (q : String) (changes : List Change) : Declaration :=
  changes.foldl change (start.declare q)

/-- What a declaration holds after changes: its unit and its documentation are those of the last
change of each, its supertypes and its annotations those of all changes, and the rest is as it was
at the start. -/
structure IsBuilt (start : Start) (q : String) (changes : List Change) (d : Declaration) :
    Prop where
  kind : d.kind = start.kind
  qualifiedName : d.qualifiedName = q
  names : CutsName q d.package d.simpleName
  fields : d.fields = start.fields
  entries : d.entries = start.entries
  sourceUnit : d.sourceUnit = (changes.filterMap Change.unit?).getLast?
  docs : d.docs = (changes.filterMap Change.docs?).getLast?
  supertypes : d.supertypes = changes.filterMap Change.supertype?
  annotations : d.annotations = changes.filterMap Change.annotation?

section Steps

variable {start : Start} {q : String} {changes : List Change} {d : Declaration}

theorem isBuilt_declare (start : Start) (q : String) : IsBuilt start q [] (start.declare q) := by
  cases start with
  | record fields => exact ⟨rfl, rfl, cutsName_ofName .record q, rfl, rfl, rfl, rfl, rfl, rfl⟩
  | enumeration entries =>
    exact ⟨rfl, rfl, cutsName_ofName .enumeration q, rfl, rfl, rfl, rfl, rfl, rfl⟩
  | sealedRoot => exact ⟨rfl, rfl, cutsName_ofName .sealedRoot q, rfl, rfl, rfl, rfl, rfl, rfl⟩

/-- One change gives a unit or a documentation in place of an earlier one, or adds a supertype or an
annotation behind those that are there, and touches nothing else. -/
theorem change_eq (d : Declaration) (c : Change) :
    d.change c = { d with
      sourceUnit := c.unit?.or d.sourceUnit
      docs := c.docs?.or d.docs
      supertypes := d.supertypes ++ c.supertype?.toList
      annotations := d.annotations ++ c.annotation?.toList } := by
  cases c with
  | placed unit => simp [change, inUnit]
  | documented text => simp [change, withDocs]
  | extended supertype => simp [change, extending]
  | annotated a => simp [change, annotatedWith]

theorem filterMap_concat {β : Type} (read : Change → Option β) (changes : List Change)
    (c : Change) :
    (changes ++ [c]).filterMap read = changes.filterMap read ++ (read c).toList := by
  rw [List.filterMap_append]
  cases hread : read c with
  | none => rw [List.filterMap_cons_none hread]; rfl
  | some value => rw [List.filterMap_cons_some hread]; rfl

theorem getLast?_filterMap_concat {β : Type} (read : Change → Option β) (changes : List Change)
    (c : Change) : ((changes ++ [c]).filterMap read).getLast? =
      (read c).or (changes.filterMap read).getLast? := by
  rw [filterMap_concat, List.getLast?_append]
  cases read c with
  | none => rfl
  | some value => rfl

theorem IsBuilt.change (h : IsBuilt start q changes d) (c : Change) :
    IsBuilt start q (changes ++ [c]) (d.change c) := by
  rw [change_eq]
  constructor
  case kind => exact h.kind
  case qualifiedName => exact h.qualifiedName
  case names => exact h.names
  case fields => exact h.fields
  case entries => exact h.entries
  case sourceUnit => rw [getLast?_filterMap_concat, ← h.sourceUnit]
  case docs => rw [getLast?_filterMap_concat, ← h.docs]
  case supertypes => rw [filterMap_concat, ← h.supertypes]
  case annotations => rw [filterMap_concat, ← h.annotations]

theorem isBuilt_built (start : Start) (q : String) (changes : List Change) :
    IsBuilt start q changes (built start q changes) := by
  induction changes using List.reverseRecOn with
  | nil => exact isBuilt_declare start q
  | append_singleton changes c ih =>
    rw [built, List.foldl_concat]
    exact ih.change c

end Steps

/-- A declaration keeps the names and the contents that it is started with, and its other properties
are those of the changes.  Its package and simple name are the qualified name cut at the last dot,
and a path is read from the same text exactly if neither is missing or empty. -/
theorem names_and_changes_kept (start : Start) (q : String) (changes : List Change) :
    IsBuilt start q changes (built start q changes) ∧
      (q.toList.splitOn '.').getLast? = some (built start q changes).simpleName.toList ∧
      ∀ path, AnnotationPath.parse q = .ok path ↔
        (built start q changes).package = some path.qualifiedName ∧
          (built start q changes).simpleName = path.argument ∧
          path.qualifiedName ≠ "" ∧ path.argument ≠ "" := by
  have hbuilt := isBuilt_built start q changes
  exact ⟨hbuilt, hbuilt.names.getLast?_splitOn, fun path => hbuilt.names.parse_eq_ok_iff⟩

example : built .sealedRoot "m..Shape" [.placed "A.kt", .documented "A shape.", .placed "B.kt"] =
    ⟨.sealedRoot, "m..Shape", "Shape", some "m.", some "B.kt", some "A shape.", [], [], [], []⟩ :=
  rfl

end Declaration
end Facsimile
