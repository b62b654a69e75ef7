import Facsimile.Model.Decode
import Facsimile.Proofs.RecordSpellings

/-!
# Spellings of a model

`SpelledAs` says for each part of a model which documents stand for it, and a decoder that may open
as many arrays and objects as a document nests gives back what is written
(`decodeModel_of_spelled`).
-/

namespace Facsimile

open Json

/-! ## Annotations -/

def ArgumentsSpelled (arguments : List (String × Value)) (d : Doc) : Prop :=
  (Value.object arguments).SpelledAs d

theorem decodeMap_of_spelled {arguments : List (String × Value)} {d : Doc}
    (h : ArgumentsSpelled arguments d) {depth : Nat} (hn : d.nesting ≤ depth) :
    decodeMap depth d = .ok arguments := by
  have hvalue := decodeValue_of_spelled h hn
  cases h with
  | object parts members _ _ _ =>
    cases depth with
    | zero => cases hn
    | succ depth =>
      rw [decodeValue] at hvalue
      show decodeMembers (decodeValue depth) _ = _
      cases hdecode : decodeMembers (decodeValue depth)
          (parts.map fun p => (some p.1, p.2.2)) with
      | error e =>
        rw [hdecode] at hvalue
        cases hvalue
      | ok found =>
        rw [hdecode] at hvalue
        exact congrArg Except.ok (Value.object.inj (Except.ok.inj hvalue))

namespace Annotation

/-- What stands for the members of an annotation. -/
structure Parts (a : Annotation) (parts : String → List Doc) : Prop where
  qualifiedName : Given TextSpelled none a.qualifiedName (parts "qualified_name")
  arguments : Given ArgumentsSpelled (some []) a.arguments (parts "arguments")

def memberNames : List String := ["qualified_name", "arguments"]

def SpelledAs (a : Annotation) (d : Doc) : Prop :=
  ∃ parts, RecordParts memberNames d parts ∧ a.Parts parts

theorem decode_of_spelled {a : Annotation} {d : Doc} (h : a.SpelledAs d) {depth : Nat}
    (hn : d.nesting ≤ depth) : Annotation.decode depth d = .ok a := by
  obtain ⟨parts, hparts, hname, harguments⟩ := h
  refine decodeRecord_of_made hparts (fun _ => rfl) (by decide) hn fun inner hinner => ?_
  refine .cons (hname.decoded fun _ _ h => decodeString_of_spelled h) ?_
  refine .cons (harguments.decoded fun e he h => decodeMap_of_spelled h (hinner _ e he)) ?_
  exact .nil a

theorem decodeList_of_spelled {as : List Annotation} {d : Doc}
    (h : ListSpelled Annotation.SpelledAs as d) {depth : Nat} (hn : d.nesting ≤ depth) :
    decodeList Annotation.decode depth d = .ok as :=
  Facsimile.decodeList_of_spelled h hn fun _ _ _ h hn => decode_of_spelled h hn

end Annotation

/-! ## Entries -/

namespace Entry

/-- What stands for the members of an entry. -/
structure Parts (e : Entry) (parts : String → List Doc) : Prop where
  name : Given TextSpelled none e.name (parts "name")
  docs : Given OptionSpelled (some none) e.docs (parts "docs")
  annotations :
    Given (ListSpelled Annotation.SpelledAs) (some []) e.annotations (parts "annotations")

def memberNames : List String := ["name", "docs", "annotations"]

def SpelledAs (e : Entry) (d : Doc) : Prop :=
  ∃ parts, RecordParts memberNames d parts ∧ e.Parts parts

theorem decode_of_spelled {e : Entry} {d : Doc} (h : e.SpelledAs d) {depth : Nat}
    (hn : d.nesting ≤ depth) : Entry.decode depth d = .ok e := by
  obtain ⟨parts, hparts, hname, hdocs, hannotations⟩ := h
  refine decodeRecord_of_made hparts (fun _ => rfl) (by decide) hn fun inner hinner => ?_
  refine .cons (hname.decoded fun _ _ h => decodeString_of_spelled h) ?_
  refine .cons (hdocs.decoded fun _ _ h => decodeOption_of_spelled h) ?_
  refine .cons (hannotations.decoded fun a ha h =>
    Annotation.decodeList_of_spelled h (hinner _ a ha)) ?_
  exact .nil e

theorem decodeList_of_spelled {as : List Entry} {d : Doc} (h : ListSpelled Entry.SpelledAs as d)
    {depth : Nat} (hn : d.nesting ≤ depth) : decodeList Entry.decode depth d = .ok as :=
  Facsimile.decodeList_of_spelled h hn fun _ _ _ h hn => decode_of_spelled h hn

end Entry

/-! ## Types -/

namespace TypeRef

def mapNames : List String := ["key", "value"]

/-- A type is an object with one member, which is named after its form. -/
inductive SpelledAs : TypeRef → Doc → Prop
  | primitive (p : Primitive) {d : Doc} (h : TagSpelled p.tag d) :
    SpelledAs (.primitive p) (.record [("primitive", d)])
  | list {t : TypeRef} {d : Doc} (h : SpelledAs t d) :
    SpelledAs (.list t) (.record [("list", d)])
  | set {t : TypeRef} {d : Doc} (h : SpelledAs t d) : SpelledAs (.set t) (.record [("set", d)])
  | map {k v : TypeRef} {d dk dv : Doc} {parts : String → List Doc}
    (hparts : RecordParts mapNames d parts) (hkey : parts "key" = [dk])
    (hvalue : parts "value" = [dv]) (hk : SpelledAs k dk) (hv : SpelledAs v dv) :
    SpelledAs (.map k v) (.record [("map", d)])
  | named (name : String) : SpelledAs (.named name) (.record [("named", .text name)])
  | wellKnown (w : WellKnown) {d : Doc} (h : TagSpelled w.tag d) :
    SpelledAs (.wellKnown w) (.record [("well_known", d)])
  | unresolved (spelling : String) :
    SpelledAs (.unresolved spelling) (.record [("unresolved", .text spelling)])

theorem decodeMapContent_of_spelled {decode : Doc → Decoded TypeRef} {d dk dv : Doc}
    {parts : String → List Doc} {k v : TypeRef} (hparts : RecordParts mapNames d parts)
    (hkey : parts "key" = [dk]) (hk : decode dk = .ok k) (hvalue : parts "value" = [dv])
    (hv : decode dv = .ok v) :
    decodeContent mapExpectation (mapSlots decode) map d = .ok (.map k v) := by
  have hkey : Given (Decodes decode) none k (parts "key") := by
    rw [hkey]
    exact .once hk
  have hvalue : Given (Decodes decode) none v (parts "value") := by
    rw [hvalue]
    exact .once hv
  exact decodeContent_of_made hparts rfl (by decide) (.cons hkey (.cons hvalue (.nil _))) _

theorem bind_eq {α β : Type} {x : Decoded α} {a : α} {f : α → Decoded β} {r : Decoded β}
    (h : x = .ok a) (hf : f a = r) : (x >>= f) = r := by
  rw [h]
  exact hf

theorem exists_depth {tag : String} {d : Doc} {depth : Nat}
    (hn : (Doc.record [(tag, d)]).nesting ≤ depth) :
    ∃ inner, depth = inner + 1 ∧ d.nesting ≤ inner := by
  have hlt : d.nesting < (Doc.record [(tag, d)]).nesting :=
    Doc.nesting_member (List.mem_singleton_self _)
  exact ⟨depth - 1, by omega, by omega⟩

theorem decode_of_spelled {t : TypeRef} {d : Doc} (h : t.SpelledAs d) {depth : Nat}
    (hn : d.nesting ≤ depth) : TypeRef.decode depth d = .ok t := by
  induction h generalizing depth with
  | primitive p h =>
    obtain ⟨depth, rfl, hd⟩ := exists_depth hn
    have hp := decodeChoice_of_spelled p.lookup_tag h hd
    rw [Doc.record, List.map_cons, decode]
    exact bind_eq (congrArg (Except.map TypeRef.primitive) hp) rfl
  | list _ ih =>
    obtain ⟨depth, rfl, hd⟩ := exists_depth hn
    rw [Doc.record, List.map_cons, decode]
    exact bind_eq (congrArg (Except.map TypeRef.list) (ih hd)) rfl
  | set _ ih =>
    obtain ⟨depth, rfl, hd⟩ := exists_depth hn
    rw [Doc.record, List.map_cons, decode]
    exact bind_eq (congrArg (Except.map TypeRef.set) (ih hd)) rfl
  | map hparts hkey hvalue _ _ ihk ihv =>
    obtain ⟨depth, rfl, hd⟩ := exists_depth hn
    obtain ⟨depth, rfl, hinner⟩ := hparts.exists_depth hd
    have hk := ihk (hinner "key" _ (hkey ▸ List.mem_cons_self))
    have hv := ihv (hinner "value" _ (hvalue ▸ List.mem_cons_self))
    rw [Doc.record, List.map_cons, decode]
    exact bind_eq (decodeMapContent_of_spelled hparts hkey hk hvalue hv) rfl
  | named name =>
    obtain ⟨depth, rfl, -⟩ := exists_depth hn
    rw [Doc.record, List.map_cons, decode]
    rfl
  | wellKnown w h =>
    obtain ⟨depth, rfl, hd⟩ := exists_depth hn
    have hw := decodeChoice_of_spelled w.lookup_tag h hd
    rw [Doc.record, List.map_cons, decode]
    exact bind_eq (congrArg (Except.map TypeRef.wellKnown) hw) rfl
  | unresolved spelling =>
    obtain ⟨depth, rfl, -⟩ := exists_depth hn
    rw [Doc.record, List.map_cons, decode]
    rfl

end TypeRef

/-! ## Fields -/

namespace Field

/-- What stands for the members of a field. -/
structure Parts (f : Field) (parts : String → List Doc) : Prop where
  name : Given TextSpelled none f.name (parts "name")
  type : Given TypeRef.SpelledAs none f.type (parts "ty")
  nullable : Given FlagSpelled (some false) f.nullable (parts "nullable")
  docs : Given OptionSpelled (some none) f.docs (parts "docs")
  annotations :
    Given (ListSpelled Annotation.SpelledAs) (some []) f.annotations (parts "annotations")

def memberNames : List String := ["name", "ty", "nullable", "docs", "annotations"]

def SpelledAs (f : Field) (d : Doc) : Prop :=
  ∃ parts, RecordParts memberNames d parts ∧ f.Parts parts

theorem decode_of_spelled {f : Field} {d : Doc} (h : f.SpelledAs d) {depth : Nat}
    (hn : d.nesting ≤ depth) : Field.decode depth d = .ok f := by
  obtain ⟨parts, hparts, hname, htype, hnullable, hdocs, hannotations⟩ := h
  refine decodeRecord_of_made hparts (fun _ => rfl) (by decide) hn fun inner hinner => ?_
  refine .cons (hname.decoded fun _ _ h => decodeString_of_spelled h) ?_
  refine .cons (htype.decoded fun t ht h => TypeRef.decode_of_spelled h (hinner _ t ht)) ?_
  refine .cons (hnullable.decoded fun _ _ h => decodeBool_of_spelled h) ?_
  refine .cons (hdocs.decoded fun _ _ h => decodeOption_of_spelled h) ?_
  refine .cons (hannotations.decoded fun a ha h =>
    Annotation.decodeList_of_spelled h (hinner _ a ha)) ?_
  exact .nil f

theorem decodeList_of_spelled {as : List Field} {d : Doc} (h : ListSpelled Field.SpelledAs as d)
    {depth : Nat} (hn : d.nesting ≤ depth) : decodeList Field.decode depth d = .ok as :=
  Facsimile.decodeList_of_spelled h hn fun _ _ _ h hn => decode_of_spelled h hn

end Field

/-! ## Declarations -/

namespace Declaration

/-- What stands for the members of a declaration. -/
structure Parts (d : Declaration) (parts : String → List Doc) : Prop where
  kind : Given (fun k => TagSpelled k.tag) none d.kind (parts "kind")
  qualifiedName : Given TextSpelled none d.qualifiedName (parts "qualified_name")
  simpleName : Given TextSpelled none d.simpleName (parts "simple_name")
  package : Given OptionSpelled (some none) d.package (parts "package")
  sourceUnit : Given OptionSpelled (some none) d.sourceUnit (parts "source_unit")
  docs : Given OptionSpelled (some none) d.docs (parts "docs")
  fields : Given (ListSpelled Field.SpelledAs) (some []) d.fields (parts "fields")
  entries : Given (ListSpelled Entry.SpelledAs) (some []) d.entries (parts "entries")
  annotations :
    Given (ListSpelled Annotation.SpelledAs) (some []) d.annotations (parts "annotations")
  supertypes : Given (ListSpelled TextSpelled) (some []) d.supertypes (parts "supertypes")

def memberNames : List String :=
  ["kind", "qualified_name", "simple_name", "package", "source_unit", "docs", "fields", "entries",
    "annotations", "supertypes"]

def SpelledAs (d : Declaration) (doc : Doc) : Prop :=
  ∃ parts, RecordParts memberNames doc parts ∧ d.Parts parts

theorem decode_of_spelled {d : Declaration} {doc : Doc} (h : d.SpelledAs doc) {depth : Nat}
    (hn : doc.nesting ≤ depth) : Declaration.decode depth doc = .ok d := by
  obtain ⟨parts, hparts, hkind, hqualified, hsimple, hpackage, hunit, hdocs, hfields, hentries,
    hannotations, hsupertypes⟩ := h
  refine decodeRecord_of_made hparts (fun _ => rfl) (by decide) hn fun inner hinner => ?_
  refine .cons (hkind.decoded fun k hk h =>
    decodeChoice_of_spelled d.kind.lookup_tag h (hinner _ k hk)) ?_
  refine .cons (hqualified.decoded fun _ _ h => decodeString_of_spelled h) ?_
  refine .cons (hsimple.decoded fun _ _ h => decodeString_of_spelled h) ?_
  refine .cons (hpackage.decoded fun _ _ h => decodeOption_of_spelled h) ?_
  refine .cons (hunit.decoded fun _ _ h => decodeOption_of_spelled h) ?_
  refine .cons (hdocs.decoded fun _ _ h => decodeOption_of_spelled h) ?_
  refine .cons (hfields.decoded fun f hf h => Field.decodeList_of_spelled h (hinner _ f hf)) ?_
  refine .cons (hentries.decoded fun e he h => Entry.decodeList_of_spelled h (hinner _ e he)) ?_
  refine .cons (hannotations.decoded fun a ha h =>
    Annotation.decodeList_of_spelled h (hinner _ a ha)) ?_
  refine .cons (hsupertypes.decoded fun t ht h => decodeTexts_of_spelled h (hinner _ t ht)) ?_
  exact .nil d

end Declaration

/-! ## Models -/

/-- A model is the list of its declarations. -/
def ModelSpelled : List Declaration → Doc → Prop := ListSpelled Declaration.SpelledAs

theorem decodeModel_of_spelled {model : List Declaration} {d : Doc} (h : ModelSpelled model d)
    (hn : d.nesting ≤ nestingLimit) : decodeModel d = .ok model :=
  decodeList_of_spelled h hn fun _ _ _ h hn => Declaration.decode_of_spelled h hn

end Facsimile
