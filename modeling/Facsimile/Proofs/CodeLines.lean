import Facsimile.Proofs.BareModels
import Mathlib.Data.List.Forall2
import Mathlib.Data.Nat.Digits.Defs

/-!
# Code apart from documentation and attributes

Documentation and attributes for the serializer stand on lines of their own, and they are all that
annotation arguments and documentation texts reach.  `codeLines` keeps the other lines of a file,
and `code_of_bare_models` says that models with one bare form have the same errors or the same code.
-/

namespace Facsimile

/-! ## Lines -/

/-- A line of documentation or of attributes for the serializer, whatever its indentation. -/
def isAside (line : List Char) : Bool :=
  let text := line.dropWhile (· == ' ')
  "///".toList.isPrefixOf text || "#[serde(".toList.isPrefixOf text

/-- The lines of a text that are neither documentation nor attributes for the serializer. -/
def codeLines (text : List Char) : List (List Char) :=
  (text.splitOn '\n').filter fun line => !isAside line

theorem codeLines_append_cons (a b : List Char) :
    codeLines (a ++ '\n' :: b) = codeLines a ++ codeLines b := by
  show ((a ++ '\n' :: b).splitOn '\n').filter _ = _
  rw [List.splitOn_append_cons_self, List.filter_append]
  rfl

theorem codeLines_of_aside {line : List Char} (hfeed : '\n' ∉ line) (h : isAside line = true) :
    codeLines line = [] := by
  show (line.splitOn '\n').filter _ = []
  rw [List.splitOn_eq_singleton hfeed, List.filter_cons, h]
  rfl

theorem isAside_indent (line : String) :
    isAside (indent ++ line).toList = isAside line.toList := by
  rw [String.toList_append]
  rfl

/-- The code in a list of lines, each of which may hold line feeds. -/
def codeOf (lines : List String) : List (List Char) :=
  lines.flatMap fun line => codeLines line.toList

theorem codeOf_append (l m : List String) : codeOf (l ++ m) = codeOf l ++ codeOf m :=
  List.flatMap_append

theorem codeOf_cons (line : String) (lines : List String) :
    codeOf (line :: lines) = codeLines line.toList ++ codeOf lines :=
  List.flatMap_cons

theorem codeOf_flatMap {α : Type} (f : α → List String) (l : List α) :
    codeOf (l.flatMap f) = l.flatMap fun a => codeOf (f a) :=
  List.flatMap_assoc

/-- An aside that stays on its line. -/
def IsAside (line : String) : Prop := '\n' ∉ line.toList ∧ isAside line.toList = true

theorem codeOf_asides {lines : List String} (h : ∀ line ∈ lines, IsAside line) :
    codeOf lines = [] := by
  refine List.flatMap_eq_nil_iff.mpr fun line hline => ?_
  exact codeLines_of_aside (h line hline).1 (h line hline).2

theorem linesText_cons (line : String) (lines : List String) :
    linesText (line :: lines) = line ++ "\n" ++ linesText lines := by
  show String.join ((line ++ "\n") :: lines.map (· ++ "\n")) = _
  rw [String.join_cons]
  rfl

theorem linesText_append (l m : List String) :
    linesText (l ++ m) = linesText l ++ linesText m := by
  induction l with
  | nil => simp [linesText]
  | cons line l ih =>
    rw [List.cons_append, linesText_cons, linesText_cons, ih]
    simp only [String.append_assoc]

theorem codeLines_linesText (lines : List String) :
    codeLines (linesText lines).toList = codeOf lines ++ [[]] := by
  induction lines with
  | nil => rfl
  | cons line lines ih =>
    have htext : (linesText (line :: lines)).toList =
        line.toList ++ '\n' :: (linesText lines).toList := by
      rw [linesText_cons]
      simp
    rw [htext, codeLines_append_cons, ih, codeOf_cons, List.append_assoc]

/-! ## Texts that stay on one line -/

theorem lineFeed_not_mem_toDigits (n : Nat) : '\n' ∉ Nat.toDigits 16 n := by
  have hdigit : ∀ d < 16, '\n' ≠ Nat.digitChar d := by decide
  induction n using Nat.base_induction 16 (by decide) with
  | single m hm =>
    rw [Nat.toDigits_of_lt_base hm, List.mem_singleton]
    exact hdigit m hm
  | digit m d hd hm ih =>
    have hsplit := Nat.toDigits_append_toDigits (by decide : 1 < 16) hm hd
    rw [← hsplit, Nat.toDigits_of_lt_base hd, List.mem_append, List.mem_singleton, not_or]
    exact ⟨ih, hdigit d hd⟩

theorem lineFeed_not_mem_escapeChar (c : Char) : '\n' ∉ Text.escapeChar c := by
  by_cases hfeed : c = '\n'
  · subst hfeed
    decide
  have hself : '\n' ∉ [c] := by simpa using Ne.symm hfeed
  have hcode : '\n' ∉ ['\\', 'u', '{'] ++ Nat.toDigits 16 c.toNat ++ ['}'] := by
    simp [lineFeed_not_mem_toDigits]
  unfold Text.escapeChar
  split_ifs with hzero htab hreturn hslash hquote hseen hhidden
  · decide
  · decide
  · decide
  · decide
  · decide
  · exact hself
  · exact hcode
  · exact hself

/-- A literal stays on its line. -/
theorem lineFeed_not_mem_quote (s : String) : '\n' ∉ (Text.quote s).toList := by
  show '\n' ∉ (String.ofList (Text.quoteChars s.toList)).toList
  rw [String.toList_ofList]
  simp [Text.quoteChars, lineFeed_not_mem_escapeChar]

/-! ## Blocks without asides -/

theorem lineFeed_not_mem_docs {docs : Option String} {line : String}
    (h : line ∈ Emitter.docs docs) : '\n' ∉ line.toList := by
  cases docs with
  | none => cases h
  | some text => exact Text.lineFeed_not_mem_docLines h

theorem isAside_docLine {docs : Option String} {line : String} (h : line ∈ Emitter.docs docs) :
    IsAside (docLine line) := by
  by_cases hempty : line.isEmpty = true
  · have hshort : docLine line = "///" := if_pos hempty
    rw [hshort]
    exact ⟨by decide, by decide⟩
  · have hlong : docLine line = "/// " ++ line := if_neg hempty
    rw [hlong]
    refine ⟨?_, ?_⟩
    · rw [String.toList_append, List.mem_append, not_or]
      exact ⟨by decide, lineFeed_not_mem_docs h⟩
    · rw [String.toList_append]
      rfl

theorem IsAside.indented {line : String} (h : IsAside line) : IsAside (indent ++ line) := by
  refine ⟨?_, (isAside_indent line).trans h.2⟩
  rw [String.toList_append, List.mem_append, not_or]
  exact ⟨by decide, h.1⟩

theorem isAside_of_mem_blockDocs {docs : Option String} {line : String}
    (h : line ∈ (Emitter.docs docs).map docLine) : IsAside line := by
  obtain ⟨doc, hdoc, rfl⟩ := List.mem_map.mp h
  exact isAside_docLine hdoc

theorem isAside_of_mem_memberDocs {docs : Option String} {line : String}
    (h : line ∈ (Emitter.docs docs).map fun line => indent ++ docLine line) : IsAside line := by
  obtain ⟨doc, hdoc, rfl⟩ := List.mem_map.mp h
  exact (isAside_docLine hdoc).indented

theorem isAside_serde (rest : String) : isAside ("#[serde(" ++ rest).toList = true := by
  rw [String.toList_append]
  rfl

theorem not_mem_intercalate {sep : String} {c : Char} {parts : List String}
    (hsep : c ∉ sep.toList) (h : ∀ part ∈ parts, c ∉ part.toList) :
    c ∉ (sep.intercalate parts).toList := by
  rw [String.toList_intercalate]
  induction parts with
  | nil => exact List.not_mem_nil
  | cons part parts ih =>
    have hrest := ih fun p hp => h p (List.mem_cons_of_mem _ hp)
    have hpart := h part List.mem_cons_self
    cases parts with
    | nil => simpa using hpart
    | cons next parts =>
      rw [List.map_cons, List.map_cons, List.intercalate_cons_cons] at *
      simp only [List.mem_append, not_or]
      exact ⟨⟨hpart, hsep⟩, hrest⟩

theorem isAside_of_mem_attributes {a : Attributes} {line : String} (h : line ∈ a.lines) :
    IsAside line := by
  have hparts : ∀ part ∈ a.parts, '\n' ∉ part.toList := by
    intro part hpart
    rcases List.mem_append.mp hpart with hrename | hskip
    · obtain ⟨wire, -, rfl⟩ := Option.map_eq_some_iff.mp (Option.mem_toList.mp hrename)
      simp [lineFeed_not_mem_quote]
    · split at hskip
      · rw [List.mem_singleton.mp hskip]
        decide
      · cases hskip
  unfold Attributes.lines at h
  split at h
  · cases h
  · rw [List.mem_singleton.mp h]
    rw [String.append_assoc, String.append_assoc]
    refine IsAside.indented ⟨?_, isAside_serde _⟩
    simp only [String.toList_append, List.mem_append, not_or]
    exact ⟨by decide, not_mem_intercalate (by decide) hparts, by decide⟩

/-- The key of a union is named on a line of attributes. -/
theorem isAside_key (key : String) : IsAside ("#[serde(tag = " ++ Text.quote key ++ ")]") := by
  constructor
  · simp [lineFeed_not_mem_quote]
  · have hsplit : "#[serde(tag = " = "#[serde(" ++ "tag = " := rfl
    rw [hsplit, String.append_assoc, String.append_assoc]
    exact isAside_serde _

theorem codeOf_attributes (a : Attributes) : codeOf a.lines = [] :=
  codeOf_asides fun _ => isAside_of_mem_attributes

/-- Of a member, the declaration alone is code. -/
theorem codeOf_member {m : Member} (docs : Option String) (h : m.docs = Emitter.docs docs) :
    codeOf m.lines = codeLines m.declaration.toList := by
  have hdocs : codeOf (m.docs.map fun line => indent ++ docLine line) = [] := by
    rw [h]
    exact codeOf_asides fun _ => isAside_of_mem_memberDocs
  show codeOf (m.docs.map _ ++ m.attributes.lines ++ [m.declaration]) = _
  rw [codeOf_append, codeOf_append, hdocs, codeOf_attributes]
  exact List.append_nil _

theorem codeOf_block {b : Block} (docs : Option String) (h : b.docs = Emitter.docs docs) :
    codeOf b.lines = codeOf b.shape.attributes ++ codeOf b.body := by
  have hdocs : codeOf (b.docs.map docLine) = [] := by
    rw [h]
    exact codeOf_asides fun _ => isAside_of_mem_blockDocs
  show codeOf (b.docs.map docLine ++ b.shape.attributes ++ b.body) = _
  rw [codeOf_append, codeOf_append, hdocs]
  rfl

theorem codeOf_union (key : String) :
    codeOf (Shape.union key).attributes =
      codeOf ["#[derive(Debug, Clone, PartialEq, Serialize, Deserialize)]"] := by
  have hkey : codeOf ["#[serde(tag = " ++ Text.quote key ++ ")]"] = [] :=
    codeOf_asides (List.forall_mem_singleton.mpr (isAside_key key))
  show codeOf (_ :: ["#[serde(tag = " ++ Text.quote key ++ ")]"]) = _
  rw [codeOf_cons, hkey]
  rfl

theorem codeOf_body_congr {b c : Block} (hkeyword : b.shape.keyword = c.shape.keyword)
    (hrecord : b.shape = .record ↔ c.shape = .record) (hident : b.ident = c.ident)
    (hmembers : (b.members.map fun m => codeOf m.lines) = c.members.map fun m => codeOf m.lines) :
    codeOf b.body = codeOf c.body := by
  have hempty : b.members = [] ↔ c.members = [] := by
    rw [← List.map_eq_nil_iff (f := fun m : Member => codeOf m.lines), hmembers,
      List.map_eq_nil_iff]
  have hlines : codeOf (b.members.flatMap Member.lines) =
      codeOf (c.members.flatMap Member.lines) := by
    rw [codeOf_flatMap, codeOf_flatMap, List.flatMap_def, List.flatMap_def, hmembers]
  have hsame := and_congr hrecord hempty
  by_cases hshort : b.shape = .record ∧ b.members = []
  · rw [Block.body_of_short hshort, Block.body_of_short (hsame.mp hshort), hkeyword, hident]
  · rw [Block.body_of_long hshort, Block.body_of_long (mt hsame.mpr hshort), hkeyword, hident]
    simp only [codeOf_append, codeOf_cons, hlines]

/-- Members keep their code when what they are written for is changed without effect on it. -/
theorem codeOf_members_map {α : Type} {write : α → Member} {change : α → α}
    (h : ∀ a, codeOf (write (change a)).lines = codeOf (write a).lines) (l : List α) :
    (((l.map change).map write).map fun m => codeOf m.lines) =
      (l.map write).map fun m => codeOf m.lines := by
  induction l with
  | nil => rfl
  | cons a l ih =>
    simp only [List.map_cons, h a]
    rw [ih]

/-! ## Blocks of bare declarations -/

namespace Emitter

theorem codeOf_field_bare (e : Emitter) (f : Field) :
    codeOf (e.field f.bare).lines = codeOf (e.field f).lines := by
  rw [codeOf_member none rfl, codeOf_member f.docs rfl]
  rfl

theorem codeOf_entry_bare (e : Emitter) (n : Entry) :
    codeOf (e.entry n.bare).lines = codeOf (e.entry n).lines := by
  rw [codeOf_member none rfl, codeOf_member n.docs rfl]
  rfl

theorem codeOf_variant_bare (e : Emitter) (d : Declaration) :
    codeOf (e.variant d.bare).lines = codeOf (e.variant d).lines := by
  rw [codeOf_member none rfl, codeOf_member none rfl]
  rfl

theorem codeOf_record_bare (e : Emitter) (d : Declaration) :
    codeOf (e.record d.bare).lines = codeOf (e.record d).lines := by
  have hbody : codeOf (e.record d.bare).body = codeOf (e.record d).body := by
    refine codeOf_body_congr rfl Iff.rfl rfl ?_
    exact codeOf_members_map e.codeOf_field_bare d.fields
  have hbare := codeOf_block (b := e.record d.bare) none rfl
  have hfull := codeOf_block (b := e.record d) d.docs rfl
  rw [hbare, hfull, hbody]
  rfl

theorem codeOf_enumeration_bare (e : Emitter) (d : Declaration) :
    codeOf (e.enumeration d.bare).lines = codeOf (e.enumeration d).lines := by
  have hbody : codeOf (e.enumeration d.bare).body = codeOf (e.enumeration d).body := by
    refine codeOf_body_congr rfl Iff.rfl rfl ?_
    exact codeOf_members_map e.codeOf_entry_bare d.entries
  have hbare := codeOf_block (b := e.enumeration d.bare) none rfl
  have hfull := codeOf_block (b := e.enumeration d) d.docs rfl
  rw [hbare, hfull, hbody]
  rfl

theorem codeOf_unionHead_bare (e : Emitter) (h : Hierarchy) :
    codeOf (e.unionHead h.bare).lines = codeOf (e.unionHead h).lines := by
  have hbody : codeOf (e.unionHead h.bare).body = codeOf (e.unionHead h).body := by
    refine codeOf_body_congr rfl (iff_of_false ?_ ?_) rfl ?_
    · intro hshape
      cases hshape
    · intro hshape
      cases hshape
    · exact codeOf_members_map e.codeOf_variant_bare h.children
  have hbare : codeOf (e.unionHead h.bare).shape.attributes = _ :=
    codeOf_union (e.resolver.discriminatorKey h.bare.root)
  have hfull : codeOf (e.unionHead h).shape.attributes = _ :=
    codeOf_union (e.resolver.discriminatorKey h.root)
  rw [codeOf_block (b := e.unionHead h.bare) none rfl,
    codeOf_block (b := e.unionHead h) h.root.docs rfl, hbody, hbare, hfull]

end Emitter

namespace Origin

/-- The code of a block does not depend on asides in the declarations that it is written for. -/
theorem codeOf_lines_bare (e : Emitter) (o : Origin) :
    codeOf (o.bare.block e).lines = codeOf (o.block e).lines := by
  cases o with
  | record d => exact e.codeOf_record_bare d
  | enumeration d => exact e.codeOf_enumeration_bare d
  | union h => exact e.codeOf_unionHead_bare h

end Origin

/-! ## Files of bare models -/

/-- Two files have one name, one unit, and the same code. -/
structure File.SameCode (f f' : File) : Prop where
  name : f.name = f'.name
  unit : f.unit = f'.unit
  code : codeLines f.content.toList = codeLines f'.content.toList

theorem exists_header_eq (unit : String) : ∃ start, Draft.header unit = start ++ "\n" := by
  refine ⟨"// Code generated by typemirror from `" ++ unit ++ ("`. DO NOT EDIT.\n\n" ++
    "use serde::\x7bDeserialize, Serialize\x7d;\n#[allow(unused_imports)]\n" ++
    "use std::collections::\x7bHashMap, HashSet\x7d;"), ?_⟩
  unfold Draft.header
  simp only [String.append_assoc]
  rfl

namespace Sheet

/-- The lines behind the header of a file. -/
def lines (e : Emitter) (s : Sheet) : List String :=
  s.origins.flatMap fun o => "" :: (o.block e).lines

theorem content_eq_lines (e : Emitter) (s : Sheet) :
    s.content e = Draft.header s.unit ++ linesText (s.lines e) := by
  unfold content lines
  congr 1
  induction s.origins with
  | nil => rfl
  | cons o os ih =>
    rw [List.map_cons, String.join_cons, ih, List.flatMap_cons, linesText_append, linesText_cons]
    rfl

theorem codeOf_lines_bare (e : Emitter) (s : Sheet) :
    codeOf (s.bare.lines e) = codeOf (s.lines e) := by
  unfold lines
  rw [origins_bare, List.flatMap_map, codeOf_flatMap, codeOf_flatMap]
  refine List.flatMap_congr fun o _ => ?_
  rw [codeOf_cons, codeOf_cons, o.codeOf_lines_bare e]

theorem codeLines_content_bare (e : Emitter) (s : Sheet) :
    codeLines (s.bare.content e).toList = codeLines (s.content e).toList := by
  obtain ⟨start, hstart⟩ := exists_header_eq s.unit
  have hcode : ∀ lines, codeLines (Draft.header s.unit ++ linesText lines).toList =
      codeLines start.toList ++ (codeOf lines ++ [[]]) := by
    intro lines
    have htext : (Draft.header s.unit ++ linesText lines).toList =
        start.toList ++ '\n' :: (linesText lines).toList := by
      rw [hstart]
      simp
    rw [htext, codeLines_append_cons, codeLines_linesText]
  rw [content_eq_lines, content_eq_lines]
  show codeLines (Draft.header s.unit ++ linesText (s.bare.lines e)).toList = _
  rw [hcode, hcode, codeOf_lines_bare]

theorem sameCode_of_bare (e : Emitter) {s t : Sheet} (h : s.bare = t.bare) :
    (s.file e).SameCode (t.file e) := by
  have hunit : s.bare.unit = t.bare.unit := congrArg Sheet.unit h
  constructor
  · exact congrArg Naming.fileName hunit
  · exact congrArg some hunit
  · show codeLines (s.content e).toList = codeLines (t.content e).toList
    rw [← codeLines_content_bare e s, h, codeLines_content_bare]

end Sheet

namespace Generator

/-- Models that differ in documentation and in arguments of annotations only have the same error, or
the same files up to lines of documentation and of attributes. -/
theorem code_of_bare_models (g : Generator) {model model' : List Declaration}
    (h : model.map Declaration.bare = model'.map Declaration.bare) :
    (∃ e, g.generate model = .error e ∧ g.generate model' = .error e) ∨
      ∃ files files', g.generate model = .ok files ∧ g.generate model' = .ok files' ∧
        List.Forall₂ File.SameCode files files' := by
  have hsheets : (g.sheets model).map (List.map Sheet.bare) =
      (g.sheets model').map (List.map Sheet.bare) := by
    rw [← sheets_bare, ← sheets_bare, h]
  rw [generate_eq, generate_eq]
  cases hm : g.sheets model with
  | error e =>
    cases hm' : g.sheets model' with
    | error e' =>
      rw [hm, hm'] at hsheets
      obtain rfl := Except.error.inj hsheets
      exact Or.inl ⟨e, rfl, rfl⟩
    | ok ss' =>
      rw [hm, hm'] at hsheets
      cases hsheets
  | ok ss =>
    cases hm' : g.sheets model' with
    | error e' =>
      rw [hm, hm'] at hsheets
      cases hsheets
    | ok ss' =>
      rw [hm, hm'] at hsheets
      have hbare : ss.map Sheet.bare = ss'.map Sheet.bare := Except.ok.inj hsheets
      rw [← List.forall₂_eq_eq_eq, List.forall₂_map_left_iff, List.forall₂_map_right_iff] at hbare
      refine Or.inr ⟨_, _, rfl, rfl, forall₂_withIndex (fun _ _ h => h.name)
        (fun _ _ => ⟨rfl, rfl, rfl⟩) _ ?_⟩
      rw [List.forall₂_map_left_iff, List.forall₂_map_right_iff]
      exact hbare.imp fun s t => Sheet.sameCode_of_bare g.emitter

def discWith (docs : Option String) (wire : String) : Declaration :=
  let serialName : Annotation := .marker "kotlinx.serialization.SerialName"
  let radius := (Field.plain "radius" (.primitive .double)).annotatedWith
    (serialName.withArgument "value" (.string wire))
  { marked ((Declaration.record "geo.Disc" [radius]).inUnit "Disc.kt") with docs }

/-- Documentation that looks like code, and a name on the wire that looks like the end of an
attribute. -/
def misleading : List Declaration := [discWith (some "Round.\npub struct Square;") "r\n)]"]

def sober : List Declaration := [discWith none "size"]

theorem misleading_keeps_code :
    misleading.map Declaration.bare = sober.map Declaration.bare ∧
      ((∃ e, standard.generate misleading = .error e ∧ standard.generate sober = .error e) ∨
        ∃ files files', standard.generate misleading = .ok files ∧
          standard.generate sober = .ok files' ∧ List.Forall₂ File.SameCode files files') :=
  ⟨rfl, code_of_bare_models standard rfl⟩

end Generator

end Facsimile
