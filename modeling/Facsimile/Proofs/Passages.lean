import Facsimile.Proofs.CodeLines

/-!
# Files line by line

A page is the file of a source unit taken apart: a passage for each type definition, and in a
passage the lines of each member next to what the member is written for.  What these lines are is
said without blocks: remarks, and behind them one line that declares the member, or opens the
definition, under an identifier.  The files of a pass are the pages of its sheets (`printed_pages`),
and all that stands on a page is written in this way (`isWritten_passage`).
-/

namespace Facsimile

/-- A line with the traits that a definition derives, and nothing behind them. -/
def IsDerive (line : String) : Prop :=
  ∃ traits : String, line = "#[derive(" ++ traits ++ ")]" ∧
    '\n' ∉ traits.toList ∧ ')' ∉ traits.toList

/-- A line that defines nothing. -/
def IsRemark (line : String) : Prop := IsAside line ∨ IsDerive line

/-- What a member of a type definition is written for. -/
inductive Part where
  | field (f : Field)
  | entry (n : Entry)
  | child (d : Declaration)

namespace Part

def ident (template : String) : Part → String
  | .field f => Naming.escapeReserved template (Naming.fieldName f.name)
  | .entry n => Naming.escapeReserved template (Naming.variantName n.name)
  | .child d => Naming.escapeReserved template (Naming.typeName d.simpleName)

/-- The line that declares a member under an identifier. -/
def declaration (ident : String) : Part → String
  | .field f => "    pub " ++ ident ++ ": " ++ fieldTypeText f.type f.nullable ++ ","
  | .entry _ => "    " ++ ident ++ ","
  | .child _ => "    " ++ ident ++ "(" ++ ident ++ "),"

def IsWritten (template : String) (p : Part) (lines : List String) : Prop :=
  ∃ remarks, (∀ line ∈ remarks, IsRemark line) ∧
    lines = remarks ++ [p.declaration (p.ident template)]

/-- The child that a member is the variant for. -/
def child? : Part → Option Declaration
  | .child d => some d
  | .field _ | .entry _ => none

def member (e : Emitter) : Part → Member
  | .field f => e.field f
  | .entry n => e.entry n
  | .child d => e.variant d

end Part

namespace Origin

def parts : Origin → List Part
  | .record d => d.fields.map .field
  | .enumeration d => d.entries.map .entry
  | .union h => h.children.map .child

def keyword : Origin → String
  | .record _ => "struct"
  | .enumeration _ | .union _ => "enum"

/-- The line that opens a definition. -/
def head (template : String) (o : Origin) : String :=
  "pub " ++ o.keyword ++ " " ++
    Naming.escapeReserved template (Naming.typeName o.declaration.simpleName) ++ " \x7b"

end Origin

/-- A type definition in a file, with its lines. -/
structure Passage where
  origin : Origin
  opening : List String
  members : List (Part × List String)
  closing : List String

namespace Passage

def lines (p : Passage) : List String := p.opening ++ p.members.flatMap (·.2) ++ p.closing

/-- The children that a passage has a variant for. -/
def variants (p : Passage) : List Declaration := p.members.filterMap fun m => m.1.child?

structure IsWritten (template : String) (p : Passage) : Prop where
  parts : p.members.map (·.1) = p.origin.parts
  members : ∀ m ∈ p.members, m.1.IsWritten template m.2
  /-- The braces of a definition without members may stand on one line. -/
  braces : ∃ remarks, (∀ line ∈ remarks, IsRemark line) ∧
    (p.opening = remarks ++ [p.origin.head template] ∧ p.closing = ["\x7d"] ∨
      p.members = [] ∧ p.opening = remarks ++ [p.origin.head template ++ "\x7d"] ∧ p.closing = [])

end Passage

structure Page where
  unit : String
  passages : List Passage

namespace Page

/-- An empty line stands in front of each passage, and each line is ended. -/
def content (p : Page) : String :=
  Draft.header p.unit ++
    String.join (p.passages.map fun q => "\n" ++ String.join (q.lines.map (· ++ "\n")))

def file (p : Page) : File := ⟨Naming.fileName p.unit, some p.unit, p.content⟩

end Page

/-- Files that are pages, with an index behind them if there is to be one. -/
def Printed (modFile : Bool) (pages : List Page) (files : List File) : Prop :=
  files = pages.map Page.file ++
    if modFile = true ∧ pages ≠ [] then [Generator.index (pages.map Page.file)] else []

/-! ## Members -/

namespace Part

theorem declaration_member (e : Emitter) (p : Part) :
    (p.member e).declaration = p.declaration (p.ident e.template) := by
  cases p with
  | field | entry | child => rfl

theorem isWritten_member (e : Emitter) (p : Part) :
    p.IsWritten e.template (p.member e).lines := by
  refine ⟨(p.member e).docs.map (fun line => indent ++ docLine line) ++
    (p.member e).attributes.lines, fun line hline => ?_, ?_⟩
  · rcases List.mem_append.mp hline with hdocs | hattributes
    · cases p with
      | field | entry => exact Or.inl (isAside_of_mem_memberDocs hdocs)
      | child => cases hdocs
    · exact Or.inl (isAside_of_mem_attributes hattributes)
  · rw [← declaration_member]
    rfl

end Part

/-! ## Passages -/

namespace Origin

variable (e : Emitter) (o : Origin)

theorem members_block : (o.block e).members = o.parts.map (Part.member e) := by
  cases o with
  | record | enumeration | union =>
    rw [parts, List.map_map]
    rfl

theorem isRemark_of_mem_attributes {line : String}
    (h : line ∈ (o.block e).shape.attributes) : IsRemark line := by
  have hrecord : IsDerive "#[derive(Debug, Clone, PartialEq, Serialize, Deserialize)]" :=
    ⟨"Debug, Clone, PartialEq, Serialize, Deserialize", rfl, by decide, by decide⟩
  cases o with
  | record d =>
    rw [List.mem_singleton.mp h]
    exact Or.inr hrecord
  | enumeration d =>
    rw [List.mem_singleton.mp h]
    exact Or.inr ⟨"Debug, Clone, Copy, PartialEq, Eq, Hash, Serialize, Deserialize", rfl,
      by decide, by decide⟩
  | union h' =>
    rcases List.mem_pair.mp h with rfl | rfl
    · exact Or.inr hrecord
    · exact Or.inl (isAside_key _)

theorem isRemark_of_mem_docs {line : String} (h : line ∈ (o.block e).docs.map docLine) :
    IsRemark line := by
  cases o with
  | record | enumeration | union => exact Or.inl (isAside_of_mem_blockDocs h)

/-- The lines of a block, taken apart. -/
def passage : Passage where
  origin := o
  opening := (o.block e).docs.map docLine ++ (o.block e).shape.attributes ++
    (o.block e).body.take 1
  members := o.parts.map fun p => (p, (p.member e).lines)
  closing := if (o.block e).shape = .record ∧ (o.block e).members = [] then [] else ["\x7d"]

theorem opening_passage : (o.passage e).opening =
    (o.block e).docs.map docLine ++ (o.block e).shape.attributes ++ (o.block e).body.take 1 := rfl

theorem head_block :
    "pub " ++ (o.block e).shape.keyword ++ " " ++ (o.block e).ident ++ " \x7b" =
      o.head e.template := by
  cases o with
  | record | enumeration | union => rfl

theorem lines_passage : (o.passage e).lines = (o.block e).lines := by
  have hmembers : (o.passage e).members.flatMap (·.2) =
      (o.block e).members.flatMap Member.lines := by
    rw [members_block, List.flatMap_map]
    exact List.flatMap_map ..
  unfold Passage.lines Block.lines
  rw [hmembers]
  by_cases h : (o.block e).shape = .record ∧ (o.block e).members = []
  · have hclosing : (o.passage e).closing = [] := if_pos h
    rw [hclosing, opening_passage, Block.body_of_short h, h.2]
    simp
  · have hclosing : (o.passage e).closing = ["\x7d"] := if_neg h
    rw [hclosing, opening_passage, Block.body_of_long h]
    simp

theorem isWritten_passage : (o.passage e).IsWritten e.template := by
  constructor
  case parts =>
    show (o.parts.map _).map _ = o.parts
    rw [List.map_map]
    exact List.map_id _
  case members =>
    intro m hm
    obtain ⟨p, -, rfl⟩ := List.mem_map.mp hm
    exact p.isWritten_member e
  case braces =>
    refine ⟨(o.block e).docs.map docLine ++ (o.block e).shape.attributes, fun line hline => ?_, ?_⟩
    · exact (List.mem_append.mp hline).elim (isRemark_of_mem_docs e o)
        (isRemark_of_mem_attributes e o)
    · by_cases h : (o.block e).shape = .record ∧ (o.block e).members = []
      · refine Or.inr ⟨?_, ?_, if_pos h⟩
        · have hparts := h.2
          rw [members_block, List.map_eq_nil_iff] at hparts
          exact List.map_eq_nil_iff.mpr hparts
        · rw [opening_passage, Block.body_of_short h, head_block]
          rfl
      · refine Or.inl ⟨?_, if_neg h⟩
        rw [opening_passage, Block.body_of_long h, head_block]
        rfl

end Origin

/-! ## Pages -/

/-- The page of a sheet. -/
def Sheet.page (e : Emitter) (s : Sheet) : Page := ⟨s.unit, s.origins.map (Origin.passage e)⟩

theorem Sheet.file_page (e : Emitter) (s : Sheet) : (s.page e).file = s.file e := by
  have hcontent : (s.page e).content = s.content e := by
    unfold Page.content content page
    rw [List.map_map]
    refine congrArg (fun texts => Draft.header s.unit ++ String.join texts) ?_
    refine List.map_congr_left fun o _ => ?_
    show "\n" ++ linesText (o.passage e).lines = _
    rw [o.lines_passage e]
    rfl
  unfold Page.file file
  rw [hcontent]
  rfl

theorem Sheet.files_pages (e : Emitter) (ss : List Sheet) :
    (ss.map (Sheet.page e)).map Page.file = ss.map (Sheet.file e) := by
  rw [List.map_map]
  exact List.map_congr_left fun s _ => s.file_page e

theorem Sheet.isWritten_of_mem_page {e : Emitter} {s : Sheet} {p : Passage}
    (hp : p ∈ (s.page e).passages) : p.IsWritten e.template := by
  obtain ⟨o, -, rfl⟩ := List.mem_map.mp hp
  exact o.isWritten_passage e

theorem printed_iff {modFile : Bool} {pages : List Page} {files : List File} :
    Printed modFile pages files ↔ files = Generator.withIndex modFile (pages.map Page.file) := by
  unfold Printed Generator.withIndex
  rw [List.isEmpty_map]
  cases modFile with
  | false => simp
  | true =>
    cases pages with
    | nil => simp
    | cons page pages => simp

/-- The files of sheets are their pages. -/
theorem printed_pages (g : Generator) (ss : List Sheet) :
    Printed g.config.modFile (ss.map (Sheet.page g.emitter))
      (Generator.withIndex g.config.modFile (ss.map (Sheet.file g.emitter))) := by
  rw [printed_iff, Sheet.files_pages]

end Facsimile
