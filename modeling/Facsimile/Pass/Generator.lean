import Facsimile.Emission.Draft
import Facsimile.Pass.Grouping

/-!
# Generation

A generator is a configuration that has been found valid.  A pass selects the eligible declarations,
refuses a model whose names, hierarchies or files clash, and writes a file for each source unit.
`generate` gives the files and `report` the events of the same pass.
-/

namespace Facsimile

structure File where
  /-- The name within the output directory. -/
  name : String
  /-- The source unit that the file is about; none for the module index. -/
  unit : Option String
  content : String
  deriving DecidableEq, Repr

inductive PassError where
  | rawPathKeyword (keyword : String)
  | severalParents (e : SeveralParents)
  | collision (c : Collision)

def PassError.message : PassError → String
  | .rawPathKeyword keyword =>
    "escape template `" ++ Naming.rawTemplate ++ "` cannot escape the path keyword `" ++ keyword ++
      "`; use a prefix or suffix template such as `\x7bfield\x7d_` or `raw_\x7bfield\x7d`"
  | .severalParents e => e.message
  | .collision c => c.message

/-- The names that a declaration is written with, before they are escaped. -/
def Declaration.convertedNames (d : Declaration) : List String :=
  Naming.typeName d.simpleName ::
    (d.fields.map (fun f => Naming.fieldName f.name) ++
      d.entries.map fun e => Naming.variantName e.name)

structure Generator where
  config : Config
  resolver : Resolver

namespace Generator

def new (c : Config) : Except ConfigError Generator :=
  if Naming.holdsPlaceholder c.escapeTemplate.toList then
    (Resolver.ofConfig c).map fun r => ⟨c, r⟩
  else .error (.missingPlaceholder c.escapeTemplate)

def emitter (g : Generator) : Emitter := ⟨g.resolver, g.config.escapeTemplate⟩

def isEligible (g : Generator) (d : Declaration) : Bool :=
  g.resolver.isMarked d && g.config.accepts d.package d.sourceUnit

/-- A sealed root without source unit has no file for its union. -/
def isPlaceable (d : Declaration) : Bool := !(d.isSealedRoot && d.sourceUnit.isNone)

/-- The declarations of a model that a pass is about. -/
def selected (g : Generator) (model : List Declaration) : List Declaration :=
  (model.filter g.isEligible).filter isPlaceable

/-- The first name that would be written as a raw identifier and has no raw form. -/
def rawPathKeyword? (g : Generator) (ds : List Declaration) : Option String :=
  if Naming.isRawTemplate g.config.escapeTemplate then
    (ds.flatMap Declaration.convertedNames).find? Naming.pathKeywords.contains
  else none

structure Layout where
  hierarchies : List Hierarchy
  groups : List Group

/-- The hierarchies of the selected declarations, if no name stands in the way. -/
def hierarchies (g : Generator) (ds : List Declaration) : Except PassError (List Hierarchy) :=
  match g.rawPathKeyword? ds with
  | some keyword => .error (.rawPathKeyword keyword)
  | none => (Hierarchy.collect ds).mapError .severalParents

/-- The declarations that are not emitted with a sealed root. -/
def standalone (hs : List Hierarchy) (ds : List Declaration) : List Declaration :=
  ds.filter fun d => !Hierarchy.isVariant hs d

def layout (g : Generator) (ds : List Declaration) : Except PassError Layout := do
  let hs ← g.hierarchies ds
  let gs := groups g.config.ordering (standalone hs ds)
  match collision? (reservedFiles g.config.modFile) (gs.map (·.unit)) with
  | some c => throw (.collision c)
  | none => return ⟨hs, gs⟩

def pieces (hs : List Hierarchy) (group : Group) : List Piece :=
  group.declarations.map (Piece.ofDeclaration hs)

def blocks (g : Generator) (hs : List Hierarchy) (group : Group) : List Block :=
  (pieces hs group).flatMap (Piece.blocks g.emitter)

/-- The file of a source unit, if there is anything to write. -/
def file? (g : Generator) (hs : List Hierarchy) (group : Group) : Option File :=
  let blocks := g.blocks hs group
  if blocks.isEmpty then none
  else
    some {
      name := Naming.fileName group.unit
      unit := some group.unit
      content := ((Draft.empty.addHeader group.unit).addBlocks blocks).text }

def unitFiles (g : Generator) (l : Layout) : List File := l.groups.filterMap (g.file? l.hierarchies)

/-- The module of a file: its name without the extension. -/
def moduleName (f : File) : String :=
  String.ofList (f.name.toList.take (f.name.length - Naming.fileExtension.length))

def moduleLines (f : File) : String :=
  "pub mod " ++ moduleName f ++ ";\npub use " ++ moduleName f ++ "::*;\n"

def index (files : List File) : File where
  name := indexFileName
  unit := none
  content :=
    "// Code generated by typemirror. DO NOT EDIT.\n\n" ++ String.join (files.map moduleLines)

def withIndex (modFile : Bool) (files : List File) : List File :=
  if modFile && !files.isEmpty then files ++ [index files] else files

def files (g : Generator) (l : Layout) : List File :=
  withIndex g.config.modFile (g.unitFiles l)

def generate (g : Generator) (model : List Declaration) : Except PassError (List File) :=
  (g.layout (g.selected model)).map g.files

end Generator
end Facsimile
