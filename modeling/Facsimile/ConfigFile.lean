import Facsimile.Config
import Facsimile.Storage.FileSystem
import Facsimile.Storage.Path
import Facsimile.Toml.Reader

/-!
# Settings from a file

A settings file is a TOML document.  Keys of its root table set what they name, other keys and
tables are passed over, and what is not set has its default.
-/

namespace Facsimile

open Toml (Members)

namespace ConfigFile

def text? : Toml.Value → Option String
  | .string s => some s
  | _ => none

def flag? : Toml.Value → Option Bool
  | .boolean b => some b
  | _ => none

def texts? : Toml.Value → Option (List String)
  | .array items => items.mapM text?
  | _ => none

def isEmpty : Toml.Value → Bool
  | .array items => items.isEmpty
  | .table _ members => members.isEmpty
  | .tables items => items.isEmpty
  | _ => false

/-- An ordering is its name, or a table with the name as its one key and nothing under it. -/
def ordering? : Toml.Value → Option Ordering
  | .string s => Ordering.names.lookup s
  | .table _ [(name, content)] => if isEmpty content then Ordering.names.lookup name else none
  | _ => none

/-- What a key sets; none if its value is of another kind. -/
def setting? {α : Type} (root : Members) (key : String) (decode : Toml.Value → Option α)
    (fallback : α) : Option α :=
  match root.lookup key with
  | some v => decode v
  | none => some fallback

def ofMembers? (root : Members) : Option Config := do
  let c := Config.default
  return {
    outputDir := ← setting? root "output_dir" text? c.outputDir
    packages := ← setting? root "packages" texts? c.packages
    sourceUnits := ← setting? root "source_units" texts? c.sourceUnits
    markers := ← setting? root "markers" texts? c.markers
    discriminators := ← setting? root "discriminators" texts? c.discriminators
    serialName := ← setting? root "serial_name" text? c.serialName
    escapeTemplate := ← setting? root "escape_template" text? c.escapeTemplate
    ordering := ← setting? root "ordering" ordering? c.ordering
    modFile := ← setting? root "mod_file" flag? c.modFile }

def read? (text : String) : Option Config := (Members.read? text).bind ofMembers?

def name : String := "typemirror.toml"

end ConfigFile

inductive LoadError where
  | read (path : String) (cause : IoError)
  | parse (path : String)
  deriving DecidableEq, Repr

def LoadError.message : LoadError → String
  | .read path cause => "failed to read " ++ path ++ ": " ++ cause.message
  | .parse path => "failed to parse " ++ path

namespace Config

variable {m : Type → Type} [Monad m] [FileSystem m]

def load (path : String) : m (Except LoadError Config) := do
  match ← FileSystem.readText path with
  | .error e => return .error (.read path e)
  | .ok text =>
    match ConfigFile.read? text with
    | some c => return .ok c
    | none => return .error (.parse path)

/-- The settings of a directory: those in its settings file, or the default if there is none. -/
def loadOrDefault (directory : String) : m (Except LoadError Config) := do
  let path := Path.join directory ConfigFile.name
  if ← FileSystem.isFile path then load path else return .ok .default

end Config
end Facsimile
