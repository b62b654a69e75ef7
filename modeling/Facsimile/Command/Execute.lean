import Facsimile.Command.Log
import Facsimile.ConfigFile
import Facsimile.Delivery
import Facsimile.Model.Decode

/-!
# Commands

What an invocation does, on any host that has a file system and a standard input.
-/

namespace Facsimile

class Host (m : Type → Type) extends FileSystem m where
  readInput : m ByteArray

/-- What a command leaves behind beside files: an exit code, its output, and the lines for the user.
-/
structure Report where
  code : Nat
  output : String
  messages : List String
  deriving DecidableEq, Repr

namespace Report

def failed (message : String) : Report := ⟨1, "", [message]⟩

def usage : Report := ⟨2, "", []⟩

def versionText : String := "typemirror 0.1.0\n"

def after (lines : List String) (r : Report) : Report := { r with messages := lines ++ r.messages }

end Report

namespace Command

variable {m : Type → Type} [Monad m] [Host m]

def loadConfig (path : Option String) : m (Except LoadError Config) :=
  match path with
  | some path => Config.load path
  | none => Config.loadOrDefault "."

inductive SetupError where
  | load (e : LoadError)
  | config (e : ConfigError)

def SetupError.message : SetupError → String
  | .load e => e.message
  | .config e => e.message

/-- The generator for the settings, which may be changed before they are validated. -/
def setUp (path : Option String) (change : Config → Config) : m (Except SetupError Generator) := do
  match ← loadConfig path with
  | .error e => return .error (.load e)
  | .ok c => return (Generator.new (change c)).mapError .config

/-- The text of a model; a dash stands for the standard input. -/
def readModelText (path : String) : m (Except String String) := do
  if path = "-" then
    return (decodeText (← Host.readInput)).mapError fun e => "Failed to read stdin: " ++ e.message
  else
    return (← FileSystem.readText path).mapError fun e =>
      "Failed to read " ++ path ++ ": " ++ e.message

def modelUnreadable : String := "Failed to parse declaration model"

def loadModel (path : String) : m (Except String (List Declaration)) := do
  return (← readModelText path).bind fun text => (readModel text).mapError fun _ => modelUnreadable

def preview (f : File) : String := "// ==> " ++ f.name ++ "\n" ++ f.content ++ "\n"

def showFiles (t : Threshold) (g : Generator) (model : List Declaration) : Report :=
  Report.after (Log.lines t (g.report model)) <|
    match g.generate model with
    | .ok files => ⟨0, String.join (files.map preview), []⟩
    | .error e => .failed e.message

def writeFiles (t : Threshold) (g : Generator) (model : List Declaration) : m Report := do
  let directory := g.config.outputDir
  let run ← g.run model (Sink.directory directory)
  return Report.after (Log.lines t run.events) <|
    match run.outcome with
    | .ok count =>
      ⟨0, "", ["Generated " ++ toString count ++ " files in " ++ directory]⟩
    | .error e => .failed e.message

def setOutput (output : Option String) (c : Config) : Config :=
  match output with
  | some directory => { c with outputDir := directory }
  | none => c

def generate (t : Threshold) (model : String) (config output : Option String) (dryRun : Bool) :
    m Report := do
  match ← setUp config (setOutput output) with
  | .error e => return .failed e.message
  | .ok g =>
    match ← loadModel model with
    | .error message => return .failed message
    | .ok declarations =>
      let report ← if dryRun then pure (showFiles t g declarations) else writeFiles t g declarations
      return report.after (Log.lines t [.modelRead declarations.length])

/-- What is told about settings that are valid. -/
def summary (c : Config) : String :=
  "config ok: " ++ toString c.markers.length ++ " marker(s), " ++
    toString c.discriminators.length ++ " discriminator(s), escape template `" ++
    c.escapeTemplate ++ "`" ++
    if Naming.isRawTemplate c.escapeTemplate then
      "\nnote: raw identifiers cannot be " ++ ", ".intercalate Naming.pathKeywords ++
        "; models producing them fail at generation"
    else ""

def check (config : Option String) : m Report := do
  match ← setUp config id with
  | .error e => return .failed e.message
  | .ok g => return ⟨0, summary g.config ++ "\n", []⟩

/-- Executes a command line.  `environment` is the level of the log that the environment asks for.
-/
def execute (environment : Option String) (words : List String) : m Report :=
  match Invocation.read? words with
  | none => return .usage
  | some .version => return ⟨0, Report.versionText, []⟩
  | some (.run v (.generate model config output dryRun)) =>
    generate (Threshold.choose environment v) model config output dryRun
  | some (.run _ (.check config)) => check config

end Command
end Facsimile
