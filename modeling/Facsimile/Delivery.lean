import Facsimile.Pass.Report
import Facsimile.Storage.FileSystem
import Facsimile.Storage.Path

/-!
# Delivery

The files of a pass are handed to a sink one after another, up to the first that the sink refuses.
-/

namespace Facsimile

/-- A sink takes a file or says why it does not. -/
abbrev Sink (m : Type → Type) := File → m (Except IoError Unit)

structure WriteError where
  fileName : String
  cause : IoError
  deriving DecidableEq, Repr

def WriteError.message (e : WriteError) : String :=
  "failed to write " ++ e.fileName ++ ": " ++ e.cause.message

structure Delivery where
  written : List String
  failure : Option WriteError
  deriving DecidableEq, Repr

def deliver {m : Type → Type} [Monad m] (sink : Sink m) : List File → m Delivery
  | [] => return ⟨[], none⟩
  | f :: fs => do
    match ← sink f with
    | .error e => return ⟨[], some ⟨f.name, e⟩⟩
    | .ok () =>
      let rest ← deliver sink fs
      return { rest with written := f.name :: rest.written }

inductive RunError where
  | pass (e : PassError)
  | write (e : WriteError)

def RunError.message : RunError → String
  | .pass e => e.message
  | .write e => e.message

/-- A run: its events, and how many files it wrote or why it ended. -/
structure Run where
  events : List Event
  outcome : Except RunError Nat

def Delivery.outcome (d : Delivery) : Except RunError Nat :=
  match d.failure with
  | some e => .error (.write e)
  | none => .ok d.written.length

/-- Generates the files of a model and hands them to a sink. -/
def Generator.run {m : Type → Type} [Monad m] (g : Generator) (model : List Declaration)
    (sink : Sink m) : m Run := do
  let events := g.report model
  match g.generate model with
  | .error e => return ⟨events, .error (.pass e)⟩
  | .ok files =>
    let d ← deliver sink files
    return ⟨events ++ d.written.map .wrote, d.outcome⟩

namespace Sink

def memory : Sink (StateM (List File)) := fun f => do
  modify fun files => files ++ [f]
  return .ok ()

/-- Writes files into a directory, which is made where it is missing. -/
def directory {m : Type → Type} [Monad m] [FileSystem m] (path : String) : Sink m := fun f => do
  match ← FileSystem.makeDirectories path with
  | .error e => return .error e
  | .ok () => FileSystem.write (Path.join path f.name) f.content.toUTF8

end Sink
end Facsimile
