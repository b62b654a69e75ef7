import Facsimile.Command.Execute

/-!
# The program

The host of the program is the machine that it runs on.
-/

namespace Facsimile

def ioError (e : IO.Error) : IoError :=
  match e with
  | .noFileOrDirectory .. => .notFound
  | .noSuchThing .. => .notFound
  | .alreadyExists .. => .alreadyExists
  | .inappropriateType .. => .isADirectory
  | e => .other (toString e)

def attempt {α : Type} (action : IO α) : IO (Except IoError α) := do
  try return .ok (← action) catch e => return .error (ioError e)

partial def readAll (stream : IO.FS.Stream) (start : ByteArray) : IO ByteArray := do
  let chunk ← stream.read 65536
  if chunk.isEmpty then return start else readAll stream (start ++ chunk)

instance : Host IO where
  read path := attempt (IO.FS.readBinFile path)
  isFile path := do
    match ← attempt (IO.FS.readBinFile path) with
    | .error .notFound | .error .isADirectory => return false
    | _ => return true
  makeDirectories path := attempt (if path.isEmpty then pure () else IO.FS.createDirAll path)
  write path content := attempt (IO.FS.writeBinFile path content)
  readInput := do readAll (← IO.getStdin) ByteArray.empty

end Facsimile

open Facsimile in
def main (words : List String) : IO UInt32 := do
  let report : Report ← Command.execute (← IO.getEnv "RUST_LOG") words
  IO.print report.output
  for message in report.messages do IO.eprintln message
  return report.code.toUInt32
