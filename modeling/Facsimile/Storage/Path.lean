import Facsimile.Storage.IoError
import Facsimile.Text.Split

/-!
# Paths

A path is a text whose parts stand between slashes.
-/

namespace Facsimile

structure Path where
  absolute : Bool
  parts : List String
  /-- Whether a slash ends the path, so that it has to name a directory. -/
  slashEnded : Bool
  deriving DecidableEq, Repr

namespace Path

/-- How many bytes a path or a name may have. -/
def byteLimit : Nat := 4095
def nameLimit : Nat := 255

def partsOf (text : List Char) : List String :=
  ((text.splitOn '/').filter (· ≠ [])).map String.ofList

def ofText (text : String) : Path where
  absolute := text.toList.head? == some '/'
  parts := partsOf text.toList
  slashEnded := text.toList.getLast? == some '/'

/-- The path that a text is to the file system. -/
def parse (text : String) : Except IoError Path :=
  if text.toList.contains '\x00' then .error .nullInName
  else if text.isEmpty then .error .notFound
  else if byteLimit < text.utf8ByteSize then .error .nameTooLong
  else .ok (ofText text)

/-- The text of an absolute path or of one that is not. -/
def textOf (absolute : Bool) (parts : List String) : String :=
  (if absolute then "/" else "") ++ "/".intercalate parts

/-- The parts without those that stay where they are; a path from the working directory may start
with one. -/
def steps (p : Path) : List String :=
  match p.parts with
  | [] => []
  | part :: parts =>
    (if part = "." ∧ p.absolute then [] else [part]) ++ parts.filter (· ≠ ".")

/-- The path of `name` within a directory; an absolute name stands for itself. -/
def join (directory name : String) : String :=
  if name.toList.head? = some '/' then name
  else if directory.isEmpty || directory.toList.getLast? == some '/' then directory ++ name
  else directory ++ "/" ++ name

end Path
end Facsimile
