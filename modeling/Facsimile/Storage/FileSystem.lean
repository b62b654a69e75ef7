import Facsimile.Storage.IoError

/-!
# File systems

What the program asks of a file system.  Paths are texts and contents are bytes.
-/

namespace Facsimile

class FileSystem (m : Type → Type) where
  read : String → m (Except IoError ByteArray)
  isFile : String → m Bool
  /-- Makes a directory and those that it stands in, as far as they do not exist. -/
  makeDirectories : String → m (Except IoError Unit)
  /-- Sets the content of a file, which may be new. -/
  write : String → ByteArray → m (Except IoError Unit)

def FileSystem.readText {m : Type → Type} [Monad m] [FileSystem m] (path : String) :
    m (Except IoError String) :=
  return (← FileSystem.read path).bind decodeText

end Facsimile
