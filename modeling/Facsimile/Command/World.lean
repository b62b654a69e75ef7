import Facsimile.Command.Execute
import Facsimile.Storage.Disk

/-!
# A host in memory
-/

namespace Facsimile

structure World where
  disk : Disk
  input : ByteArray

namespace World

def onDisk {α : Type} (action : StateM Disk α) : StateM World α :=
  modifyGet fun w =>
    let (a, disk) := action.run w.disk
    (a, { w with disk := disk })

instance : Host (StateM World) where
  read path := onDisk (FileSystem.read path)
  isFile path := onDisk (FileSystem.isFile path)
  makeDirectories path := onDisk (FileSystem.makeDirectories path)
  write path content := onDisk (FileSystem.write path content)
  readInput := modifyGet fun w => (w.input, { w with input := ByteArray.empty })

end World
end Facsimile
