import Facsimile.Storage.FileSystem
import Facsimile.Storage.Path

/-!
# Disks

A file system in memory: a directory or a file under each absolute path.  A failed `makeDirectory`
or `write` leaves the disk as it was; `makeDirectories` may have made some of the directories.
-/

namespace Facsimile

inductive Node where
  | directory
  | file (content : ByteArray)

structure Disk where
  /-- What there is beside the root, by the names on the way to it. -/
  nodes : List (List String × Node)
  /-- The directory that paths start from unless they are absolute. -/
  workingDirectory : List String

namespace Disk

def node? (d : Disk) (location : List String) : Option Node :=
  if location = [] then some .directory else d.nodes.lookup location

def putNode (location : List String) (n : Node) :
    List (List String × Node) → List (List String × Node)
  | [] => [(location, n)]
  | (l, old) :: rest =>
    if l = location then (l, n) :: rest else (l, old) :: putNode location n rest

def put (d : Disk) (location : List String) (n : Node) : Disk :=
  { d with nodes := putNode location n d.nodes }

/-- What a path leads to: a directory that is there, or a name in a directory that is there. -/
inductive Place where
  | directory (location : List String)
  | entry (location : List String)

/-- What a name in a directory stands for. -/
def entry? (d : Disk) (location : List String) : Except IoError (Option Node) :=
  if location.getLast?.any (fun name => decide (Path.nameLimit < name.utf8ByteSize)) then
    .error .nameTooLong
  else .ok (d.node? location)

/-- The directory reached from `here` through `parts`. -/
def walk (d : Disk) (here : List String) : List String → Except IoError (List String)
  | [] => .ok here
  | part :: parts =>
    if part = "." then walk d here parts
    else if part = ".." then walk d here.dropLast parts
    else
      match d.entry? (here ++ [part]) with
      | .error e => .error e
      | .ok none => .error .notFound
      | .ok (some (.file _)) => .error .notADirectory
      | .ok (some .directory) => walk d (here ++ [part]) parts

def locate (d : Disk) (p : Path) : Except IoError Place := do
  let start := if p.absolute then [] else d.workingDirectory
  let here ← d.walk start p.parts.dropLast
  match p.parts.getLast? with
  | none => return .directory start
  | some last =>
    if last = "." then return .directory here
    else if last = ".." then return .directory here.dropLast
    else return .entry (here ++ [last])

def find (d : Disk) (path : String) : Except IoError Node := do
  let p ← Path.parse path
  match ← d.locate p with
  | .directory _ => return .directory
  | .entry location =>
    match ← d.entry? location with
    | none => throw .notFound
    | some .directory => return .directory
    | some (.file content) => if p.slashEnded then throw .notADirectory else return .file content

def isFile (d : Disk) (path : String) : Bool :=
  match d.find path with
  | .ok (.file _) => true
  | _ => false

def isDirectory (d : Disk) (path : String) : Bool :=
  match d.find path with
  | .ok .directory => true
  | _ => false

def read (d : Disk) (path : String) : Except IoError ByteArray := do
  match ← d.find path with
  | .directory => throw .isADirectory
  | .file content => return content

def makeDirectory (d : Disk) (path : String) : Except IoError Disk := do
  let p ← Path.parse path
  match ← d.locate p with
  | .directory _ => throw .alreadyExists
  | .entry location =>
    match ← d.entry? location with
    | some _ => throw .alreadyExists
    | none => return d.put location .directory

def write (d : Disk) (path : String) (content : ByteArray) : Except IoError Disk := do
  let p ← Path.parse path
  match ← d.locate p with
  | .directory _ => throw .isADirectory
  | .entry location =>
    if p.slashEnded then throw .isADirectory
    match ← d.entry? location with
    | some .directory => throw .isADirectory
    | _ => return d.put location (.file content)

def ensureDirectory (d : Disk) (path : String) : Except IoError Unit × Disk :=
  match d.makeDirectory path with
  | .ok d => (.ok (), d)
  | .error e => (if d.isDirectory path then .ok () else .error e, d)

/-- Makes a directory; where the one around it is missing, `around` makes that one first. -/
def ensureWithin (d : Disk) (path : String) (around : Disk → Except IoError Unit × Disk) :
    Except IoError Unit × Disk :=
  match d.makeDirectory path with
  | .error .notFound =>
    match around d with
    | (.ok (), d) => d.ensureDirectory path
    | failed => failed
  | _ => d.ensureDirectory path

/-- Makes the directories on the way through `steps`, which are given from the last to the first. -/
def ensureSteps (absolute : Bool) : List String → Disk → Except IoError Unit × Disk
  | [], d => (.ok (), d)
  | last :: above, d =>
    d.ensureWithin (Path.textOf absolute (last :: above).reverse) (ensureSteps absolute above)

def makeDirectories (d : Disk) (path : String) : Except IoError Unit × Disk :=
  if path.isEmpty then (.ok (), d)
  else
    let p := Path.ofText path
    d.ensureWithin path (ensureSteps p.absolute p.steps.dropLast.reverse)

/-- The files below the working directory, by their paths from there. -/
def files (d : Disk) : List (String × ByteArray) :=
  d.nodes.filterMap fun (location, n) =>
    match n with
    | .directory => none
    | .file content =>
      if d.workingDirectory.isPrefixOf location then
        some ("/".intercalate (location.drop d.workingDirectory.length), content)
      else none

def empty (workingDirectory : List String) : Disk where
  nodes :=
    (List.range workingDirectory.length).map fun i => (workingDirectory.take (i + 1), .directory)
  workingDirectory := workingDirectory

/-- Adds a file and the directories on the way to it. -/
def withFile (d : Disk) (path : String) (content : ByteArray) : Disk :=
  let p := Path.ofText path
  let d := (ensureSteps p.absolute p.steps.dropLast.reverse d).2
  match d.write path content with
  | .ok d => d
  | .error _ => d

instance : FileSystem (StateM Disk) where
  read path := return (← get).read path
  isFile path := return (← get).isFile path
  makeDirectories path := modifyGet fun d => d.makeDirectories path
  write path content := modifyGet fun d =>
    match d.write path content with
    | .ok d => (.ok (), d)
    | .error e => (.error e, d)

theorem lookup_putNode_self (location : List String) (n : Node)
    (nodes : List (List String × Node)) :
    (putNode location n nodes).lookup location = some n := by
  induction nodes with
  | nil => simp [putNode]
  | cons entry rest ih =>
    obtain ⟨l, old⟩ := entry
    unfold putNode
    split
    · rename_i h
      simp [h]
    · rename_i h
      have : (location == l) = false := by simpa using fun e => h e.symm
      simp [List.lookup_cons, this, ih]

theorem lookup_putNode_of_ne {location other : List String} (h : other ≠ location) (n : Node)
    (nodes : List (List String × Node)) :
    (putNode location n nodes).lookup other = nodes.lookup other := by
  induction nodes with
  | nil =>
    have : (other == location) = false := by simpa using h
    simp [putNode, List.lookup_cons, this]
  | cons entry rest ih =>
    obtain ⟨l, old⟩ := entry
    unfold putNode
    split
    · rename_i e
      subst e
      have : (other == l) = false := by simpa using h
      simp [List.lookup_cons, this]
    · simp [List.lookup_cons, ih]

theorem node?_put_self {location : List String} (h : location ≠ []) (d : Disk) (n : Node) :
    (d.put location n).node? location = some n := by
  simp [node?, put, h, lookup_putNode_self]

theorem node?_put_of_ne {location other : List String} (h : other ≠ location) (d : Disk)
    (n : Node) :
    (d.put location n).node? other = d.node? other := by
  simp [node?, put, lookup_putNode_of_ne h]

end Disk
end Facsimile
