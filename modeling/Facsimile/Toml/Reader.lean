import Facsimile.Toml.Scalar
import Facsimile.Toml.Value

/-!
# Reading TOML

A document is a list of lines: assignments and headers.  `Members.read?` reads a text and builds its
root table, unless the lines contradict each other.
-/

namespace Facsimile
namespace Toml

/-- How many arrays and inline tables may be open on the way to a value, and how many parts a key
may have. -/
def nestingLimit : Nat := 79

def isBareKeyChar (c : Char) : Bool :=
  c.isAlphanum || c == '-' || c == '_'

def keyPart : Scan String
  | '"' :: rest => (basicString rest).map fun (t, after) => (String.ofList t, after)
  | '\x27' :: rest => (literalString rest).map fun (t, after) => (String.ofList t, after)
  | s =>
    let bare := s.takeWhile isBareKeyChar
    if bare.isEmpty then none else some (String.ofList bare, s.dropWhile isBareKeyChar)

/-- A key and the blanks around it, as the way to a table and the last part. -/
def key (s : List Char) : Option ((List String × String) × List Char) := do
  let part (s : List Char) : Option (String × List Char) :=
    (keyPart (skipBlanks s)).map fun (part, rest) => (part, skipBlanks rest)
  let (parts, rest) ← separated '.' part s
  if nestingLimit < parts.length then none
  let last ← parts.getLast?
  return ((parts.dropLast, last), rest)

def assignment (value : Scan Value) (s : List Char) :
    Option ((List String × String × Value) × List Char) := do
  let ((path, last), rest) ← key s
  let (v, rest) ← value (skipBlanks (← expect '=' rest))
  return ((path, last, v), rest)

def arrayItems (value : Scan Value) (s : List Char) : Option (List Value × List Char) := do
  let item (s : List Char) : Option (Value × List Char) := do
    let (v, rest) ← value (← skipGaps? false s)
    return (v, ← skipGaps? false rest)
  let (items, rest) :=
    match separated ',' item s with
    | some (items, ',' :: rest) => (items, rest)
    | some result => result
    | none => ([], s)
  return (items, ← expect ']' (← skipGaps? false rest))

def inlineMembers (value : Scan Value) (s : List Char) : Option (Members × List Char) := do
  let item (s : List Char) : Option ((List String × String × Value) × List Char) :=
    (assignment value s).map fun (a, rest) => (a, skipBlanks rest)
  let (assignments, rest) := (separated ',' item s).getD ([], s)
  let members ← assignments.foldlM (fun (ms : Members) (path, last, v) => ms.assign? path last v) []
  return (members, ← expect '}' (skipBlanks rest))

/-- A value with at most `depth` arrays and inline tables open at a time. -/
def value : Nat → Scan Value
  | _, 't' :: 'r' :: 'u' :: 'e' :: rest => some (.boolean true, rest)
  | _, 'f' :: 'a' :: 'l' :: 's' :: 'e' :: rest => some (.boolean false, rest)
  | depth + 1, '[' :: rest =>
    (arrayItems (fun s => value depth s) rest).map fun (items, after) => (.array items, after)
  | depth + 1, '{' :: rest =>
    (inlineMembers (fun s => value depth s) rest).map fun (ms, after) => (.table .inline ms, after)
  | _, s =>
    match anyString s with
    | some (t, after) => some (.string (String.ofList t), after)
    | none => (scalar s).map fun after => (.scalar, after)

inductive Line where
  | blank
  | assign (path : List String) (key : String) (v : Value)
  | table (path : List String) (key : String)
  | further (path : List String) (key : String)

/-- What a line says, from after its blanks. -/
def lineContent (s : List Char) : Option (Line × List Char) :=
  match s with
  | [] => some (.blank, s)
  | '[' :: '[' :: rest => do
    let ((path, last), rest) ← key rest
    return (.further path last, ← expect ']' (← expect ']' rest))
  | '[' :: rest => do
    let ((path, last), rest) ← key rest
    return (.table path last, ← expect ']' rest)
  | c :: _ =>
    if c = '#' ∨ c = '\n' ∨ c = '\r' then some (.blank, s)
    else do
      let ((path, last, v), rest) ← assignment (value nestingLimit) s
      return (.assign path last v, rest)

def line (s : List Char) : Option (Line × List Char) := do
  let (content, rest) ← lineContent (skipBlanks s)
  return (content, ← skipLineEnd? rest)

def lines (s : List Char) : Option (List Line) :=
  if s.isEmpty then some []
  else
    match line s with
    | none => none
    | some (content, rest) =>
      if rest.length < s.length then (lines rest).map (content :: ·) else none
termination_by s.length

/-- The root table after a line, and the path of the table that assignments add to. -/
def addLine (state : Members × List String) : Line → Option (Members × List String)
  | .blank => some state
  | .assign path key v => do
    let root ← Members.alter? false (fun _ ms => ms.assign? path key v) state.2 .header state.1
    return (root, state.2)
  | .table path key => do return (← state.1.openTable? path key, path ++ [key])
  | .further path key => do return (← state.1.openFurther? path key, path ++ [key])

/-- A text may start with a byte order mark. -/
def skipMark : List Char → List Char
  | c :: rest => if c.toNat = 0xFEFF then rest else c :: rest
  | [] => []

def Members.read? (text : String) : Option Members := do
  let ls ← lines (skipMark text.toList)
  let (root, _) ← ls.foldlM addLine ([], [])
  return root

end Toml
end Facsimile
