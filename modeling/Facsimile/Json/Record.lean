import Facsimile.Json.Decode

/-!
# Records

A record is written as an object with its members in any order, or as the list of its members in the
order of the record.  Members that have a default may be left out, in a list from its end.  An
object may hold other members, which are passed over.
-/

namespace Facsimile
namespace Json

/-- A member of a record: its name, what it is where it is left out, and how it is decoded. -/
structure Slot where
  {type : Type}
  name : String
  default : Option type
  decode : Doc → Decoded type

namespace Slot

/-- What is known of each member, as nested pairs. -/
def Known : List Slot → Type
  | [] => Unit
  | s :: ss => Option s.type × Known ss

/-- What makes a record of its members, one after another. -/
def Builder (α : Type) : List Slot → Type
  | [] => α
  | s :: ss => s.type → Builder α ss

def unknown : (ss : List Slot) → Known ss
  | [] => ()
  | _ :: ss => (none, unknown ss)

def once (s : Slot) (seen : Option s.type) (d : Doc) : Decoded (Option s.type) :=
  match seen with
  | some _ => .error (.duplicateField s.name)
  | none => (s.decode d).map some

/-- Takes up a member of an object. -/
def take : (ss : List Slot) → String → Doc → Known ss → Decoded (Known ss)
  | [], _, _, () => .ok ()
  | s :: ss, name, d, (seen, others) =>
    if name = s.name then (s.once seen d).map fun seen => (seen, others)
    else (take ss name d others).map fun others => (seen, others)

def takeAll (ss : List Slot) (members : List (Option String × Doc)) : Decoded (Known ss) :=
  members.foldlM
    (fun known (name, d) =>
      match name with
      | some name => take ss name d known
      | none => .error .unreadable)
    (unknown ss)

/-- The record once all members of its object are known. -/
def build {α : Type} : (ss : List Slot) → Builder α ss → Known ss → Decoded α
  | [], a, () => .ok a
  | s :: ss, f, (seen, others) =>
    match seen.or s.default with
    | some v => build ss (f v) others
    | none => .error (.missingField s.name)

/-- The record whose members a list goes on with.  `short` is the error of a list that ends before
a member without default. -/
def buildList {α : Type} (short : DecodeError) :
    (ss : List Slot) → Builder α ss → List Doc → Decoded α
  | [], a, [] => .ok a
  | [], _, _ :: _ => .error .unreadable
  | s :: ss, f, [] =>
    match s.default with
    | some v => buildList short ss (f v) []
    | none => .error short
  | s :: ss, f, d :: ds =>
    match s.decode d with
    | .ok v => buildList short ss (f v) ds
    | .error e => .error e

end Slot

/-- The content of a record, from inside its object or list. -/
def decodeContent {α : Type} (expected : String) (ss : List Slot) (f : Slot.Builder α ss) :
    Doc → Decoded α
  | .object members => (Slot.takeAll ss members).bind (Slot.build ss f)
  | .array items =>
    let whole := expected ++ " with " ++ toString ss.length ++ " elements"
    Slot.buildList (.invalidLength items.length whole) ss f items
  | d => mismatch d expected

/-- A record takes one level, and its members are decoded within it. -/
def decodeRecord {α : Type} (expected : String) (ss : Nat → List Slot)
    (f : ∀ depth, Slot.Builder α (ss depth)) (depth : Nat) (d : Doc) : Decoded α :=
  match d with
  | .object _ | .array _ =>
    enter depth fun depth => decodeContent expected (ss depth) (f depth) d
  | _ => mismatch d expected

end Json
end Facsimile
