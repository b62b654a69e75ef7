import Facsimile.Json.Reader
import Facsimile.Json.Value

/-!
# Decoding documents

A decoder takes a document apart in the order in which it is written and stops at the first thing
that does not fit.  It counts the arrays and objects it may still open; what it passes over does not
count.
-/

namespace Facsimile
namespace Json

inductive Found where
  | null
  | bool (b : Bool)
  | number (n : Number)
  | string (s : String)
  | sequence
  | map
  | unitVariant

inductive DecodeError where
  /-- The text is no document, or nests too deeply, or has a value of no known form. -/
  | unreadable
  | invalidType (found : Found) (expected : String)
  | invalidLength (length : Nat) (expected : String)
  | missingField (name : String)
  | duplicateField (name : String)
  | unknownVariant (name : String) (known : List String)

abbrev Decoded (α : Type) := Except DecodeError α

def mismatch {α : Type} (d : Doc) (expected : String) : Decoded α :=
  match d with
  | .null => .error (.invalidType .null expected)
  | .bool b => .error (.invalidType (.bool b) expected)
  | .number (some n) => .error (.invalidType (.number n) expected)
  | .string (some s) => .error (.invalidType (.string s) expected)
  | .array _ => .error (.invalidType .sequence expected)
  | .object _ => .error (.invalidType .map expected)
  | .number none | .string none => .error .unreadable

/-- How many arrays and objects may be open on the way to a value. -/
def nestingLimit : Nat := 127

def enter {α : Type} (depth : Nat) (decode : Nat → Decoded α) : Decoded α :=
  match depth with
  | 0 => .error .unreadable
  | depth + 1 => decode depth

def decodeString : Doc → Decoded String
  | .string (some s) => .ok s
  | d => mismatch d "a string"

def decodeBool : Doc → Decoded Bool
  | .bool b => .ok b
  | d => mismatch d "a boolean"

def decodeUnit : Doc → Decoded Unit
  | .null => .ok ()
  | d => mismatch d "unit"

def decodeOption {α : Type} (decode : Doc → Decoded α) : Doc → Decoded (Option α)
  | .null => .ok none
  | d => (decode d).map some

def decodeList {α : Type} (decode : Nat → Doc → Decoded α) (depth : Nat) : Doc → Decoded (List α)
  | .array items => enter depth fun depth => items.mapM (decode depth)
  | d => mismatch d "a sequence"

/-- The members of an object in ascending order of names; of two with one name the last counts. -/
def decodeMembers (decode : Doc → Decoded Value) (members : List (Option String × Doc)) :
    Decoded (List (String × Value)) :=
  members.foldlM
    (fun values (name, d) =>
      match name with
      | some name => (decode d).map fun v => Sorted.put name v values
      | none => .error .unreadable)
    []

def decodeValue (depth : Nat) : Doc → Decoded Value
  | .null => .ok .null
  | .bool b => .ok (.bool b)
  | .number (some n) => .ok (.number n)
  | .string (some s) => .ok (.string s)
  | .number none | .string none => .error .unreadable
  | .array items =>
    match depth with
    | 0 => .error .unreadable
    | depth + 1 => (items.mapM fun d => decodeValue depth d).map .array
  | .object members =>
    match depth with
    | 0 => .error .unreadable
    | depth + 1 => (decodeMembers (fun d => decodeValue depth d) members).map .object

def decodeMap (depth : Nat) : Doc → Decoded (List (String × Value))
  | .object members => enter depth fun depth => decodeMembers (decodeValue depth) members
  | d => mismatch d "a map"

/-- A choice among names: the name alone, or an object with the name and null. -/
def decodeChoice {α : Type} (choices : List (String × α)) (depth : Nat) (d : Doc) : Decoded α :=
  let choose (name : String) : Decoded α :=
    match choices.lookup name with
    | some a => .ok a
    | none => .error (.unknownVariant name (choices.map Prod.fst))
  match d with
  | .string (some name) => choose name
  | .object ((some name, content) :: rest) =>
    enter depth fun _ => do
      let a ← choose name
      decodeUnit content
      if rest.isEmpty then return a else .error .unreadable
  | _ => .error .unreadable

end Json
end Facsimile
