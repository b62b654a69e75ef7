/-!
# TOML values

A document is a tree of tables.  How a table came to be decides what may still be added to it.
-/

namespace Facsimile
namespace Toml

inductive Origin where
  | inline
  | header
  /-- On the way to the table of a header. -/
  | implied
  /-- On the way to the value of a dotted key. -/
  | dotted
  deriving DecidableEq, Repr

inductive Value where
  | string (s : String)
  | boolean (b : Bool)
  /-- A number or a point in time, whose value is not kept. -/
  | scalar
  | array (items : List Value)
  | table (origin : Origin) (members : List (String × Value))
  /-- Tables that are given one by one under headers of one name. -/
  | tables (items : List (List (String × Value)))

abbrev Members := List (String × Value)

namespace Members

/-- Sets the value of a key; a new key comes last. -/
def put (key : String) (v : Value) : Members → Members
  | [] => [(key, v)]
  | (k, old) :: rest => if k = key then (k, v) :: rest else (k, old) :: put key v rest

def add? (key : String) (v : Value) (ms : Members) : Option Members :=
  if (ms.lookup key).isSome then none else some (ms ++ [(key, v)])

/-- Changes the table under a path, from a table of origin `origin`.  Tables that are missing on the
way are made.  A path of a dotted key may not pass through the table of a header, and no path leads
into an inline table. -/
def alter? (isDotted : Bool) (update : Origin → Members → Option Members) :
    List String → Origin → Members → Option Members
  | [], origin, ms => update origin ms
  | key :: path, _, ms =>
    match ms.lookup key with
    | none => do
      let made := if isDotted then Origin.dotted else .implied
      return put key (.table made (← alter? isDotted update path made [])) ms
    | some (.table origin inner) => do
      if origin = .inline ∨ (isDotted ∧ origin = .header) then none
      return put key (.table origin (← alter? isDotted update path origin inner)) ms
    | some (.tables items) =>
      match items.getLast? with
      | none => none
      | some last => do
        return put key (.tables (items.dropLast ++ [← alter? isDotted update path .header last])) ms
    | some _ => none

/-- Adds the value of a key to a table.  A dotted key adds to tables that dotted keys made. -/
def assign? (path : List String) (key : String) (v : Value) (ms : Members) : Option Members :=
  alter? true
    (fun origin inner => if path ≠ [] ∧ origin ≠ .dotted then none else inner.add? key v)
    path .header ms

/-- Opens the table of a header.  It may have been implied by another header, once. -/
def openTable? (path : List String) (key : String) (ms : Members) : Option Members :=
  alter? false
    (fun _ inner =>
      match inner.lookup key with
      | none => some (inner.put key (.table .header []))
      | some (.table .implied own) => some (inner.put key (.table .header own))
      | some _ => none)
    path .header ms

/-- Opens a further table under a header of several. -/
def openFurther? (path : List String) (key : String) (ms : Members) : Option Members :=
  alter? false
    (fun _ inner =>
      match inner.lookup key with
      | none => some (inner.put key (.tables [[]]))
      | some (.tables items) => some (inner.put key (.tables (items ++ [[]])))
      | some _ => none)
    path .header ms

end Members
end Toml
end Facsimile
