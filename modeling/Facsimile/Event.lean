import Facsimile.TypeText

/-!
# Events

What a pass tells about its work beside its result: what it skipped, replaced and wrote.
-/

namespace Facsimile

inductive Level where
  | error | warn | info | debug | trace
  deriving DecidableEq, Repr

def Level.name : Level → String
  | .error => "ERROR"
  | .warn => "WARN"
  | .info => "INFO"
  | .debug => "DEBUG"
  | .trace => "TRACE"

/-- How much a level tells: a reader who asks for one level also gets the levels below it. -/
def Level.detail : Level → Nat
  | .error => 1
  | .warn => 2
  | .info => 3
  | .debug => 4
  | .trace => 5

inductive Event where
  | unresolvedType (spelling : String)
  /-- A declaration that is no record extends a sealed root. -/
  | strayMember (declaration root : String)
  | rootWithoutUnit (root : String)
  | selected (count total : Nat)
  | emptyHierarchy (root : String)
  | emptyUnit (unit : String)
  | generated (files : Nat)
  | declarationWithoutUnit (declaration : String)
  | wrote (fileName : String)
  | modelRead (declarations : Nat)

namespace Event

def level : Event → Level
  | .unresolvedType _ | .strayMember _ _ | .rootWithoutUnit _ | .declarationWithoutUnit _ => .warn
  | .selected _ _ | .emptyHierarchy _ | .emptyUnit _ | .generated _ | .modelRead _ => .debug
  | .wrote _ => .info

/-- The part of the program that an event is about. -/
def target : Event → String
  | .unresolvedType _ => "typemirror::types"
  | .strayMember _ _ => "typemirror::hierarchy"
  | .modelRead _ => "typemirror::commands::generate"
  | .rootWithoutUnit _ | .selected _ _ | .emptyHierarchy _ | .emptyUnit _ | .generated _
  | .declarationWithoutUnit _ | .wrote _ => "typemirror::generate"

def message : Event → String
  | .unresolvedType spelling =>
    "unresolved type `" ++ spelling ++ "`, falling back to " ++ fallbackType
  | .strayMember declaration root =>
    "`" ++ declaration ++ "` extends sealed `" ++ root ++
      "` but is not a struct; emitting it standalone"
  | .rootWithoutUnit root =>
    "sealed `" ++ root ++ "` has no source unit, emitting its subtypes standalone"
  | .selected count total =>
    toString count ++ " of " ++ toString total ++ " declarations eligible for generation"
  | .emptyHierarchy root => "sealed `" ++ root ++ "` has no subtypes, skipping"
  | .emptyUnit unit => "source unit `" ++ unit ++ "` produced no types, skipping"
  | .generated files => "generated " ++ toString files ++ " files"
  | .declarationWithoutUnit declaration => "`" ++ declaration ++ "` has no source unit, skipping"
  | .wrote fileName => "wrote " ++ fileName
  | .modelRead declarations => "read " ++ toString declarations ++ " declarations"

end Event
end Facsimile
