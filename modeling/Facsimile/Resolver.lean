import Facsimile.Config
import Facsimile.Model.Basic

/-!
# Names from annotations

A resolver holds the settings that refer to annotations and looks up what a declaration's
annotations say: whether it is marked, its name on the wire, and the discriminator key of a sealed
root.  Of several annotations that a setting refers to only the first counts.
-/

namespace Facsimile

structure Resolver where
  markers : List String
  serialName : AnnotationPath
  discriminators : List AnnotationPath

namespace Resolver

def ofConfig (c : Config) : Except ConfigError Resolver := do
  let serialName ← AnnotationPath.parse c.serialName
  let discriminators ← c.discriminators.mapM AnnotationPath.parse
  return ⟨c.markers, serialName, discriminators⟩

def isMarked (r : Resolver) (d : Declaration) : Bool :=
  d.annotations.any fun a => r.markers.contains a.qualifiedName

/-- The text that the first annotation with a path gives for it. -/
def firstText? (pathOf : Annotation → Option AnnotationPath) (annotations : List Annotation) :
    Option String :=
  (annotations.findSome? fun a => (pathOf a).map fun path => (a, path)).bind
    fun (a, path) => a.textArgument? path.argument

def serialNameOf (r : Resolver) (a : Annotation) : Option AnnotationPath :=
  if a.qualifiedName = r.serialName.qualifiedName then some r.serialName else none

/-- The first of the discriminators that refers to an annotation. -/
def discriminatorOf (r : Resolver) (a : Annotation) : Option AnnotationPath :=
  r.discriminators.find? fun path => path.qualifiedName == a.qualifiedName

/-- The name on the wire of what is called `name` in the model. -/
def wireName (r : Resolver) (annotations : List Annotation) (name : String) : String :=
  (firstText? r.serialNameOf annotations).getD name

def defaultDiscriminator : String := "type"

def discriminatorKey (r : Resolver) (root : Declaration) : String :=
  (firstText? r.discriminatorOf root.annotations).getD defaultDiscriminator

end Resolver
end Facsimile
