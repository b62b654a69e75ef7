import Facsimile.Proofs.AcceptedSettings

/-!
# The first annotation that counts

A name on the wire and a discriminator key are read from the first annotation that the settings
refer to, at the argument that the first setting for this annotation names.  Neither a later
annotation nor a later setting makes up for an argument that is missing or no text
(`first_annotation_counts`).
-/

namespace Facsimile

/-- The text that an annotation gives for an argument, and `fallback` if it gives none. -/
def Annotation.textOr (a : Annotation) (argument fallback : String) : String :=
  match a.arguments.lookup argument with
  | some (.string text) => text
  | _ => fallback

theorem Annotation.getD_textArgument? (a : Annotation) (argument fallback : String) :
    (a.textArgument? argument).getD fallback = a.textOr argument fallback := by
  unfold textArgument? textOr
  cases a.arguments.lookup argument with
  | none => rfl
  | some v =>
    cases v with
    | string text => rfl
    | _ => rfl

namespace Resolver

/-- One of the paths refers to an annotation. -/
def Configured (paths : List AnnotationPath) (a : Annotation) : Prop :=
  ∃ path ∈ paths, path.qualifiedName = a.qualifiedName

/-- Of a list of annotations `read` takes the first one that some path refers to, and of the paths
the first one that refers to it.  What stands before and behind this annotation has no part in the
result. -/
structure ReadsFirst (paths : List AnnotationPath) (fallback : String)
    (read : List Annotation → String) : Prop where
  configured : ∀ a, Configured paths a → ∃ path,
    FirstWith (fun path => path.qualifiedName = a.qualifiedName) paths path ∧
      ∀ before after, (∀ b ∈ before, ¬Configured paths b) →
        read (before ++ a :: after) = a.textOr path.argument fallback
  unconfigured : ∀ annotations, (∀ a ∈ annotations, ¬Configured paths a) →
    read annotations = fallback

/-- The first of the paths that refers to an annotation. -/
def pathFor (paths : List AnnotationPath) (a : Annotation) : Option AnnotationPath :=
  paths.find? fun path => path.qualifiedName == a.qualifiedName

section Paths

variable {paths : List AnnotationPath} {a : Annotation}

theorem pathFor_eq_some_iff {path : AnnotationPath} :
    pathFor paths a = some path ↔
      FirstWith (fun path => path.qualifiedName = a.qualifiedName) paths path :=
  find?_eq_some_iff_firstWith fun _ => beq_iff_eq

theorem pathFor_eq_none_iff : pathFor paths a = none ↔ ¬Configured paths a := by
  simp [pathFor, Configured]

theorem findSome?_of_unconfigured {annotations : List Annotation}
    (h : ∀ a ∈ annotations, ¬Configured paths a) :
    annotations.findSome? (fun a => (pathFor paths a).map fun path => (a, path)) = none := by
  rw [List.findSome?_eq_none_iff]
  intro a ha
  rw [pathFor_eq_none_iff.mpr (h a ha), Option.map_none]

theorem firstText?_of_unconfigured {annotations : List Annotation}
    (h : ∀ a ∈ annotations, ¬Configured paths a) :
    firstText? (pathFor paths) annotations = none := by
  rw [firstText?, findSome?_of_unconfigured h, Option.bind_none]

theorem firstText?_of_configured {path : AnnotationPath} (ha : pathFor paths a = some path)
    {before : List Annotation} (hbefore : ∀ b ∈ before, ¬Configured paths b)
    (after : List Annotation) :
    firstText? (pathFor paths) (before ++ a :: after) = a.textArgument? path.argument := by
  rw [firstText?, List.findSome?_append, findSome?_of_unconfigured hbefore, List.findSome?_cons, ha]
  rfl

/-- Reading goes by annotations first and by paths second. -/
theorem readsFirst_firstText? (paths : List AnnotationPath) (fallback : String) :
    ReadsFirst paths fallback fun annotations =>
      (firstText? (pathFor paths) annotations).getD fallback := by
  constructor
  case configured =>
    intro a ha
    obtain ⟨path, hpath⟩ := firstWith_exists_iff.mpr ha
    refine ⟨path, hpath, fun before after hbefore => ?_⟩
    rw [firstText?_of_configured (pathFor_eq_some_iff.mpr hpath) hbefore after,
      Annotation.getD_textArgument?]
  case unconfigured =>
    intro annotations h
    rw [firstText?_of_unconfigured h, Option.getD_none]

/-- Paths for other annotations have no part in which path is the first. -/
theorem pathFor_eq_head? :
    pathFor paths a = (paths.filter fun path => path.qualifiedName = a.qualifiedName).head? := by
  rw [List.head?_filter]
  rfl

end Paths

theorem serialNameOf_eq (r : Resolver) : r.serialNameOf = pathFor [r.serialName] := by
  funext a
  unfold serialNameOf pathFor
  by_cases h : a.qualifiedName = r.serialName.qualifiedName
  · simp [h]
  · simp [h, Ne.symm h]

theorem discriminatorOf_eq (r : Resolver) : r.discriminatorOf = pathFor r.discriminators := rfl

/-- Names on the wire and discriminator keys come from the first annotation that the settings refer
to, and the order of the settings for different annotations does not matter. -/
theorem first_annotation_counts {c : Config} {r : Resolver} (hr : ofConfig c = .ok r) :
    r.paths.map AnnotationPath.text = c.pathTexts ∧
      (∀ name, ReadsFirst [r.serialName] name fun annotations => r.wireName annotations name) ∧
      (∀ root : Declaration, ReadsFirst r.discriminators "type" fun annotations =>
        r.discriminatorKey { root with annotations }) ∧
      ∀ c' r', ofConfig c' = .ok r' →
        (∀ name, r'.discriminators.filter (fun path => path.qualifiedName = name) =
          r.discriminators.filter fun path => path.qualifiedName = name) →
        ∀ root, r'.discriminatorKey root = r.discriminatorKey root := by
  refine ⟨(ofConfig_eq_ok_iff.mp hr).2.1, fun name => ?_, fun root => ?_, ?_⟩
  · have hreads := readsFirst_firstText? [r.serialName] name
    rwa [← serialNameOf_eq] at hreads
  · exact readsFirst_firstText? r.discriminators defaultDiscriminator
  · intro c' r' _ hsame root
    have hpaths : pathFor r'.discriminators = pathFor r.discriminators := by
      funext a
      rw [pathFor_eq_head?, pathFor_eq_head?, hsame]
    unfold discriminatorKey
    rw [discriminatorOf_eq, discriminatorOf_eq, hpaths]

/-- Two settings for one annotation. -/
def taggedConfig : Config :=
  { Config.default with discriminators := ["com.example.Tagged.key", "com.example.Tagged.label"] }

def taggedResolver : Resolver where
  markers := ["kotlinx.serialization.Serializable"]
  serialName := ⟨"kotlinx.serialization.SerialName", "value"⟩
  discriminators := [⟨"com.example.Tagged", "key"⟩, ⟨"com.example.Tagged", "label"⟩]

/-- An annotation whose first argument is no text. -/
def tagged : Annotation := ⟨"com.example.Tagged", [("key", .bool true), ("label", .string "tag")]⟩

/-- An annotation that no setting refers to. -/
def event : Annotation := .marker "com.example.Event"

theorem tagged_counts :
    ofConfig taggedConfig = .ok taggedResolver ∧
      Configured taggedResolver.discriminators tagged ∧
      ¬Configured taggedResolver.discriminators event ∧
      ∀ root : Declaration, ∀ after, taggedResolver.discriminatorKey
        { root with annotations := event :: tagged :: after } = "type" := by
  have hr : ofConfig taggedConfig = .ok taggedResolver := rfl
  have htagged : Configured taggedResolver.discriminators tagged :=
    ⟨⟨"com.example.Tagged", "key"⟩, List.mem_cons_self, rfl⟩
  have hevent : ¬Configured taggedResolver.discriminators event := by
    simp [Configured, taggedResolver, event, Annotation.marker]
  refine ⟨hr, htagged, hevent, fun root after => ?_⟩
  obtain ⟨path, hfirst, hread⟩ :=
    ((first_annotation_counts hr).2.2.1 root).configured tagged htagged
  rcases firstWith_cons_iff.mp hfirst with ⟨-, rfl⟩ | ⟨hno, -⟩
  · exact hread [event] after (List.forall_mem_singleton.mpr hevent)
  · exact absurd rfl hno

end Resolver
end Facsimile
