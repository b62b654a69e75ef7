import Facsimile.Proofs.Refusal

/-!
# Which settings are accepted

A generator is made of settings whose escape template holds the placeholder and of which every text
that names an argument of an annotation has a name, a dot and an argument.  The path that is read
from such a text and the text determine each other (`AnnotationPath.parse_eq_ok_iff`).
`settings_accepted_iff` says which settings are accepted and with what result, and what is reported
of all others.
-/

namespace Facsimile

/-! ## Texts of paths -/

namespace AnnotationPath

def text (path : AnnotationPath) : String := path.qualifiedName ++ "." ++ path.argument

/-- A name and an argument that can be told apart at the last dot. -/
structure IsValid (path : AnnotationPath) : Prop where
  named : path.qualifiedName ≠ ""
  argued : path.argument ≠ ""
  undotted : '.' ∉ path.argument.toList

def IsText (text : String) : Prop := ∃ path : AnnotationPath, path.IsValid ∧ path.text = text

theorem parse_eq_ok_iff {text : String} {path : AnnotationPath} :
    parse text = .ok path ↔ path.IsValid ∧ path.text = text := by
  have hparse : parse text = .ok path ↔ parse? text = some path := by
    unfold parse
    cases parse? text with
    | none => simp
    | some _ => simp
  have htext : text.toList = path.qualifiedName.toList ++ '.' :: path.argument.toList ↔
      path.text = text := by
    rw [← String.toList_inj, AnnotationPath.text, String.toList_append, String.toList_append,
      List.append_assoc, eq_comm]
    rfl
  rw [hparse, parse?_eq_some_iff, htext]
  constructor
  · intro h
    obtain ⟨hspelled, hundotted, hnamed, hargued⟩ := h
    exact ⟨⟨hnamed, hargued, hundotted⟩, hspelled⟩
  · intro h
    obtain ⟨⟨hnamed, hargued, hundotted⟩, hspelled⟩ := h
    exact ⟨hspelled, hundotted, hnamed, hargued⟩

theorem parse_eq_error_iff {text : String} {e : ConfigError} :
    parse text = .error e ↔ ¬IsText text ∧ e = .malformedPath text := by
  constructor
  · intro h
    refine ⟨fun ⟨path, hpath⟩ => ?_, ?_⟩
    · rw [parse_eq_ok_iff.mpr hpath] at h
      cases h
    · unfold parse at h
      split at h
      · cases h
      · exact (Except.error.inj h).symm
  · intro h
    obtain ⟨hno, rfl⟩ := h
    cases hparse : parse? text with
    | none => rw [parse, hparse]
    | some path =>
      have hok : parse text = .ok path := by rw [parse, hparse]
      exact absurd ⟨path, parse_eq_ok_iff.mp hok⟩ hno

/-- Texts are read one after the other, and all of them if each stands for a path. -/
theorem mapM_parse_eq_ok_iff {texts : List String} {paths : List AnnotationPath} :
    texts.mapM parse = .ok paths ↔ paths.map text = texts ∧ ∀ path ∈ paths, path.IsValid := by
  induction texts generalizing paths with
  | nil =>
    rw [List.mapM_nil, List.map_eq_nil_iff]
    constructor
    · intro h
      obtain rfl := Except.ok.inj h
      exact ⟨rfl, List.forall_mem_nil _⟩
    · intro h
      rw [h.1]
      rfl
  | cons first texts ih =>
    rw [List.mapM_cons]
    constructor
    · intro h
      cases hfirst : parse first with
      | error e => simp [hfirst, bind, Except.bind] at h
      | ok path =>
        cases hrest : texts.mapM parse with
        | error e => simp [hfirst, hrest, bind, Except.bind] at h
        | ok rest =>
          simp only [hfirst, hrest, bind, Except.bind, pure, Except.pure, Except.ok.injEq] at h
          subst h
          obtain ⟨hvalid, htext⟩ := parse_eq_ok_iff.mp hfirst
          obtain ⟨htexts, hvalids⟩ := ih.mp hrest
          rw [List.map_cons, htext, htexts]
          exact ⟨rfl, List.forall_mem_cons.mpr ⟨hvalid, hvalids⟩⟩
    · intro h
      obtain ⟨htexts, hvalids⟩ := h
      obtain ⟨path, rest, rfl, htext, hrest⟩ := List.map_eq_cons_iff.mp htexts
      obtain ⟨hvalid, hvalids⟩ := List.forall_mem_cons.mp hvalids
      rw [parse_eq_ok_iff.mpr ⟨hvalid, htext⟩, ih.mpr ⟨hrest, hvalids⟩]
      rfl

/-- The first text that stands for no path is reported. -/
theorem mapM_parse_eq_error_iff {texts : List String} {e : ConfigError} :
    texts.mapM parse = .error e ↔
      ∃ text, FirstWith (fun text => ¬IsText text) texts text ∧ e = .malformedPath text := by
  induction texts with
  | nil =>
    constructor
    · intro h
      cases h
    · intro h
      obtain ⟨text, ⟨before, after, hnil, -⟩, -⟩ := h
      exact absurd hnil (by simp)
  | cons first texts ih =>
    simp only [firstWith_cons_iff]
    cases hfirst : parse first with
    | error e' =>
      obtain ⟨hno, rfl⟩ := parse_eq_error_iff.mp hfirst
      simp [List.mapM_cons, hfirst, bind, Except.bind, hno, eq_comm]
    | ok path =>
      have hyes : IsText first := ⟨path, parse_eq_ok_iff.mp hfirst⟩
      simp only [hyes, not_true_eq_false, false_and, false_or, not_false_eq_true, true_and, ← ih]
      cases hrest : texts.mapM parse with
      | error e' => simp [List.mapM_cons, hfirst, hrest, bind, Except.bind]
      | ok rest => simp [List.mapM_cons, hfirst, hrest, bind, Except.bind, pure, Except.pure]

end AnnotationPath

/-! ## Settings -/

/-- The texts of a configuration that name arguments of annotations. -/
def Config.pathTexts (c : Config) : List String := c.serialName :: c.discriminators

structure Config.IsAcceptable (c : Config) : Prop where
  placeholder : Naming.placeholder.toList <:+: c.escapeTemplate.toList
  paths : ∀ text ∈ c.pathTexts, AnnotationPath.IsText text

/-- What is reported of settings that are not accepted.  The template comes first, and of the texts
the first one at fault. -/
def Config.Refuses (c : Config) : ConfigError → Prop
  | .missingPlaceholder template =>
    ¬Naming.placeholder.toList <:+: c.escapeTemplate.toList ∧ template = c.escapeTemplate
  | .malformedPath text =>
    Naming.placeholder.toList <:+: c.escapeTemplate.toList ∧
      FirstWith (fun text => ¬AnnotationPath.IsText text) c.pathTexts text

theorem Naming.holdsPlaceholder_iff {template : List Char} :
    holdsPlaceholder template = true ↔ placeholder.toList <:+: template := by
  induction template with
  | nil =>
    rw [List.infix_nil]
    exact iff_of_false (by simp [holdsPlaceholder]) (by decide)
  | cons c cs ih =>
    rw [holdsPlaceholder, Bool.or_eq_true, List.isPrefixOf_iff_prefix, ih, List.infix_cons_iff]

namespace Resolver

/-- What a resolver refers to, in the order of the settings. -/
def paths (r : Resolver) : List AnnotationPath := r.serialName :: r.discriminators

theorem mapM_pathTexts (c : Config) :
    c.pathTexts.mapM AnnotationPath.parse = (ofConfig c).map paths := by
  unfold Config.pathTexts ofConfig
  rw [List.mapM_cons]
  cases AnnotationPath.parse c.serialName with
  | error e => rfl
  | ok serialName =>
    cases c.discriminators.mapM AnnotationPath.parse with
    | error e => rfl
    | ok discriminators => rfl

theorem markers_of_ofConfig {c : Config} {r : Resolver} (h : ofConfig c = .ok r) :
    r.markers = c.markers := by
  unfold ofConfig at h
  cases hs : AnnotationPath.parse c.serialName with
  | error e => simp [hs, bind, Except.bind] at h
  | ok serialName =>
    cases hd : c.discriminators.mapM AnnotationPath.parse with
    | error e => simp [hs, hd, bind, Except.bind] at h
    | ok discriminators =>
      simp only [hs, hd, bind, Except.bind, pure, Except.pure, Except.ok.injEq] at h
      rw [← h]

theorem ofConfig_eq_ok_iff {c : Config} {r : Resolver} :
    ofConfig c = .ok r ↔
      r.markers = c.markers ∧ r.paths.map AnnotationPath.text = c.pathTexts ∧
        ∀ path ∈ r.paths, path.IsValid := by
  rw [← AnnotationPath.mapM_parse_eq_ok_iff, mapM_pathTexts]
  constructor
  · intro h
    exact ⟨markers_of_ofConfig h, by rw [h]; rfl⟩
  · intro h
    obtain ⟨hmarkers, hpaths⟩ := h
    cases hr : ofConfig c with
    | error e =>
      rw [hr] at hpaths
      cases hpaths
    | ok r' =>
      rw [hr] at hpaths
      obtain ⟨hserial, hdiscriminators⟩ := List.cons.inj (Except.ok.inj hpaths)
      have hmarkers' := markers_of_ofConfig hr
      cases r
      cases r'
      simp_all

theorem ofConfig_eq_error_iff {c : Config} {e : ConfigError} :
    ofConfig c = .error e ↔
      ∃ text, FirstWith (fun text => ¬AnnotationPath.IsText text) c.pathTexts text ∧
        e = .malformedPath text := by
  rw [← AnnotationPath.mapM_parse_eq_error_iff, mapM_pathTexts]
  cases ofConfig c with
  | error e' => simp [Except.map]
  | ok r => simp [Except.map]

end Resolver

namespace Generator

theorem new_eq_ok_iff {c : Config} {g : Generator} :
    new c = .ok g ↔
      Naming.placeholder.toList <:+: c.escapeTemplate.toList ∧ g.config = c ∧
        Resolver.ofConfig c = .ok g.resolver := by
  rw [← Naming.holdsPlaceholder_iff]
  constructor
  · intro h
    exact ⟨holdsPlaceholder_of_new h, new_eq_ok h⟩
  · intro h
    obtain ⟨hplaceholder, hconfig, hresolver⟩ := h
    rw [new, if_pos hplaceholder, hresolver, ← hconfig]
    rfl

theorem new_eq_error_iff {c : Config} {e : ConfigError} :
    new c = .error e ↔ c.Refuses e := by
  unfold new
  by_cases hplaceholder : Naming.holdsPlaceholder c.escapeTemplate.toList = true
  · have hheld := Naming.holdsPlaceholder_iff.mp hplaceholder
    rw [if_pos hplaceholder]
    have herror : (Resolver.ofConfig c).map (fun r => (⟨c, r⟩ : Generator)) = .error e ↔
        Resolver.ofConfig c = .error e := by
      cases Resolver.ofConfig c with
      | error e' => simp [Except.map]
      | ok r => simp [Except.map]
    rw [herror, Resolver.ofConfig_eq_error_iff]
    cases e with
    | missingPlaceholder template => simp [Config.Refuses, hheld]
    | malformedPath text => simp [Config.Refuses, hheld]
  · have hmissing := mt Naming.holdsPlaceholder_iff.mpr hplaceholder
    rw [if_neg hplaceholder]
    cases e with
    | missingPlaceholder template => simp [Config.Refuses, hmissing, eq_comm]
    | malformedPath text => simp [Config.Refuses, hmissing]

/-- Settings are accepted exactly if the template holds the placeholder and every text that names an
argument is the text of a path.  The paths of the generator are those of the texts, in their order,
and every path is read from its text.  Of settings that are not accepted the first fault is
reported. -/
theorem settings_accepted_iff (c : Config) :
    ((∃ g, new c = .ok g) ↔ c.IsAcceptable) ∧
      (∀ g, new c = .ok g ↔
        Naming.placeholder.toList <:+: c.escapeTemplate.toList ∧ g.config = c ∧
          g.resolver.markers = c.markers ∧
          g.resolver.paths.map AnnotationPath.text = c.pathTexts ∧
          ∀ path ∈ g.resolver.paths, path.IsValid) ∧
      (∀ path : AnnotationPath, AnnotationPath.parse path.text = .ok path ↔ path.IsValid) ∧
      ∀ e, new c = .error e ↔ c.Refuses e := by
  have hpaths : ∀ g, new c = .ok g ↔
      Naming.placeholder.toList <:+: c.escapeTemplate.toList ∧ g.config = c ∧
        g.resolver.markers = c.markers ∧
        g.resolver.paths.map AnnotationPath.text = c.pathTexts ∧
        ∀ path ∈ g.resolver.paths, path.IsValid := by
    intro g
    rw [new_eq_ok_iff, Resolver.ofConfig_eq_ok_iff]
  refine ⟨⟨fun h => ?_, fun h => ?_⟩, hpaths, fun path => ?_, fun e => new_eq_error_iff⟩
  · obtain ⟨g, hg⟩ := h
    obtain ⟨hplaceholder, -, -, htexts, hvalid⟩ := (hpaths g).mp hg
    refine ⟨hplaceholder, fun text htext => ?_⟩
    rw [← htexts] at htext
    obtain ⟨path, hpath, rfl⟩ := List.mem_map.mp htext
    exact ⟨path, hvalid path hpath, rfl⟩
  · obtain ⟨hplaceholder, htexts⟩ := h
    cases hnew : new c with
    | ok g => exact ⟨g, rfl⟩
    | error e =>
      have hrefuses := new_eq_error_iff.mp hnew
      cases e with
      | missingPlaceholder template => exact absurd hplaceholder hrefuses.1
      | malformedPath text =>
        obtain ⟨x, hx, hno⟩ := firstWith_exists_iff.mp ⟨text, hrefuses.2⟩
        exact absurd (htexts x hx) hno
  · rw [AnnotationPath.parse_eq_ok_iff]
    exact and_iff_left rfl

example : new { Config.default with escapeTemplate := "_", serialName := "Name" } =
    .error (.missingPlaceholder "_") := rfl

example : new { Config.default with discriminators := ["json.Tag.key", "json.", ".key"] } =
    .error (.malformedPath "json.") := rfl

end Generator
end Facsimile
