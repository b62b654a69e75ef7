import Facsimile.Proofs.RawIdentifiers
import Facsimile.Proofs.Refusal
import Facsimile.Proofs.WireNames

/-!
# Keywords that are never written

With the raw template a pass is refused for a path keyword among the names of the declarations that
it selects.  It looks at them before it knows which are written, and at the fields and the entries
of each, whatever its kind.  `Written` says which declarations are written and `writtenNames` with
which names, and `raw_rejection_iff` that the keyword of a refused pass would have been written
exactly if it is one of these.
-/

namespace Facsimile

/-- The names that a declaration of its kind is written with. -/
def Declaration.writtenNames (d : Declaration) : List String :=
  Naming.typeName d.simpleName ::
    match d.kind with
    | .record => d.fields.map fun f => Naming.fieldName f.name
    | .enumeration => d.entries.map fun n => Naming.variantName n.name
    | .sealedRoot => []

/-- The declarations that have a place in a file.  A root of a name has one for the last root of
that name, unless a variant goes by the name too. -/
inductive Written (ds : List Declaration) : Declaration → Prop
  | alone {d : Declaration} : d ∈ ds → d.kind ≠ .sealedRoot → ¬NamesVariant ds d →
    d.sourceUnit ≠ none → Written ds d
  | root {r s : Declaration} : IsLastRoot ds r → s ∈ ds → s.kind = .sealedRoot →
    s.qualifiedName = r.qualifiedName → ¬NamesVariant ds s → s.sourceUnit ≠ none →
    Hierarchy.childrenOf r.qualifiedName ds ≠ [] → Written ds r
  | child {c s : Declaration} : c ∈ ds → c.kind = .record → s ∈ ds → s.kind = .sealedRoot →
    s.qualifiedName ∈ c.supertypes → ¬NamesVariant ds s → s.sourceUnit ≠ none → Written ds c

namespace Generator

open Hierarchy in
/-- What a root that stands on its own gives to its file, where names may repeat. -/
theorem origins_namesake {ds : List Declaration} {s : Declaration} (hs : s ∈ ds)
    (hk : s.kind = .sealedRoot) :
    ∃ r, IsLastRoot ds r ∧ r.qualifiedName = s.qualifiedName ∧
      (Piece.ofDeclaration (ofRoots ds ds) s).origins =
        if (childrenOf s.qualifiedName ds).isEmpty then []
        else .union ⟨r, childrenOf s.qualifiedName ds⟩ ::
          (childrenOf s.qualifiedName ds).map .record := by
  obtain ⟨r, hr, hname, hget⟩ := get?_ofRoots (NamesRoot.of_mem hs hk)
  refine ⟨r, hr, hname, ?_⟩
  unfold Piece.ofDeclaration
  rw [hk]
  simp only [hget]
  split
  · rfl
  · rename_i hne
    simp [Piece.origins, hne]

variable {o : Ordering} {ds : List Declaration}

theorem mem_convertedNames_record {d : Declaration} (hk : d.kind = .record) {name : String} :
    name ∈ (Origin.record d).convertedNames ↔ name ∈ d.writtenNames := by
  unfold Origin.convertedNames Declaration.writtenNames
  rw [hk]
  rfl

theorem mem_convertedNames_enumeration {d : Declaration} (hk : d.kind = .enumeration)
    {name : String} : name ∈ (Origin.enumeration d).convertedNames ↔ name ∈ d.writtenNames := by
  unfold Origin.convertedNames Declaration.writtenNames
  rw [hk]
  rfl

/-- The names in a block are those of declarations that are written. -/
theorem written_of_placed {unit : String} {b : Origin}
    (hb : (unit, b) ∈ placed (planned o ds).sheets) {name : String}
    (hname : name ∈ b.convertedNames) : ∃ d, Written ds d ∧ name ∈ d.writtenNames := by
  obtain ⟨d, hstand, hunit, hb⟩ := mem_placed_planned.mp hb
  obtain ⟨hd, halone⟩ := mem_standalone_iff.mp hstand
  have hplaced : d.sourceUnit ≠ none := by simp [hunit]
  cases hk : d.kind with
  | record =>
    rw [origins_record hk, List.mem_singleton] at hb
    subst hb
    exact ⟨d, .alone hd (by simp [hk]) halone hplaced, (mem_convertedNames_record hk).mp hname⟩
  | enumeration =>
    rw [origins_enumeration hk, List.mem_singleton] at hb
    subst hb
    exact ⟨d, .alone hd (by simp [hk]) halone hplaced,
      (mem_convertedNames_enumeration hk).mp hname⟩
  | sealedRoot =>
    obtain ⟨r, hr, hrname, horigins⟩ := origins_namesake hd hk
    have hchild : ∀ c ∈ Hierarchy.childrenOf d.qualifiedName ds,
        c.kind = .record ∧ Written ds c := by
      intro c hc
      obtain ⟨hmem, hck, hsup⟩ := Hierarchy.mem_childrenOf.mp hc
      exact ⟨hck, .child hmem hck hd hk hsup halone hplaced⟩
    rw [horigins] at hb
    split at hb
    · cases hb
    · rename_i hne
      rcases List.mem_cons.mp hb with rfl | hb
      · rcases List.mem_cons.mp hname with rfl | hname
        · refine ⟨r, .root hr hd hk hrname.symm halone hplaced ?_, List.mem_cons_self⟩
          rw [hrname]
          simpa using hne
        · obtain ⟨c, hc, rfl⟩ := List.mem_map.mp hname
          exact ⟨c, (hchild c hc).2, List.mem_cons_self⟩
      · obtain ⟨c, hc, rfl⟩ := List.mem_map.mp hb
        exact ⟨c, (hchild c hc).2, (mem_convertedNames_record (hchild c hc).1).mp hname⟩

/-- A declaration that is written has a block with its names. -/
theorem placed_of_written {d : Declaration} (hd : Written ds d) {name : String}
    (hname : name ∈ d.writtenNames) :
    ∃ unit b, (unit, b) ∈ placed (planned o ds).sheets ∧ name ∈ b.convertedNames := by
  cases hd with
  | alone hmem hk halone hplaced =>
    have hstand := mem_standalone_iff.mpr ⟨hmem, halone⟩
    obtain ⟨unit, hunit⟩ := Option.ne_none_iff_exists'.mp hplaced
    cases hkind : d.kind with
    | record =>
      refine ⟨unit, .record d, mem_placed_planned.mpr ⟨d, hstand, hunit, ?_⟩,
        (mem_convertedNames_record hkind).mpr hname⟩
      rw [origins_record hkind]
      exact List.mem_singleton_self _
    | enumeration =>
      refine ⟨unit, .enumeration d, mem_placed_planned.mpr ⟨d, hstand, hunit, ?_⟩,
        (mem_convertedNames_enumeration hkind).mpr hname⟩
      rw [origins_enumeration hkind]
      exact List.mem_singleton_self _
    | sealedRoot => exact absurd hkind hk
  | root hlast hs hk hsname halone hplaced hne =>
    have hstand := mem_standalone_iff.mpr ⟨hs, halone⟩
    obtain ⟨unit, hunit⟩ := Option.ne_none_iff_exists'.mp hplaced
    obtain ⟨r, hr, hrname, horigins⟩ := origins_namesake hs hk
    obtain rfl := hr.unique hlast (hrname.trans hsname)
    rw [← hrname, if_neg (by simpa using hne)] at horigins
    refine ⟨unit, .union ⟨r, Hierarchy.childrenOf r.qualifiedName ds⟩,
      mem_placed_planned.mpr ⟨_, hstand, hunit, ?_⟩, ?_⟩
    · rw [horigins]
      exact List.mem_cons_self
    · rw [Declaration.writtenNames, hr.kind, List.mem_singleton] at hname
      rw [hname]
      exact List.mem_cons_self
  | child hmem hk hs hsk hsup halone hplaced =>
    have hstand := mem_standalone_iff.mpr ⟨hs, halone⟩
    obtain ⟨unit, hunit⟩ := Option.ne_none_iff_exists'.mp hplaced
    obtain ⟨r, -, -, horigins⟩ := origins_namesake hs hsk
    have hc := Hierarchy.mem_childrenOf.mpr ⟨hmem, hk, hsup⟩
    rw [if_neg (by simpa using List.ne_nil_of_mem hc)] at horigins
    refine ⟨unit, .record d, mem_placed_planned.mpr ⟨_, hstand, hunit, ?_⟩,
      (mem_convertedNames_record hk).mpr hname⟩
    rw [horigins]
    exact List.mem_cons_of_mem _ (List.mem_map.mpr ⟨d, hc, rfl⟩)

/-- The names in the files of a pass are those of the declarations that are written. -/
theorem name_written_iff {name : String} :
    (∃ s ∈ (planned o ds).sheets, ∃ b ∈ s.origins, name ∈ b.convertedNames) ↔
      ∃ d, Written ds d ∧ name ∈ d.writtenNames := by
  constructor
  · intro h
    obtain ⟨s, hs, b, hb, hname⟩ := h
    have hplaced : (s.unit, b) ∈ placed (planned o ds).sheets :=
      List.mem_flatMap.mpr ⟨s, hs, List.mem_map.mpr ⟨b, hb, rfl⟩⟩
    exact written_of_placed hplaced hname
  · intro h
    obtain ⟨d, hd, hname⟩ := h
    obtain ⟨unit, b, hplaced, hname⟩ := placed_of_written hd hname
    obtain ⟨s, hs, hb⟩ := List.mem_flatMap.mp hplaced
    obtain ⟨b, hb, heq⟩ := List.mem_map.mp hb
    cases heq
    exact ⟨s, hs, b, hb, hname⟩

/-! ## Refused keywords -/

/-- The template that appends an underscore. -/
def suffixTemplate : String := "\x7bfield\x7d_"

theorem escapeReserved_suffixTemplate {name : String} (h : Naming.isReserved name = true) :
    Naming.escapeReserved suffixTemplate name = name ++ "_" := by
  have hfill : Naming.substitute name.toList suffixTemplate.toList = name.toList ++ ['_'] := rfl
  rw [Naming.escapeReserved, if_pos h, Naming.fillTemplate, hfill, String.ofList_append,
    String.ofList_toList]

/-- A pass is refused for the first path keyword among the names of the declarations that it
selects, and with the raw template only.  Where the same settings with a suffix succeed, that
keyword is written if and only if it is a name that some declaration is written with. -/
theorem raw_rejection_iff {c : Config} {g g' : Generator} (hg : new c = .ok g)
    (hg' : new { c with escapeTemplate := suffixTemplate } = .ok g') {model : List Declaration}
    {files : List File} {keyword : String} (hfiles : g'.generate model = .ok files)
    (hrefused : g.generate model = .error (.rawPathKeyword keyword)) :
    c.escapeTemplate = Naming.rawTemplate ∧
      FirstWith (· ∈ Naming.pathKeywords)
        ((g.selected model).flatMap Declaration.convertedNames) keyword ∧
      Naming.escapeReserved suffixTemplate keyword = keyword ++ "_" ∧
      ∃ ss, g'.sheets model = .ok ss ∧
        files = withIndex c.modFile (ss.map (Sheet.file g'.emitter)) ∧
        (∀ s ∈ ss, ∀ o ∈ s.origins, (o.block g'.emitter).idents =
          o.convertedNames.map (Naming.escapeReserved suffixTemplate)) ∧
        ((∃ s ∈ ss, ∃ o ∈ s.origins, keyword ∈ o.convertedNames) ↔
          ∃ d, Written (g.selected model) d ∧ keyword ∈ d.writtenNames) := by
  have hc := (new_eq_ok hg).1
  have hc' := (new_eq_ok hg').1
  have hselected : g'.selected model = g.selected model :=
    selected_congr (resolver_eq_of_new hg hg' rfl) (by rw [hc, hc']) (by rw [hc, hc']) model
  obtain ⟨hraw, hfirst⟩ := generate_eq_error_iff.mp hrefused
  have hkeyword : keyword ∈ Naming.pathKeywords := by
    obtain ⟨before, after, -, hmem, -⟩ := hfirst
    exact hmem
  obtain ⟨ss, hss, hwritten⟩ := generate_eq_ok_iff.mp hfiles
  rw [hc'] at hwritten
  rw [hc] at hraw
  refine ⟨hraw, hfirst,
    escapeReserved_suffixTemplate (Naming.pathKeywords_reserved keyword hkeyword), ss, hss,
    hwritten, fun s _ o _ => ?_, ?_⟩
  · rw [Origin.idents_block]
    show _ = o.convertedNames.map (Naming.escapeReserved suffixTemplate)
    have htemplate : g'.emitter.template = suffixTemplate := by
      unfold emitter
      rw [hc']
    rw [htemplate]
  · obtain ⟨-, rfl⟩ := sheets_eq_ok_iff.mp hss
    rw [name_written_iff, hselected]

theorem new_rawStandard :
    new { Config.default with escapeTemplate := Naming.rawTemplate } = .ok rawStandard := rfl

theorem selfChild_written :
    rawStandard.generate [selfRoot, selfChild] = .error (.rawPathKeyword "Self") ∧
      ∃ ss, standard.sheets [selfRoot, selfChild] = .ok ss ∧
        ∃ s ∈ ss, ∃ o ∈ s.origins, "Self" ∈ o.convertedNames := by
  have hrefused : rawStandard.generate [selfRoot, selfChild] = .error (.rawPathKeyword "Self") :=
    rfl
  obtain ⟨files, hfiles⟩ : ∃ files, standard.generate [selfRoot, selfChild] = .ok files := ⟨_, rfl⟩
  obtain ⟨-, -, -, ss, hss, -, -, hiff⟩ :=
    raw_rejection_iff new_rawStandard new_default hfiles hrefused
  have hwritten : Written [selfRoot, selfChild] selfChild := by
    refine .child (s := selfRoot) (by simp) rfl (by simp) rfl List.mem_cons_self ?_ (by decide)
    rw [← Hierarchy.isVariant_iff]
    decide +kernel
  exact ⟨hrefused, ss, hss, hiff.mpr ⟨selfChild, hwritten, by decide +kernel⟩⟩

/-- A record that has a unit, and one that has none and so no place. -/
def placedNode : Declaration := marked ((Declaration.record "m.Node" []).inUnit "Node.kt")

def unplacedSelf : Declaration := marked (Declaration.record "m.Self" [])

/-- The pass is refused for the name of the record that has no place. -/
theorem unplacedSelf_unwritten :
    new { Config.default with escapeTemplate := Naming.rawTemplate } = .ok rawStandard ∧
      new { Config.default with escapeTemplate := suffixTemplate } = .ok standard ∧
      rawStandard.generate [placedNode, unplacedSelf] = .error (.rawPathKeyword "Self") ∧
      ∃ files ss, standard.generate [placedNode, unplacedSelf] = .ok files ∧
        standard.sheets [placedNode, unplacedSelf] = .ok ss ∧
        files = ss.map (Sheet.file standard.emitter) ∧ files.map (·.name) = ["node.rs"] ∧
        ∀ s ∈ ss, ∀ o ∈ s.origins, "Self" ∉ o.convertedNames ∧
          "Self_" ∉ (o.block standard.emitter).idents := by
  obtain ⟨ss, hss, hnames⟩ : ∃ ss, standard.sheets [placedNode, unplacedSelf] = .ok ss ∧
      ss = [⟨"Node.kt", [.record placedNode]⟩] := ⟨_, rfl, rfl⟩
  refine ⟨new_rawStandard, new_default, rfl, _, ss, generate_eq_ok_iff.mpr ⟨ss, hss, rfl⟩, hss, rfl,
    ?_, ?_⟩
  · rw [hnames]
    decide +kernel
  · rw [hnames]
    decide +kernel

end Generator
end Facsimile
