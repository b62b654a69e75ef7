import Facsimile.Proofs.Sheets

/-!
# When a pass is refused

A pass makes three checks on the declarations that it selects: that no path keyword would become a
raw identifier, that no declaration extends several roots, and that no file name is taken twice.
`Refuses` says what each check reports, the first check that fails being the one that counts, and
`generate_refused_iff` that a pass fails in these cases and with these reports.
-/

namespace Facsimile

/-- `x` is the first element of a list with a property. -/
def FirstWith {α : Type} (p : α → Prop) (l : List α) (x : α) : Prop :=
  ∃ before after, l = before ++ x :: after ∧ p x ∧ ∀ y ∈ before, ¬p y

theorem firstWith_cons_iff {α : Type} {p : α → Prop} {a x : α} {l : List α} :
    FirstWith p (a :: l) x ↔ (p a ∧ x = a) ∨ (¬p a ∧ FirstWith p l x) := by
  constructor
  · intro h
    obtain ⟨before, after, hl, hx, hbefore⟩ := h
    cases before with
    | nil =>
      obtain ⟨rfl, -⟩ := List.cons.inj hl
      exact Or.inl ⟨hx, rfl⟩
    | cons b bs =>
      obtain ⟨rfl, hrest⟩ := List.cons.inj hl
      obtain ⟨hb, hbs⟩ := List.forall_mem_cons.mp hbefore
      exact Or.inr ⟨hb, bs, after, hrest, hx, hbs⟩
  · intro h
    rcases h with ⟨ha, rfl⟩ | ⟨ha, before, after, rfl, hx, hbefore⟩
    · exact ⟨[], l, rfl, ha, List.forall_mem_nil _⟩
    · exact ⟨a :: before, after, rfl, hx, List.forall_mem_cons.mpr ⟨ha, hbefore⟩⟩

theorem find?_eq_some_iff_firstWith {α : Type} {p : α → Bool} {P : α → Prop}
    (h : ∀ a, p a = true ↔ P a) {l : List α} {x : α} :
    l.find? p = some x ↔ FirstWith P l x := by
  have hfalse : ∀ a, (!p a) = true ↔ ¬P a := by
    intro a
    rw [Bool.not_eq_true', ← Bool.not_eq_true, h a]
  rw [List.find?_eq_some_iff_append, h x]
  constructor
  · intro h
    obtain ⟨hx, before, after, hl, hbefore⟩ := h
    exact ⟨before, after, hl, hx, fun y hy => (hfalse y).mp (hbefore y hy)⟩
  · intro h
    obtain ⟨before, after, hl, hx, hbefore⟩ := h
    exact ⟨hx, before, after, hl, fun y hy => (hfalse y).mpr (hbefore y hy)⟩

theorem firstWith_exists_iff {α : Type} {P : α → Prop} {l : List α} :
    (∃ x, FirstWith P l x) ↔ ∃ x ∈ l, P x := by
  classical
  have hfind := fun x => find?_eq_some_iff_firstWith (p := fun a => decide (P a)) (P := P)
    (fun a => decide_eq_true_iff) (l := l) (x := x)
  constructor
  · intro h
    obtain ⟨x, before, after, hl, hx, -⟩ := h
    exact ⟨x, by rw [hl]; simp, hx⟩
  · intro h
    obtain ⟨x, hx, hp⟩ := h
    cases hnone : l.find? fun a => decide (P a) with
    | none => exact absurd hp (by simpa using List.find?_eq_none.mp hnone x hx)
    | some y => exact ⟨y, (hfind y).mp hnone⟩

/-- A source unit of a declaration that is not emitted with a sealed root. -/
def HasUnit (ds : List Declaration) (unit : String) : Prop :=
  ∃ d ∈ ds, ¬NamesVariant ds d ∧ d.sourceUnit = some unit

/-- The names of all roots that a declaration extends, each once and in the order in which the roots
are registered. -/
def ListsParents (ds : List Declaration) (d : Declaration) (parents : List String) : Prop :=
  (∀ name, name ∈ parents ↔ name ∈ d.supertypes ∧ NamesRoot ds name) ∧
    parents.Pairwise (RegisteredBefore ds)

theorem ListsParents.unique {ds : List Declaration} {d : Declaration} {l m : List String}
    (hl : ListsParents ds d l) (hm : ListsParents ds d m) : l = m := by
  have hnodup : ∀ {k : List String}, k.Pairwise (RegisteredBefore ds) → k.Nodup := by
    intro k hk
    refine hk.imp ?_
    intro a b hab heq
    rw [heq] at hab
    exact hab.asymm hab
  have hperm : l.Perm m := by
    refine (List.perm_ext_iff_of_nodup (hnodup hl.2) (hnodup hm.2)).mpr fun name => ?_
    rw [hl.1, hm.1]
  exact hperm.eq_of_pairwise (fun a b _ _ hab hba => absurd hba hab.asymm) hl.2 hm.2

theorem listsParents_parents (ds : List Declaration) (d : Declaration) :
    ListsParents ds d ((Hierarchy.parents (Hierarchy.lastRoots ds) d).map (·.qualifiedName)) :=
  ⟨fun _ => Hierarchy.mem_names_parents, Hierarchy.names_parents_registered ds d⟩

namespace Generator

/-- Some name of the declarations would be a path keyword as a raw identifier. -/
def KeywordClash (g : Generator) (ds : List Declaration) : Prop :=
  g.config.escapeTemplate = Naming.rawTemplate ∧
    ∃ name ∈ ds.flatMap Declaration.convertedNames, name ∈ Naming.pathKeywords

/-- Two units share a file name, or a unit has that of the index. -/
def FileClash (g : Generator) (ds : List Declaration) : Prop :=
  (∃ u v, u ≠ v ∧ HasUnit ds u ∧ HasUnit ds v ∧ Naming.fileName u = Naming.fileName v) ∨
    (g.config.modFile = true ∧ ∃ u, HasUnit ds u ∧ Naming.fileName u = indexFileName)

/-- The file name of `unit` is taken when the units before it have theirs. -/
def TakenBefore (g : Generator) (ds : List Declaration) (owner unit : String) : Prop :=
  (g.config.modFile = true ∧ owner = indexOwner ∧ Naming.fileName unit = indexFileName) ∨
    (HasUnit ds owner ∧ owner < unit ∧ Naming.fileName owner = Naming.fileName unit)

/-- A collision is about the first unit, in ascending order, whose file name is taken. -/
def FirstTaken (g : Generator) (ds : List Declaration) (c : Collision) : Prop :=
  c.fileName = Naming.fileName c.second ∧ HasUnit ds c.second ∧
    g.TakenBefore ds c.first c.second ∧
    ∀ u, HasUnit ds u → u < c.second → ∀ owner, ¬g.TakenBefore ds owner u

/-- A pass over the declarations `ds` fails with an error. -/
def Refuses (g : Generator) (ds : List Declaration) : PassError → Prop
  | .rawPathKeyword keyword =>
    g.config.escapeTemplate = Naming.rawTemplate ∧
      FirstWith (· ∈ Naming.pathKeywords) (ds.flatMap Declaration.convertedNames) keyword
  | .severalParents e =>
    ¬g.KeywordClash ds ∧
      ∃ d, FirstWith (ExtendsSeveral ds) ds d ∧ e.declaration = d.qualifiedName ∧
        ListsParents ds d e.parents
  | .collision c =>
    ¬g.KeywordClash ds ∧ (¬∃ d ∈ ds, ExtendsSeveral ds d) ∧ g.FirstTaken ds c

/-! ## Names -/

theorem rawPathKeyword?_eq_some_iff {g : Generator} {ds : List Declaration} {keyword : String} :
    g.rawPathKeyword? ds = some keyword ↔ g.Refuses ds (.rawPathKeyword keyword) := by
  unfold rawPathKeyword? Naming.isRawTemplate Refuses
  by_cases h : g.config.escapeTemplate = Naming.rawTemplate
  · rw [if_pos (by simpa using h), find?_eq_some_iff_firstWith
      (P := (· ∈ Naming.pathKeywords)) (fun a => List.contains_iff_mem)]
    simp [h]
  · rw [if_neg (by simpa using h)]
    simp [h]

theorem rawPathKeyword?_eq_none_iff_not_clash {g : Generator} {ds : List Declaration} :
    g.rawPathKeyword? ds = none ↔ ¬g.KeywordClash ds := by
  rw [rawPathKeyword?_eq_none_iff]
  unfold KeywordClash
  push Not
  exact Iff.rfl

/-! ## Files -/

theorem mem_planned_units {o : Ordering} {ds : List Declaration} {unit : String} :
    unit ∈ (planned o ds).groups.map (·.unit) ↔ HasUnit ds unit := by
  unfold planned HasUnit
  simp only [mem_units, mem_standalone_iff, and_assoc]

theorem lookup_reservedFiles {modFile : Bool} {name owner : String} :
    (reservedFiles modFile).lookup name = some owner ↔
      modFile = true ∧ owner = indexOwner ∧ name = indexFileName := by
  unfold reservedFiles
  cases modFile with
  | false => simp
  | true =>
    by_cases h : name = indexFileName
    · simp [h, eq_comm]
    · have hne : (name == indexFileName) = false := by simpa using h
      simp [List.lookup_cons, h, hne]

theorem collision?_eq_none_iff_not_clash {g : Generator} {ds : List Declaration} :
    collision? (reservedFiles g.config.modFile)
        ((planned g.config.ordering ds).groups.map (·.unit)) = none ↔ ¬g.FileClash ds := by
  have hnodup : ((planned g.config.ordering ds).groups.map (·.unit)).Nodup := units_nodup _ _
  rw [collision?_eq_none_iff]
  constructor
  · intro h h₂
    obtain ⟨hfree, hnames⟩ := h
    rcases h₂ with ⟨u, v, huv, hu, hv, hname⟩ | ⟨hmod, u, hu, hname⟩
    · exact huv (List.inj_on_of_nodup_map hnames (mem_planned_units.mpr hu)
        (mem_planned_units.mpr hv) hname)
    · have hnone := hfree u (mem_planned_units.mpr hu)
      rw [lookup_reservedFiles.mpr ⟨hmod, rfl, hname⟩] at hnone
      cases hnone
  · intro hno
    refine ⟨fun u hu => ?_, hnodup.map_on fun u hu v hv hname => ?_⟩
    · cases hlook : (reservedFiles g.config.modFile).lookup (Naming.fileName u) with
      | none => rfl
      | some owner =>
        obtain ⟨hmod, -, hname⟩ := lookup_reservedFiles.mp hlook
        exact absurd (Or.inr ⟨hmod, u, mem_planned_units.mp hu, hname⟩) hno
    · by_contra huv
      exact hno (Or.inl ⟨u, v, huv, mem_planned_units.mp hu, mem_planned_units.mp hv, hname⟩)

theorem firstTaken_of_collision? {g : Generator} {ds : List Declaration} {c : Collision}
    (h : collision? (reservedFiles g.config.modFile)
      ((planned g.config.ordering ds).groups.map (·.unit)) = some c) : g.FirstTaken ds c := by
  have hasc : ((planned g.config.ordering ds).groups.map (·.unit)).Pairwise (· < ·) :=
    units_ascending _ _
  obtain ⟨before, after, hunits, hfree, hname, howns⟩ := collision?_eq_some h
  rw [hunits] at hasc
  obtain ⟨-, htail, hcross⟩ := List.pairwise_append.mp hasc
  have hmem : ∀ {u}, u ∈ before ++ c.second :: after ↔ HasUnit ds u := by
    intro u
    rw [← hunits, mem_planned_units]
  -- the units below the one reported are those that the check has passed
  have hbelow : ∀ {u}, HasUnit ds u → u < c.second → u ∈ before := by
    intro u hu hlt
    rcases List.mem_append.mp (hmem.mpr hu) with hb | hb
    · exact hb
    · rcases List.mem_cons.mp hb with rfl | hb
      · exact absurd hlt (String.lt_irrefl _)
      · have hgt := (List.pairwise_cons.mp htail).1 u hb
        exact absurd (String.lt_trans hlt hgt) (String.lt_irrefl _)
  obtain ⟨hreserved, hnames⟩ := collision?_eq_none_iff.mp hfree
  refine ⟨hname, hmem.mp (List.mem_append_right _ List.mem_cons_self), ?_, ?_⟩
  · rcases howns with hlook | ⟨hfirst, hfile⟩
    · obtain ⟨hmod, howner, hindex⟩ := lookup_reservedFiles.mp hlook
      exact Or.inl ⟨hmod, howner, by rw [← hname, hindex]⟩
    · exact Or.inr ⟨hmem.mp (List.mem_append_left _ hfirst),
        hcross _ hfirst _ List.mem_cons_self, by rw [hfile, hname]⟩
  · intro u hu hlt owner h
    rcases h with ⟨hmod, -, hindex⟩ | ⟨hv, hvu, hfile⟩
    · have hnone := hreserved u (hbelow hu hlt)
      rw [lookup_reservedFiles.mpr ⟨hmod, rfl, hindex⟩] at hnone
      cases hnone
    · have hsame := List.inj_on_of_nodup_map hnames (hbelow hv (String.lt_trans hvu hlt))
        (hbelow hu hlt) hfile
      rw [hsame] at hvu
      exact String.lt_irrefl _ hvu

theorem eq_of_not_lt {a b : String} (hab : ¬a < b) (hba : ¬b < a) : a = b :=
  String.le_antisymm (String.not_lt.mp hba) (String.not_lt.mp hab)

/-- Before the first unit that meets a taken name, each name has one owner. -/
theorem owner_unique {g : Generator} {ds : List Declaration} {unit a b : String}
    (hfirst : ∀ u, HasUnit ds u → u < unit → ∀ owner, ¬g.TakenBefore ds owner u)
    (ha : g.TakenBefore ds a unit) (hb : g.TakenBefore ds b unit) : a = b := by
  have hmixed : ∀ {c}, g.config.modFile = true → Naming.fileName unit = indexFileName →
      HasUnit ds c → c < unit → Naming.fileName c ≠ Naming.fileName unit := by
    intro c hmod hindex hc hlt hfile
    exact hfirst c hc hlt indexOwner (Or.inl ⟨hmod, rfl, hfile.trans hindex⟩)
  rcases ha with ⟨hmod, rfl, hindex⟩ | ⟨hau, halt, hafile⟩
  · rcases hb with ⟨-, rfl, -⟩ | ⟨hbu, hblt, hbfile⟩
    · rfl
    · exact absurd hbfile (hmixed hmod hindex hbu hblt)
  · rcases hb with ⟨hmod, rfl, hindex⟩ | ⟨hbu, hblt, hbfile⟩
    · exact absurd hafile (hmixed hmod hindex hau halt)
    · refine eq_of_not_lt ?_ ?_
      · intro hab
        exact hfirst b hbu hblt a (Or.inr ⟨hau, hab, hafile.trans hbfile.symm⟩)
      · intro hba
        exact hfirst a hau halt b (Or.inr ⟨hbu, hba, hbfile.trans hafile.symm⟩)

theorem FirstTaken.unique {g : Generator} {ds : List Declaration} {b c : Collision}
    (hb : g.FirstTaken ds b) (hc : g.FirstTaken ds c) : b = c := by
  obtain ⟨bfile, bfirst, bsecond⟩ := b
  obtain ⟨cfile, cfirst, csecond⟩ := c
  obtain ⟨hbname, hbunit, hbtaken, hbfirst⟩ := hb
  obtain ⟨hcname, hcunit, hctaken, hcfirst⟩ := hc
  have hsecond : bsecond = csecond := by
    refine eq_of_not_lt ?_ ?_
    · intro hlt
      exact hcfirst _ hbunit hlt _ hbtaken
    · intro hlt
      exact hbfirst _ hcunit hlt _ hctaken
  subst hsecond
  have howner : bfirst = cfirst := owner_unique hbfirst hbtaken hctaken
  simp only at hbname hcname
  rw [howner, hbname, hcname]

theorem collision?_eq_some_iff {g : Generator} {ds : List Declaration} {c : Collision} :
    collision? (reservedFiles g.config.modFile)
        ((planned g.config.ordering ds).groups.map (·.unit)) = some c ↔ g.FirstTaken ds c := by
  refine ⟨firstTaken_of_collision?, fun hc => ?_⟩
  cases h : collision? (reservedFiles g.config.modFile)
      ((planned g.config.ordering ds).groups.map (·.unit)) with
  | some b => rw [(firstTaken_of_collision? h).unique hc]
  | none =>
    refine absurd ?_ (collision?_eq_none_iff_not_clash.mp h)
    obtain ⟨-, hunit, ⟨hmod, -, hindex⟩ | ⟨howner, hlt, hfile⟩, -⟩ := hc
    · exact Or.inr ⟨hmod, c.second, hunit, hindex⟩
    · refine Or.inl ⟨c.first, c.second, ?_, howner, hunit, hfile⟩
      intro heq
      rw [heq] at hlt
      exact String.lt_irrefl _ hlt

/-! ## The checks together -/

theorem fileClash_iff {g : Generator} {ds : List Declaration} :
    g.FileClash ds ↔ ∃ c, g.FirstTaken ds c := by
  rw [← not_iff_not, ← collision?_eq_none_iff_not_clash]
  simp only [← collision?_eq_some_iff]
  cases collision? (reservedFiles g.config.modFile)
    ((planned g.config.ordering ds).groups.map (·.unit)) <;> simp

theorem find?_several_eq_some_iff {ds : List Declaration} {d : Declaration} :
    ds.find? (Hierarchy.hasSeveralParents (Hierarchy.lastRoots ds)) = some d ↔
      FirstWith (ExtendsSeveral ds) ds d :=
  find?_eq_some_iff_firstWith fun _ => Hierarchy.hasSeveralParents_iff

theorem find?_several_eq_none_iff {ds : List Declaration} :
    ds.find? (Hierarchy.hasSeveralParents (Hierarchy.lastRoots ds)) = none ↔
      ¬∃ d ∈ ds, ExtendsSeveral ds d := by
  rw [← firstWith_exists_iff]
  simp only [← find?_several_eq_some_iff]
  cases ds.find? (Hierarchy.hasSeveralParents (Hierarchy.lastRoots ds)) <;> simp

theorem layout_eq_error_iff {g : Generator} {ds : List Declaration} {e : PassError} :
    g.layout ds = .error e ↔ g.Refuses ds e := by
  rw [layout_eq]
  cases hname : g.rawPathKeyword? ds with
  | some keyword =>
    have hclash : ¬¬g.KeywordClash ds := by
      rw [← rawPathKeyword?_eq_none_iff_not_clash, hname]
      simp
    cases e with
    | rawPathKeyword k => simp [← rawPathKeyword?_eq_some_iff, hname]
    | severalParents e => simp [Refuses, not_not.mp hclash]
    | collision c => simp [Refuses, not_not.mp hclash]
  | none =>
    have hclash : ¬g.KeywordClash ds := rawPathKeyword?_eq_none_iff_not_clash.mp hname
    have hkeyword : ∀ k, ¬g.Refuses ds (.rawPathKeyword k) := by
      intro k hk
      rw [rawPathKeyword?_eq_some_iff.mpr hk] at hname
      cases hname
    cases hfind : ds.find? (Hierarchy.hasSeveralParents (Hierarchy.lastRoots ds)) with
    | some d =>
      have hfirst := find?_several_eq_some_iff.mp hfind
      have hsome : ∃ d ∈ ds, ExtendsSeveral ds d := firstWith_exists_iff.mp ⟨d, hfirst⟩
      cases e with
      | rawPathKeyword k => simp [hkeyword]
      | collision c => simp [Refuses, hsome]
      | severalParents e =>
        simp only [Except.error.injEq, PassError.severalParents.injEq]
        constructor
        · intro h
          subst h
          exact ⟨hclash, d, hfirst, rfl, listsParents_parents ds d⟩
        · intro h
          obtain ⟨-, d', hfirst', hdecl, hparents⟩ := h
          rw [← find?_several_eq_some_iff, hfind] at hfirst'
          obtain rfl := Option.some.inj hfirst'
          obtain ⟨declaration, parents⟩ := e
          simp only at hdecl hparents
          rw [hdecl, hparents.unique (listsParents_parents ds d)]
    | none =>
      have hno := find?_several_eq_none_iff.mp hfind
      have hseveral : ∀ p, ¬g.Refuses ds (.severalParents p) := by
        intro p h
        obtain ⟨-, d, hd, -⟩ := h
        exact hno (firstWith_exists_iff.mp ⟨d, hd⟩)
      have hcollision : ∀ c, g.Refuses ds (.collision c) ↔
          collision? (reservedFiles g.config.modFile)
            ((planned g.config.ordering ds).groups.map (·.unit)) = some c := by
        intro c
        rw [collision?_eq_some_iff]
        exact ⟨fun h => h.2.2, fun h => ⟨hclash, hno, h⟩⟩
      cases hfile : collision? (reservedFiles g.config.modFile)
          ((planned g.config.ordering ds).groups.map (·.unit)) with
      | some b =>
        cases e with
        | rawPathKeyword k => simp [hkeyword]
        | severalParents p => simp [hseveral]
        | collision c => simp [hcollision, hfile]
      | none =>
        cases e with
        | rawPathKeyword k => simp [hkeyword]
        | severalParents p => simp [hseveral]
        | collision c => simp [hcollision, hfile]

theorem generate_eq_error_iff {g : Generator} {model : List Declaration} {e : PassError} :
    g.generate model = .error e ↔ g.Refuses (g.selected model) e := by
  rw [← layout_eq_error_iff]
  unfold generate
  cases g.layout (g.selected model) with
  | error f => simp [Except.map]
  | ok l => simp [Except.map]

/-- A pass fails exactly when a name would be a raw path keyword; else when a declaration extends
several roots; else when a file name is taken twice.  What it reports is the first such name, the
first such declaration with all its parents, or the first such unit with the owner of its name. -/
theorem generate_refused_iff (g : Generator) (model : List Declaration) :
    let ds := g.selected model
    (∀ e, g.generate model = .error e ↔ g.Refuses ds e) ∧
      ((∃ k, g.generate model = .error (.rawPathKeyword k)) ↔ g.KeywordClash ds) ∧
      ((∃ e, g.generate model = .error (.severalParents e)) ↔
        ¬g.KeywordClash ds ∧ ∃ d ∈ ds, ExtendsSeveral ds d) ∧
      ((∃ c, g.generate model = .error (.collision c)) ↔
        ¬g.KeywordClash ds ∧ (¬∃ d ∈ ds, ExtendsSeveral ds d) ∧ g.FileClash ds) ∧
      ((∃ files, g.generate model = .ok files) ↔
        ¬g.KeywordClash ds ∧ (¬∃ d ∈ ds, ExtendsSeveral ds d) ∧ ¬g.FileClash ds) := by
  intro ds
  refine ⟨fun e => generate_eq_error_iff, ?_, ?_, ?_, ?_⟩
  · simp only [generate_eq_error_iff, Refuses, exists_and_left, firstWith_exists_iff]
    rfl
  · simp only [generate_eq_error_iff, Refuses, exists_and_left]
    refine and_congr_right fun _ => ?_
    rw [← firstWith_exists_iff]
    constructor
    · intro h
      obtain ⟨e, d, hd, -⟩ := h
      exact ⟨d, hd⟩
    · intro h
      obtain ⟨d, hd⟩ := h
      exact ⟨⟨d.qualifiedName, _⟩, d, hd, rfl, listsParents_parents ds d⟩
  · simp only [generate_eq_error_iff, Refuses, exists_and_left, ← fileClash_iff]
    rfl
  · rw [← rawPathKeyword?_eq_none_iff_not_clash, ← collision?_eq_none_iff_not_clash]
    unfold generate
    constructor
    · intro h
      obtain ⟨files, hfiles⟩ := h
      cases hl : g.layout ds with
      | error e => simp [ds, hl, Except.map] at hfiles
      | ok l =>
        obtain ⟨hname, hseveral, hfree, -⟩ := layout_eq_ok_iff.mp hl
        exact ⟨hname, fun ⟨d, hd, h⟩ => hseveral d hd h, hfree⟩
    · intro h
      obtain ⟨hname, hseveral, hfree⟩ := h
      have hl : g.layout ds = .ok (planned g.config.ordering ds) :=
        layout_eq_ok_iff.mpr ⟨hname, fun d hd h => hseveral ⟨d, hd, h⟩, hfree, rfl⟩
      exact ⟨g.files (planned g.config.ordering ds), by rw [hl]; rfl⟩

end Generator
end Facsimile
