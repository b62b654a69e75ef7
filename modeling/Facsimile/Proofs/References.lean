import Facsimile.Proofs.Placement

/-!
# References to types

A type is defined under its escaped name and referred to by its plain one.  A reference therefore
means its definition exactly if the escape keeps the name, which it does for every name that is not
reserved and, whatever the name, with the bare placeholder as template.
-/

namespace Facsimile

/-! ## The escape that changes nothing -/

namespace Naming

theorem holdsPlaceholder_tail {c : Char} {rest : List Char}
    (hno : ∀ more, c = '{' → rest = 'f' :: 'i' :: 'e' :: 'l' :: 'd' :: '}' :: more → False)
    (h : holdsPlaceholder (c :: rest) = true) : holdsPlaceholder rest = true := by
  have hor : placeholder.toList.isPrefixOf (c :: rest) = true ∨ holdsPlaceholder rest = true := by
    rw [← Bool.or_eq_true]
    exact h
  rcases hor with hstart | htail
  · obtain ⟨more, hmore⟩ := List.isPrefixOf_iff_prefix.mp hstart
    have hcons : '{' :: ('f' :: 'i' :: 'e' :: 'l' :: 'd' :: '}' :: more) = c :: rest := hmore
    obtain ⟨hc, hrest⟩ := List.cons.inj hcons
    exact absurd hrest.symm (hno more hc.symm)
  · exact htail

theorem substitute_ne_nil {name template : List Char} (hn : name ≠ []) (ht : template ≠ []) :
    substitute name template ≠ [] := by
  fun_cases substitute name template with
  | case1 rest => simp [hn]
  | case2 c rest hno => simp
  | case3 => exact absurd rfl ht

/-- A template with a placeholder leaves room for all of the name. -/
theorem length_le_length_substitute (name : List Char) {template : List Char}
    (h : holdsPlaceholder template = true) : name.length ≤ (substitute name template).length := by
  fun_induction substitute name template with
  | case1 rest ih =>
    rw [List.length_append]
    exact Nat.le_add_right _ _
  | case2 c rest hno ih =>
    have hrest := ih (holdsPlaceholder_tail hno h)
    rw [List.length_cons]
    omega
  | case3 => cases h

theorem substitute_eq_self_iff {name template : List Char} (h : holdsPlaceholder template = true)
    (hn : name ≠ []) : substitute name template = name ↔ template = placeholder.toList := by
  constructor
  · intro heq
    fun_cases substitute name template with
    | case1 rest =>
      have hnil : substitute name rest = [] := by
        simpa [substitute] using heq
      have hrest : rest = [] := by
        by_contra hne
        exact substitute_ne_nil hn hne hnil
      rw [hrest]
      rfl
    | case2 c rest hno =>
      -- A character in front of the placeholder makes the result longer than the name.
      have hlen := length_le_length_substitute name (holdsPlaceholder_tail hno h)
      have hcons : substitute name (c :: rest) = c :: substitute name rest := by
        rw [substitute]
        exact hno
      rw [hcons] at heq
      have hlong := congrArg List.length heq
      rw [List.length_cons] at hlong
      omega
    | case3 => cases h
  · intro heq
    subst heq
    show name ++ substitute name [] = name
    exact List.append_nil name

theorem fillTemplate_eq_self_iff {template name : String}
    (h : holdsPlaceholder template.toList = true) (hn : name ≠ "") :
    fillTemplate template name = name ↔ template = placeholder := by
  have hne : name.toList ≠ [] := by
    intro hnil
    exact hn (String.toList_eq_nil_iff.mp hnil)
  have hfill : (fillTemplate template name).toList = substitute name.toList template.toList :=
    String.toList_ofList
  have htemplate : template = placeholder ↔ template.toList = placeholder.toList :=
    String.toList_inj.symm
  rw [← String.toList_inj, hfill, htemplate]
  exact substitute_eq_self_iff h hne

theorem ne_empty_of_reserved {name : String} (h : isReserved name = true) : name ≠ "" := by
  intro hempty
  rw [hempty] at h
  exact absurd h (by decide)

/-- The escape keeps a name that is not reserved, and a reserved one with the bare placeholder
alone. -/
theorem escapeReserved_eq_self_iff {template name : String}
    (h : holdsPlaceholder template.toList = true) :
    escapeReserved template name = name ↔ (isReserved name = true → template = placeholder) := by
  by_cases hr : isReserved name = true
  · have hfill : escapeReserved template name = fillTemplate template name := if_pos hr
    rw [hfill, fillTemplate_eq_self_iff h (ne_empty_of_reserved hr)]
    exact ⟨fun heq _ => heq, fun heq => heq hr⟩
  · have hkeep : escapeReserved template name = name :=
      escapeReserved_of_not_reserved (Bool.eq_false_iff.mpr hr)
    exact iff_of_true hkeep fun hr' => absurd hr' hr

end Naming

/-! ## Types with a hole -/

/-- A type in which one part, at some depth, is left open. -/
inductive TypeContext where
  | hole
  | list (element : TypeContext)
  | set (element : TypeContext)
  | inKey (inner : TypeContext) (value : TypeRef)
  | inValue (key : TypeRef) (inner : TypeContext)

namespace TypeContext

def fill : TypeContext → TypeRef → TypeRef
  | .hole, t => t
  | .list element, t => .list (element.fill t)
  | .set element, t => .set (element.fill t)
  | .inKey inner value, t => .map (inner.fill t) value
  | .inValue key inner, t => .map key (inner.fill t)

def opening : TypeContext → String
  | .hole => ""
  | .list element => "Vec<" ++ element.opening
  | .set element => "HashSet<" ++ element.opening
  | .inKey inner _ => "HashMap<" ++ inner.opening
  | .inValue key inner => "HashMap<" ++ key.text ++ ", " ++ inner.opening

def closing : TypeContext → String
  | .hole => ""
  | .list element | .set element => element.closing ++ ">"
  | .inKey inner value => inner.closing ++ ", " ++ value.text ++ ">"
  | .inValue _ inner => inner.closing ++ ">"

/-- What fills the hole is written there, and nothing around it depends on it. -/
theorem text_fill (k : TypeContext) (t : TypeRef) :
    (k.fill t).text = k.opening ++ t.text ++ k.closing := by
  induction k with
  | hole => simp [fill, opening, closing]
  | list element ih => simp [fill, opening, closing, TypeRef.text, ih, String.append_assoc]
  | set element ih => simp [fill, opening, closing, TypeRef.text, ih, String.append_assoc]
  | inKey inner value ih => simp [fill, opening, closing, TypeRef.text, ih, String.append_assoc]
  | inValue key inner ih => simp [fill, opening, closing, TypeRef.text, ih, String.append_assoc]

end TypeContext

/-- In the line of a field, `text` is what is written for the part `t` of its type that stands at
`k`: the line around it stays as it is when something else stands there. -/
def Emitter.WritesAt (e : Emitter) (f : Field) (k : TypeContext) (t : TypeRef) (text : String) :
    Prop :=
  ∃ opening closing : String, f.type = k.fill t ∧
    (e.field f).declaration = opening ++ text ++ closing ∧
    ∀ u, (e.field { f with type := k.fill u }).declaration = opening ++ u.text ++ closing

theorem Emitter.writesAt_of_fill (e : Emitter) {f : Field} {k : TypeContext} {t : TypeRef}
    (h : f.type = k.fill t) : e.WritesAt f k t t.text := by
  have hline : ∀ (opening closing : String),
      (∀ u, fieldTypeText (k.fill u) f.nullable = opening ++ u.text ++ closing) →
      ∀ u, (e.field { f with type := k.fill u }).declaration =
        (indent ++ "pub " ++ e.fieldIdent f.name ++ ": " ++ opening) ++ u.text ++
          (closing ++ ",") := by
    intro opening closing hfill u
    show indent ++ "pub " ++ e.fieldIdent f.name ++ ": " ++
      fieldTypeText (k.fill u) f.nullable ++ "," = _
    rw [hfill u]
    simp only [String.append_assoc]
  have hself : { f with type := k.fill t } = f := by
    rw [← h]
  cases hn : f.nullable with
  | false =>
    have hall := hline k.opening k.closing (by
      intro u
      rw [hn]
      exact k.text_fill u)
    refine ⟨_, _, h, ?_, hall⟩
    rw [← hall t, hself]
  | true =>
    have hall := hline (optionOpening ++ k.opening) (k.closing ++ ">") (by
      intro u
      rw [hn]
      show optionOpening ++ (k.fill u).text ++ ">" = _
      rw [k.text_fill u]
      simp only [String.append_assoc])
    refine ⟨_, _, h, ?_, hall⟩
    rw [← hall t, hself]

/-- Every block is defined under the escaped name of its declaration. -/
theorem Origin.ident_block (e : Emitter) (o : Origin) :
    (o.block e).ident = e.typeIdent o.declaration.simpleName := by
  cases o with
  | record d => rfl
  | enumeration d => rfl
  | union h => rfl

namespace Generator

/-- A reference to an emitted declaration is written as its plain name, and so means the definition
exactly if the name is not reserved or the template is the bare placeholder. -/
theorem reference_meets_definition_iff {c : Config} {g : Generator} (hg : new c = .ok g)
    {model : List Declaration} {files : List File} (hfiles : g.generate model = .ok files) :
    ∃ ss, g.sheets model = .ok ss ∧
      files = withIndex c.modFile (ss.map (Sheet.file g.emitter)) ∧
      ∀ unit o, (unit, o) ∈ placed ss → ∀ unit' d, (unit', .record d) ∈ placed ss →
        ∀ f ∈ d.fields, ∀ k : TypeContext, f.type = k.fill (.named o.declaration.simpleName) →
          g.emitter.WritesAt f k (.named o.declaration.simpleName) o.declaration.simpleName ∧
            (o.declaration.simpleName = (o.block g.emitter).ident ↔
              (Naming.isReserved o.declaration.simpleName = true →
                c.escapeTemplate = Naming.placeholder)) := by
  have hc : g.config = c := (new_eq_ok hg).1
  have hp := holdsPlaceholder_of_new hg
  obtain ⟨ss, hss, hwritten⟩ := generate_eq_ok_iff.mp hfiles
  rw [hc] at hwritten
  refine ⟨ss, hss, hwritten, ?_⟩
  intro unit o _ unit' d _ f _ k hk
  refine ⟨g.emitter.writesAt_of_fill hk, ?_⟩
  rw [Origin.ident_block, ← Naming.escapeReserved_eq_self_iff hp, ← hc]
  exact eq_comm

/-- A record whose name is reserved, and one that holds a list of it. -/
def selfRecord : Declaration := marked ((Declaration.record "m.Self" []).inUnit "Self.kt")

def selfHolder : Declaration :=
  marked ((Declaration.record "m.Holder" [Field.plain "own" (.list (.named "Self"))]).inUnit
    "Holder.kt")

theorem selfHolder_reference_iff :
    new Config.default = .ok standard ∧
      ∃ files, standard.generate [selfRecord, selfHolder] = .ok files ∧
        ∃ ss, standard.sheets [selfRecord, selfHolder] = .ok ss ∧
          files = withIndex Config.default.modFile (ss.map (Sheet.file standard.emitter)) ∧
          ∀ unit o, (unit, o) ∈ placed ss → ∀ unit' d, (unit', .record d) ∈ placed ss →
            ∀ f ∈ d.fields, ∀ k : TypeContext, f.type = k.fill (.named o.declaration.simpleName) →
              standard.emitter.WritesAt f k (.named o.declaration.simpleName)
                  o.declaration.simpleName ∧
                (o.declaration.simpleName = (o.block standard.emitter).ident ↔
                  (Naming.isReserved o.declaration.simpleName = true →
                    Config.default.escapeTemplate = Naming.placeholder)) :=
  ⟨new_default, _, rfl, reference_meets_definition_iff new_default rfl⟩

/-- The list in `Holder` is one of `Self`, which is `Holder` there, and not one of `Self_`. -/
theorem selfHolder_misses_definition :
    new Config.default = .ok standard ∧
      ∃ files ss, standard.generate [selfRecord, selfHolder] = .ok files ∧
        standard.sheets [selfRecord, selfHolder] = .ok ss ∧
        files = ss.map (Sheet.file standard.emitter) ∧
        ("Self.kt", .record selfRecord) ∈ placed ss ∧
        ("Holder.kt", .record selfHolder) ∈ placed ss ∧
        selfRecord.simpleName = "Self" ∧
        ((Origin.record selfRecord).block standard.emitter).ident = "Self_" ∧
        ∃ f ∈ selfHolder.fields, f.type = (TypeContext.list .hole).fill (.named "Self") ∧
          standard.emitter.WritesAt f (.list .hole) (.named "Self") "Self" ∧
          (standard.emitter.field f).declaration = "    pub own: Vec<Self>," := by
  obtain ⟨ss, hss, hplaced⟩ : ∃ ss, standard.sheets [selfRecord, selfHolder] = .ok ss ∧
      placed ss = [("Holder.kt", .record selfHolder), ("Self.kt", .record selfRecord)] :=
    ⟨_, rfl, rfl⟩
  refine ⟨new_default, _, ss, generate_eq_ok_iff.mpr ⟨ss, hss, rfl⟩, hss, rfl, ?_, ?_, rfl,
    by decide +kernel, _, List.mem_singleton.mpr rfl, rfl,
    standard.emitter.writesAt_of_fill rfl, by decide +kernel⟩
  · rw [hplaced]
    exact List.mem_cons_of_mem _ List.mem_cons_self
  · rw [hplaced]
    exact List.mem_cons_self

end Generator
end Facsimile
