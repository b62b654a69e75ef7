import Facsimile.Proofs.Literal
import Facsimile.Proofs.Passages

/-!
# Names on the wire

The serializer goes by the text of the generated code: where the attributes of a member rename it,
by the literal behind `rename = `, and else by the identifier without the mark of a raw identifier.
That effective name is read off the lines of a member here, the identifier off the line that
declares it.  It is the name that the annotations and the model give, whatever the escape template
makes of the identifier.
-/

namespace Facsimile

namespace Text

/-- What follows the first place where `pattern` stands. -/
def after? (pattern : List Char) : List Char → Option (List Char)
  | [] => none
  | c :: cs =>
    if pattern.isPrefixOf (c :: cs) then some ((c :: cs).drop pattern.length)
    else after? pattern cs

/-- What stands between the start and the end of a text. -/
def between? (start finish s : List Char) : Option (List Char) :=
  (s.dropPrefix? start).bind fun rest => rest.dropSuffix? finish

/-- What stands both in front of the bracket in the middle of a text and behind it. -/
def doubled? (s : List Char) : Option (List Char) :=
  let half := s.take (s.length / 2)
  if s = half ++ '(' :: half then some half else none

theorem between?_append (start s finish : List Char) :
    between? start finish (start ++ (s ++ finish)) = some s := by
  have hfront : (start ++ (s ++ finish)).dropPrefix? start = some (s ++ finish) :=
    List.dropPrefix?_eq_some_iff.mpr ⟨start, rfl, beq_self_eq_true start⟩
  rw [between?, hfront, Option.bind_some]
  exact List.dropSuffix?_eq_some_iff.mpr ⟨finish, rfl, beq_self_eq_true finish⟩

theorem doubled?_append (s : List Char) : doubled? (s ++ '(' :: s) = some s := by
  have hhalf : (s ++ '(' :: s).take ((s ++ '(' :: s).length / 2) = s := by
    have hlength : (s ++ '(' :: s).length / 2 = s.length := by
      rw [List.length_append, List.length_cons]
      omega
    rw [hlength, List.take_left]
  unfold doubled?
  rw [hhalf]
  exact if_pos rfl

end Text

/-- The name that an identifier has for the serializer. -/
def plainName (ident : List Char) : String :=
  String.ofList ((ident.dropPrefix? "r#".toList).getD ident)

/-- The line in front of the declaration of a member that tells the serializer about it. -/
def attributeLine? (lines : List String) : Option String :=
  lines.dropLast.find? fun line => "    #[serde(".toList.isPrefixOf line.toList

/-- What the attributes of a member hold behind `rename = `. -/
def renaming? (lines : List String) : Option (List Char) :=
  (attributeLine? lines).bind fun line => Text.after? "rename = ".toList line.toList

namespace Part

/-- The identifier on the line that declares a member. -/
def identOn? (line : List Char) : Part → Option (List Char)
  | .field f =>
    Text.between? "    pub ".toList (": " ++ fieldTypeText f.type f.nullable ++ ",").toList line
  | .entry _ => Text.between? "    ".toList ",".toList line
  | .child _ => (Text.between? "    ".toList "),".toList line).bind Text.doubled?

/-- The identifier of a member with some lines. -/
def ident? (p : Part) (lines : List String) : Option (List Char) :=
  lines.getLast?.bind fun line => p.identOn? line.toList

/-- The name that the serializer gives a member with some lines, if it can be read. -/
def effectiveName? (p : Part) (lines : List String) : Option String :=
  match renaming? lines with
  | none => (p.ident? lines).map plainName
  | some ('"' :: literal) => (Text.readLiteral? literal).map fun (text, _) => String.ofList text
  | some _ => none

/-- The lines of a member give it a name on the wire, and rename it only where its identifier is not
that name. -/
structure GoesBy (p : Part) (lines : List String) (name : String) : Prop where
  effective : p.effectiveName? lines = some name
  renamed : ∃ ident, p.ident? lines = some ident ∧ (renaming? lines ≠ none ↔ plainName ident ≠ name)

end Part

/-! ## The identifier -/

theorem plainName_toList (ident : String) : plainName ident.toList = Naming.unraw ident := by
  unfold plainName Naming.unraw
  split
  · rename_i rest hraw
    have hdrop : ident.toList.dropPrefix? "r#".toList = some rest :=
      List.dropPrefix?_eq_some_iff.mpr ⟨_, hraw, beq_self_eq_true _⟩
    rw [hdrop, Option.getD_some]
  · rename_i hplain
    have hdrop : ident.toList.dropPrefix? "r#".toList = none := by
      rw [Option.eq_none_iff_forall_ne_some]
      intro rest hrest
      obtain ⟨start, hstart, hmark⟩ := List.dropPrefix?_eq_some_iff.mp hrest
      rw [beq_iff_eq.mp hmark] at hstart
      exact hplain rest hstart
    rw [hdrop, Option.getD_none, String.ofList_toList]

namespace Part

theorem identOn?_declaration (p : Part) (ident : String) :
    p.identOn? (p.declaration ident).toList = some ident.toList := by
  cases p with
  | field f =>
    have hline : (declaration ident (.field f)).toList = "    pub ".toList ++ (ident.toList ++
        (": " ++ fieldTypeText f.type f.nullable ++ ",").toList) := by
      simp only [declaration, String.toList_append, List.append_assoc]
    rw [hline]
    exact Text.between?_append _ _ _
  | entry n =>
    have hline : (declaration ident (.entry n)).toList =
        "    ".toList ++ (ident.toList ++ ",".toList) := by
      simp only [declaration, String.toList_append, List.append_assoc]
    rw [hline]
    exact Text.between?_append _ _ _
  | child d =>
    have hline : (declaration ident (.child d)).toList =
        "    ".toList ++ ((ident.toList ++ '(' :: ident.toList) ++ "),".toList) := by
      simp only [declaration, String.toList_append, List.append_assoc]
      rfl
    rw [hline]
    show (Text.between? _ _ _).bind _ = _
    rw [Text.between?_append, Option.bind_some, Text.doubled?_append]

theorem ident?_member (e : Emitter) (p : Part) :
    p.ident? (p.member e).lines = some (p.ident e.template).toList := by
  unfold ident? Member.lines
  rw [List.getLast?_concat, Option.bind_some, declaration_member, identOn?_declaration]

end Part

/-! ## The attribute line -/

namespace Member

theorem attributeLine?_lines (m : Member) : attributeLine? m.lines = m.attributes.lines.head? := by
  have hdocs : ∀ line : String,
      "    #[serde(".toList.isPrefixOf (indent ++ docLine line).toList = false := by
    intro line
    unfold docLine
    split
    · decide
    · simp only [String.toList_append]
      rfl
  unfold attributeLine? lines
  rw [List.dropLast_concat, List.find?_append, List.find?_map]
  have hnone : m.docs.find? ((fun line : String =>
      "    #[serde(".toList.isPrefixOf line.toList) ∘ fun line => indent ++ docLine line) =
        none := by
    refine List.find?_eq_none.mpr fun line _ => ?_
    show ¬"    #[serde(".toList.isPrefixOf (indent ++ docLine line).toList = true
    rw [hdocs line]
    decide
  rw [hnone, Option.map_none, Option.none_or]
  unfold Attributes.lines
  split
  · rfl
  · rw [List.find?_cons_of_pos, List.head?_cons]
    simp only [String.toList_append]
    rfl

theorem renaming?_of_kept {m : Member} (h : m.attributes.rename = none) :
    renaming? m.lines = none := by
  unfold renaming?
  rw [attributeLine?_lines]
  unfold Attributes.lines Attributes.parts
  rw [h]
  cases m.attributes.skipAbsent with
  | false => rfl
  | true => decide

theorem after?_rename (s : List Char) :
    Text.after? "rename = ".toList ("    #[serde(rename = ".toList ++ s) = some s :=
  rfl

/-- Behind the literal comes the end of the line, with the other attribute if there is one.  The reader
of literals stops in front of it. -/
theorem renaming?_of_renamed {m : Member} {wire : String} (h : m.attributes.rename = some wire) :
    ∃ rest, renaming? m.lines =
      some ('"' :: (wire.toList.flatMap Text.escapeChar ++ '"' :: rest)) := by
  have hquote : (Text.quote wire).toList =
      '"' :: (wire.toList.flatMap Text.escapeChar ++ ['"']) := by
    unfold Text.quote Text.quoteChars
    rw [String.toList_ofList]
    rfl
  have hline : ∃ rest : String, m.attributes.lines =
      ["    #[serde(rename = " ++ (Text.quote wire ++ rest)] := by
    unfold Attributes.lines Attributes.parts
    rw [h]
    cases m.attributes.skipAbsent with
    | false =>
      refine ⟨")]", ?_⟩
      show [indent ++ "#[serde(" ++ ("rename = " ++ Text.quote wire) ++ ")]"] = _
      simp only [← String.append_assoc]
      rfl
    | true =>
      refine ⟨", skip_serializing_if = \"Option::is_none\")]", ?_⟩
      show [indent ++ "#[serde(" ++ ("rename = " ++ Text.quote wire ++ ", " ++
        "skip_serializing_if = \"Option::is_none\"") ++ ")]"] = _
      simp only [String.append_assoc]
      rfl
  obtain ⟨rest, hline⟩ := hline
  refine ⟨rest.toList, ?_⟩
  unfold renaming?
  rw [attributeLine?_lines, hline, List.head?_cons, Option.bind_some, String.toList_append,
    after?_rename, String.toList_append, hquote]
  simp

end Member

theorem Emitter.rename_attributes (e : Emitter) (ident name : String)
    (annotations : List Annotation) (skipAbsent : Bool) :
    Naming.unraw ident = e.resolver.wireName annotations name ∧
        (e.attributes ident name annotations skipAbsent).rename = none ∨
      Naming.unraw ident ≠ e.resolver.wireName annotations name ∧
        (e.attributes ident name annotations skipAbsent).rename =
          some (e.resolver.wireName annotations name) := by
  by_cases h : Naming.unraw ident = e.resolver.wireName annotations name
  · exact Or.inl ⟨h, if_pos h⟩
  · exact Or.inr ⟨h, if_neg h⟩

namespace Part

/-- The name that a member has on the wire by its annotations, or else by the model. -/
def wireName (r : Resolver) : Part → String
  | .field f => r.wireName f.annotations f.name
  | .entry n => r.wireName n.annotations n.name
  | .child d => r.wireName d.annotations d.simpleName

/-- The emitter renames a member to make up for what became of its identifier. -/
theorem rename_member (e : Emitter) (p : Part) :
    Naming.unraw (p.ident e.template) = p.wireName e.resolver ∧
        (p.member e).attributes.rename = none ∨
      Naming.unraw (p.ident e.template) ≠ p.wireName e.resolver ∧
        (p.member e).attributes.rename = some (p.wireName e.resolver) := by
  cases p with
  | field | entry | child => exact e.rename_attributes ..

theorem effectiveName?_of_kept {p : Part} {lines : List String} (h : renaming? lines = none) :
    p.effectiveName? lines = (p.ident? lines).map plainName := by
  rw [effectiveName?, h]

theorem effectiveName?_of_renamed {p : Part} {lines : List String} {wire : String}
    {rest : List Char}
    (h : renaming? lines = some ('"' :: (wire.toList.flatMap Text.escapeChar ++ '"' :: rest))) :
    p.effectiveName? lines = some wire := by
  rw [effectiveName?, h]
  show (Text.readLiteral? _).map _ = _
  rw [Text.readLiteral?_escaped, Option.map_some]
  exact congrArg some String.ofList_toList

theorem goesBy_member (e : Emitter) (p : Part) :
    p.GoesBy (p.member e).lines (p.wireName e.resolver) := by
  have hident := p.ident?_member e
  have hplain := plainName_toList (p.ident e.template)
  rcases p.rename_member e with ⟨hsame, hrename⟩ | ⟨hapart, hrename⟩
  · have hnone := Member.renaming?_of_kept hrename
    refine ⟨?_, _, hident, ?_⟩
    · rw [effectiveName?_of_kept hnone, hident, Option.map_some, hplain, hsame]
    · rw [hnone, hplain]
      exact ⟨fun h => absurd rfl h, fun h => absurd hsame h⟩
  · obtain ⟨rest, hsome⟩ := Member.renaming?_of_renamed hrename
    refine ⟨effectiveName?_of_renamed hsome, _, hident, ?_⟩
    rw [hsome, hplain]
    exact ⟨fun _ => hapart, fun _ => Option.some_ne_none _⟩

end Part

/-! ## The names of a pass -/

/-- What the serializer calls the members on a page, one after the other. -/
def Page.effectiveNames (p : Page) : List (Option String) :=
  p.passages.flatMap fun q => q.members.map fun m => m.1.effectiveName? m.2

/-- The names on the wire that the declarations of a sheet give its members. -/
def Sheet.wireNames (r : Resolver) (s : Sheet) : List String :=
  s.origins.flatMap fun o => o.parts.map (Part.wireName r)

theorem Sheet.effectiveNames_page (e : Emitter) (s : Sheet) :
    (s.page e).effectiveNames = (s.wireNames e.resolver).map some := by
  unfold Page.effectiveNames Sheet.page wireNames
  rw [List.flatMap_map, List.map_flatMap]
  refine List.flatMap_congr fun o _ => ?_
  unfold Origin.passage
  rw [List.map_map, List.map_map]
  exact List.map_congr_left fun p _ => (p.goesBy_member e).effective

namespace Generator

/-- The escape template has a part in the text of the sheets alone. -/
theorem sheets_congr {g g' : Generator} {c : Config} {template : String} (hc : g.config = c)
    (hc' : g'.config = { c with escapeTemplate := template }) (hr : g'.resolver = g.resolver)
    {model : List Declaration} {ss ss' : List Sheet} (hss : g.sheets model = .ok ss)
    (hss' : g'.sheets model = .ok ss') : ss' = ss := by
  obtain ⟨-, rfl⟩ := sheets_eq_ok_iff.mp hss
  obtain ⟨-, rfl⟩ := sheets_eq_ok_iff.mp hss'
  rw [selected_congr hr (by rw [hc, hc']) (by rw [hc, hc']), hc, hc']

/-- Members keep their names on the wire, and so the escape template does not change the sequence of
names in any file. -/
theorem wire_names_kept {c : Config} {template : String} {g g' : Generator} (hg : new c = .ok g)
    (hg' : new { c with escapeTemplate := template } = .ok g') :
    (∀ f : Field, Part.GoesBy (.field f) (g.emitter.field f).lines
        (g.resolver.wireName f.annotations f.name)) ∧
      (∀ n : Entry, Part.GoesBy (.entry n) (g.emitter.entry n).lines
        (g.resolver.wireName n.annotations n.name)) ∧
      (∀ d : Declaration, Part.GoesBy (.child d) (g.emitter.variant d).lines
        (g.resolver.wireName d.annotations d.simpleName)) ∧
      ∀ model files files', g.generate model = .ok files → g'.generate model = .ok files' →
        ∃ ss, g.sheets model = .ok ss ∧ g'.sheets model = .ok ss ∧
          Printed c.modFile (ss.map (Sheet.page g.emitter)) files ∧
          Printed c.modFile (ss.map (Sheet.page g'.emitter)) files' ∧
          (∀ s ∈ ss, (s.page g.emitter).effectiveNames = (s.wireNames g.resolver).map some) ∧
          (ss.map (Sheet.page g.emitter)).map Page.effectiveNames =
            (ss.map (Sheet.page g'.emitter)).map Page.effectiveNames := by
  have hc := (new_eq_ok hg).1
  have hc' := (new_eq_ok hg').1
  have hresolver : g'.resolver = g.resolver := resolver_eq_of_new hg hg' rfl
  refine ⟨fun f => Part.goesBy_member g.emitter (.field f),
    fun n => Part.goesBy_member g.emitter (.entry n),
    fun d => Part.goesBy_member g.emitter (.child d), ?_⟩
  intro model files files' hfiles hfiles'
  obtain ⟨ss, hss, rfl⟩ := generate_eq_ok_iff.mp hfiles
  obtain ⟨ss', hss', rfl⟩ := generate_eq_ok_iff.mp hfiles'
  obtain rfl := sheets_congr hc hc' hresolver hss hss'
  have hprinted := printed_pages g ss'
  have hprinted' := printed_pages g' ss'
  rw [hc] at hprinted
  rw [hc'] at hprinted'
  rw [hc, hc']
  refine ⟨_, hss, hss', hprinted, hprinted', fun s _ => s.effectiveNames_page g.emitter, ?_⟩
  rw [List.map_map, List.map_map]
  refine List.map_congr_left fun s _ => ?_
  show (s.page g.emitter).effectiveNames = (s.page g'.emitter).effectiveNames
  rw [Sheet.effectiveNames_page, Sheet.effectiveNames_page]
  show _ = (s.wireNames g'.resolver).map some
  rw [hresolver]
  rfl

def rawStandard : Generator :=
  { standard with config := { Config.default with escapeTemplate := Naming.rawTemplate } }

/-- A reserved name, renamed to a text that needs escapes. -/
def quotedField : Field :=
  (Field.optional "match" (.primitive .i32)).annotatedWith
    ⟨"kotlinx.serialization.SerialName", [("value", .string "a\"\\\n")]⟩

def packets : List Declaration :=
  [marked ((Declaration.record "net.Packet"
    [Field.plain "type" (.primitive .string), quotedField]).inUnit "Packet.kt")]

theorem packets_names_kept :
    new Config.default = .ok standard ∧
      new { Config.default with escapeTemplate := Naming.rawTemplate } = .ok rawStandard ∧
      Part.GoesBy (.field quotedField) (standard.emitter.field quotedField).lines "a\"\\\n" ∧
      ∃ files files', standard.generate packets = .ok files ∧
        rawStandard.generate packets = .ok files' ∧
        ∃ ss, standard.sheets packets = .ok ss ∧ rawStandard.sheets packets = .ok ss ∧
          Printed Config.default.modFile (ss.map (Sheet.page standard.emitter)) files ∧
          Printed Config.default.modFile (ss.map (Sheet.page rawStandard.emitter)) files' ∧
          (∀ s ∈ ss, (s.page standard.emitter).effectiveNames =
            (s.wireNames standard.resolver).map some) ∧
          (ss.map (Sheet.page standard.emitter)).map Page.effectiveNames =
            (ss.map (Sheet.page rawStandard.emitter)).map Page.effectiveNames := by
  have hraw : new { Config.default with escapeTemplate := Naming.rawTemplate } = .ok rawStandard :=
    rfl
  have hkept := wire_names_kept new_default hraw
  exact ⟨new_default, hraw, hkept.1 quotedField, _, _, rfl, rfl, hkept.2.2.2 packets _ _ rfl rfl⟩

end Generator
end Facsimile
