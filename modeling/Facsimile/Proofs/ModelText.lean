import Facsimile.Proofs.JsonText
import Facsimile.Proofs.Spellings

/-!
# Models are read back

The document that a model is written as is one of its spellings, and its text is read back.  So
every text with a spelling of a model gives that model, and so does the text of the model itself
(`readModel_of_spelling`).
-/

namespace Facsimile

open Json

/-! ## Values -/

namespace Json.Value

/-- A value whose numbers are integers of 64 bits and whose objects have ascending names. -/
inductive IsCanonical : Value → Prop
  | null : IsCanonical .null
  | bool (b : Bool) : IsCanonical (.bool b)
  | integer (n : Int) (h : Fits n) : IsCanonical (.number (.integer n))
  | string (s : String) : IsCanonical (.string s)
  | array (items : List Value) (h : ∀ v ∈ items, IsCanonical v) : IsCanonical (.array items)
  | object (members : List (String × Value)) (hnames : Sorted.Ascending (members.map Prod.fst))
    (h : ∀ m ∈ members, IsCanonical m.2) : IsCanonical (.object members)

theorem toDocs_eq (vs : List Value) : toDocs vs = vs.map toDoc := by
  induction vs with
  | nil => rw [toDocs, List.map_nil]
  | cons v vs ih => rw [toDocs, ih, List.map_cons]

theorem toMembers_eq (ms : List (String × Value)) :
    toMembers ms = ms.map fun m => (some m.1, m.2.toDoc) := by
  induction ms with
  | nil => rw [toMembers, List.map_nil]
  | cons m ms ih =>
    obtain ⟨name, v⟩ := m
    rw [toMembers, ih, List.map_cons]

theorem toDoc_object (members : List (String × Value)) :
    (Value.object members).toDoc = .record (members.map fun m => (m.1, m.2.toDoc)) := by
  rw [toDoc, toMembers_eq, Doc.record, List.map_map]
  rfl

theorem toDoc_isPlain {v : Value} (h : v.IsCanonical) : v.toDoc.IsPlain := by
  induction h with
  | null => exact .null
  | bool b => exact .bool b
  | integer n h => exact .integer n h
  | string s => exact .text s
  | array items _ ih =>
    rw [toDoc, toDocs_eq]
    exact .array _ (List.forall_mem_map.mpr ih)
  | object members _ _ ih =>
    rw [toDoc_object]
    exact .record _ (List.forall_mem_map.mpr ih)

theorem toDoc_spelled {v : Value} (h : v.IsCanonical) : v.SpelledAs v.toDoc := by
  induction h with
  | null => exact .null
  | bool b => exact .bool b
  | integer n _ => exact .integer n
  | string s => exact .string s
  | array items _ ih =>
    have hparts := SpelledAs.array (items.map fun v => (v, v.toDoc)) (List.forall_mem_map.mpr ih)
    rw [List.map_map, List.map_map] at hparts
    rw [toDoc, toDocs_eq]
    simpa [Function.comp_def] using hparts
  | object members hnames _ ih =>
    have hparts := SpelledAs.object (members.map fun m => (m.1, m.2, m.2.toDoc)) members
      (List.forall_mem_map.mpr ih) hnames ?_
    · rw [List.map_map] at hparts
      rw [toDoc, toMembers_eq]
      exact hparts
    · intro name
      have hmembers : (members.map fun m => (m.1, m.2, m.2.toDoc)).map (fun p => (p.1, p.2.1)) =
          members := by
        rw [List.map_map]
        exact List.map_id _
      rw [hmembers, Sorted.lookup_reverse hnames]

end Json.Value

/-! ## Types -/

theorem recordParts_of_record (names : List String) (members : List (String × Doc)) :
    RecordParts names (.record members)
      fun name => under name (members.map fun m => (some m.1, m.2)) := by
  refine .object _ ?_
  rw [List.forall_mem_map]
  exact fun m _ => rfl

namespace TypeRef

theorem tag_isPlain (tag : String) {d : Doc} (h : d.IsPlain) : (Doc.record [(tag, d)]).IsPlain :=
  .record _ (List.forall_mem_singleton.mpr h)

theorem toDoc_isPlain (t : TypeRef) : t.toDoc.IsPlain := by
  induction t with
  | primitive p => exact tag_isPlain _ (.text _)
  | list t ih => exact tag_isPlain _ ih
  | set t ih => exact tag_isPlain _ ih
  | map k v ihk ihv =>
    refine tag_isPlain _ (.record _ ?_)
    rw [List.forall_mem_cons, List.forall_mem_singleton]
    exact ⟨ihk, ihv⟩
  | named name => exact tag_isPlain _ (.text _)
  | wellKnown w => exact tag_isPlain _ (.text _)
  | unresolved spelling => exact tag_isPlain _ (.text _)

theorem toDoc_spelled (t : TypeRef) : t.SpelledAs t.toDoc := by
  induction t with
  | primitive p => exact .primitive p .name
  | list t ih => exact .list ih
  | set t ih => exact .set ih
  | map k v ihk ihv => exact .map (recordParts_of_record _ _) rfl rfl ihk ihv
  | named name => exact .named name
  | wellKnown w => exact .wellKnown w .name
  | unresolved spelling => exact .unresolved spelling

end TypeRef

/-! ## Records -/

namespace Annotation

def IsCanonical (a : Annotation) : Prop := (Value.object a.arguments).IsCanonical

theorem toDoc_isPlain {a : Annotation} (h : a.IsCanonical) : a.toDoc.IsPlain := by
  refine .record _ ?_
  rw [List.forall_mem_cons, List.forall_mem_singleton]
  exact ⟨.text _, Value.toDoc_isPlain h⟩

theorem toDoc_spelled {a : Annotation} (h : a.IsCanonical) : a.SpelledAs a.toDoc :=
  ⟨_, recordParts_of_record _ _, .once rfl, .once (Value.toDoc_spelled h)⟩

end Annotation

section Lists

variable {α : Type} {toDoc : α → Doc} {as : List α}

theorem array_isPlain (h : ∀ a ∈ as, (toDoc a).IsPlain) : (Doc.array (as.map toDoc)).IsPlain :=
  .array _ (List.forall_mem_map.mpr h)

theorem array_spelled {Spells : α → Doc → Prop} (h : ∀ a ∈ as, Spells a (toDoc a)) :
    ListSpelled Spells as (.array (as.map toDoc)) := by
  have hparts := ListSpelled.intro (as.map fun a => (a, toDoc a)) (List.forall_mem_map.mpr h)
  rw [List.map_map, List.map_map] at hparts
  have has : as.map (Prod.fst ∘ fun a => (a, toDoc a)) = as := List.map_id as
  rw [has] at hparts
  exact hparts

end Lists

theorem ofOption_isPlain (s : Option String) : (Doc.ofOption s).IsPlain := by
  cases s with
  | none => exact .null
  | some s => exact .text s

namespace Entry

def IsCanonical (e : Entry) : Prop := ∀ a ∈ e.annotations, a.IsCanonical

theorem toDoc_isPlain {e : Entry} (h : e.IsCanonical) : e.toDoc.IsPlain := by
  refine .record _ ?_
  simp only [List.forall_mem_cons]
  exact ⟨.text _, ofOption_isPlain _, array_isPlain fun a ha => Annotation.toDoc_isPlain (h a ha),
    nofun⟩

theorem toDoc_spelled {e : Entry} (h : e.IsCanonical) : e.SpelledAs e.toDoc :=
  ⟨_, recordParts_of_record _ _, .once rfl, .once rfl,
    .once (array_spelled fun a ha => Annotation.toDoc_spelled (h a ha))⟩

end Entry

namespace Field

def IsCanonical (f : Field) : Prop := ∀ a ∈ f.annotations, a.IsCanonical

theorem toDoc_isPlain {f : Field} (h : f.IsCanonical) : f.toDoc.IsPlain := by
  refine .record _ ?_
  simp only [List.forall_mem_cons]
  exact ⟨.text _, f.type.toDoc_isPlain, .bool _, ofOption_isPlain _,
    array_isPlain fun a ha => Annotation.toDoc_isPlain (h a ha), nofun⟩

theorem toDoc_spelled {f : Field} (h : f.IsCanonical) : f.SpelledAs f.toDoc :=
  ⟨_, recordParts_of_record _ _, .once rfl, .once f.type.toDoc_spelled, .once rfl, .once rfl,
    .once (array_spelled fun a ha => Annotation.toDoc_spelled (h a ha))⟩

end Field

namespace Declaration

/-- A declaration all of whose annotations have canonical arguments. -/
structure IsCanonical (d : Declaration) : Prop where
  fields : ∀ f ∈ d.fields, f.IsCanonical
  entries : ∀ e ∈ d.entries, e.IsCanonical
  annotations : ∀ a ∈ d.annotations, a.IsCanonical

theorem toDoc_isPlain {d : Declaration} (h : d.IsCanonical) : d.toDoc.IsPlain := by
  refine .record _ ?_
  simp only [List.forall_mem_cons]
  exact ⟨.text _, .text _, .text _, ofOption_isPlain _, ofOption_isPlain _, ofOption_isPlain _,
    array_isPlain fun f hf => Field.toDoc_isPlain (h.fields f hf),
    array_isPlain fun e he => Entry.toDoc_isPlain (h.entries e he),
    array_isPlain fun a ha => Annotation.toDoc_isPlain (h.annotations a ha),
    array_isPlain fun s _ => .text s, nofun⟩

theorem toDoc_spelled {d : Declaration} (h : d.IsCanonical) : d.SpelledAs d.toDoc :=
  ⟨_, recordParts_of_record _ _, .once .name, .once rfl, .once rfl, .once rfl, .once rfl,
    .once rfl, .once (array_spelled fun f hf => Field.toDoc_spelled (h.fields f hf)),
    .once (array_spelled fun e he => Entry.toDoc_spelled (h.entries e he)),
    .once (array_spelled fun a ha => Annotation.toDoc_spelled (h.annotations a ha)),
    .once (array_spelled fun _ _ => rfl)⟩

end Declaration

/-! ## Models -/

section Models

variable {model : List Declaration}

theorem modelDoc_isPlain (h : ∀ d ∈ model, d.IsCanonical) : (modelDoc model).IsPlain :=
  array_isPlain fun d hd => Declaration.toDoc_isPlain (h d hd)

theorem modelDoc_spelled (h : ∀ d ∈ model, d.IsCanonical) : ModelSpelled model (modelDoc model) :=
  array_spelled fun d hd => Declaration.toDoc_spelled (h d hd)

theorem readModel_of_spelled {text : String} {d : Doc} (htext : Doc.read? text = some d)
    (h : ModelSpelled model d) (hn : d.nesting ≤ nestingLimit) : readModel text = .ok model := by
  unfold readModel
  rw [htext]
  exact decodeModel_of_spelled h hn

/-- A model whose document does not nest too deeply is read back from its text. -/
theorem readModel_render (h : ∀ d ∈ model, d.IsCanonical)
    (hn : (modelDoc model).nesting ≤ nestingLimit) :
    readModel (modelDoc model).render = .ok model :=
  readModel_of_spelled (Doc.read?_render (modelDoc_isPlain h)) (modelDoc_spelled h) hn

end Models

/-- A text gives a model if its document is a spelling of the model and does not nest too deeply.
What is written for a model is a spelling of it, if its annotations have canonical arguments, and
gives it again. -/
theorem readModel_of_spelling (model : List Declaration) :
    (∀ text d, Doc.read? text = some d → ModelSpelled model d → d.nesting ≤ nestingLimit →
      readModel text = .ok model) ∧
      ((∀ d ∈ model, d.IsCanonical) →
        ModelSpelled model (modelDoc model) ∧
          ((modelDoc model).nesting ≤ nestingLimit →
            readModel (modelDoc model).render = .ok model)) := by
  constructor
  · intro text d htext h hn
    exact readModel_of_spelled htext h hn
  · intro h
    exact ⟨modelDoc_spelled h, readModel_render h⟩

def polygonSides : Field :=
  .plain "sides" (.map (.primitive .string) (.named "Side"))

def polygon : Declaration :=
  { Declaration.record "Polygon" [polygonSides] with sourceUnit := some "Polygon.kt" }

/-- A field with a member of another name and without those that have their defaults; its map is a
list. -/
def polygonSidesDoc : Doc :=
  .record [("note", .ofNat 4),
    ("ty", .record [("map", .array [.record [("primitive", .text "string")],
      .record [("named", .text "Side")]])]),
    ("name", .text "sides")]

/-- A declaration as a list that ends with its fields. -/
def polygonDoc : Doc :=
  .array [.text "struct", .text "Polygon", .text "Polygon", .null, .text "Polygon.kt", .null,
    .array [polygonSidesDoc]]

theorem polygonSidesDoc_spelled : polygonSides.SpelledAs polygonSidesDoc := by
  have htype : polygonSides.type.SpelledAs
      (.record [("map", .array [.record [("primitive", .text "string")],
        .record [("named", .text "Side")]])]) :=
    .map (.list _ (Nat.le_refl 2)) rfl rfl (.primitive .string .name) (.named "Side")
  exact ⟨_, recordParts_of_record _ _, .once rfl, .once htype, .omitted rfl, .omitted rfl,
    .omitted rfl⟩

theorem polygonDoc_spelled : polygon.SpelledAs polygonDoc := by
  have hfields : ListSpelled Field.SpelledAs [polygonSides] (.array [polygonSidesDoc]) :=
    .intro [(polygonSides, polygonSidesDoc)] (List.forall_mem_singleton.mpr polygonSidesDoc_spelled)
  exact ⟨_, .list _ (by decide), .once .name, .once rfl, .once rfl, .once rfl, .once rfl, .once rfl,
    .once hfields, .omitted rfl, .omitted rfl, .omitted rfl⟩

theorem polygonSidesDoc_isPlain : polygonSidesDoc.IsPlain := by
  refine .record _ ?_
  simp only [List.forall_mem_cons]
  refine ⟨.integer 4 ⟨by decide, by decide⟩, TypeRef.tag_isPlain _ (.array _ ?_), .text _, nofun⟩
  simp only [List.forall_mem_cons]
  exact ⟨TypeRef.tag_isPlain _ (.text _), TypeRef.tag_isPlain _ (.text _), nofun⟩

theorem polygonDoc_isPlain : polygonDoc.IsPlain := by
  refine .array _ ?_
  simp only [List.forall_mem_cons]
  exact ⟨.text _, .text _, .text _, .null, .text _, .null,
    .array _ (List.forall_mem_singleton.mpr polygonSidesDoc_isPlain), nofun⟩

/-- A model in another spelling than its own, and in its own. -/
theorem polygon_read :
    readModel (Doc.array [polygonDoc]).render = .ok [polygon] ∧
      readModel (modelDoc [polygon]).render = .ok [polygon] := by
  have hplain : (Doc.array [polygonDoc]).IsPlain :=
    .array _ (List.forall_mem_singleton.mpr polygonDoc_isPlain)
  have hspelled : ModelSpelled [polygon] (.array [polygonDoc]) :=
    .intro [(polygon, polygonDoc)] (List.forall_mem_singleton.mpr polygonDoc_spelled)
  constructor
  · exact (readModel_of_spelling [polygon]).1 _ _ (Doc.read?_render hplain) hspelled (by decide)
  · refine ((readModel_of_spelling [polygon]).2 ?_).2 (by decide)
    rw [List.forall_mem_singleton]
    exact ⟨List.forall_mem_singleton.mpr nofun, nofun, nofun⟩

end Facsimile
