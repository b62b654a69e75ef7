import Facsimile.Proofs.Placement

/-!
# Warnings about types

A type that was not found is written as text, and a warning tells its spelling at that moment.
`Logged` writing does both at once: it gives the files of a pass and tells what the report of the
pass has about them (`writeLayout_tells`).  Among all that a pass reports, the warnings about types
are the spellings met on a walk through its files, `Sheet.missingTypes`, in the order of that walk
(`missing_types_reported`).
-/

namespace Facsimile

/-- Writing that tells events on its way. -/
abbrev Logged (α : Type) : Type := StateM (List Event) α

def tell (e : Event) : Logged Unit := modify (· ++ [e])

/-! ## Writing and telling -/

def TypeRef.write : TypeRef → Logged String
  | .primitive p => pure p.text
  | .list element => do
    let element ← element.write
    return "Vec<" ++ element ++ ">"
  | .set element => do
    let element ← element.write
    return "HashSet<" ++ element ++ ">"
  | .map key value => do
    let key ← key.write
    let value ← value.write
    return "HashMap<" ++ key ++ ", " ++ value ++ ">"
  | .named name => pure name
  | .wellKnown w => pure w.text
  | .unresolved spelling => do
    tell (.unresolvedType spelling)
    return fallbackType

namespace Emitter

def writeField (e : Emitter) (f : Field) : Logged Member := do
  let ident := e.fieldIdent f.name
  let base ← f.type.write
  let type := if f.nullable then optionOpening ++ base ++ ">" else base
  return ⟨docs f.docs, e.attributes ident f.name f.annotations (isOptional type), ident,
    .field type⟩

def writeRecord (e : Emitter) (d : Declaration) : Logged Block := do
  let members ← d.fields.mapM e.writeField
  return ⟨docs d.docs, .record, e.typeIdent d.simpleName, members⟩

def writeUnion (e : Emitter) (h : Hierarchy) : Logged (List Block) :=
  if h.children.isEmpty then pure []
  else do
    let records ← h.children.mapM e.writeRecord
    return e.unionHead h :: records

def writePiece (e : Emitter) : Piece → Logged (List Block)
  | .record d => do
    let block ← e.writeRecord d
    return [block]
  | .enumeration d => pure [e.enumeration d]
  | .union h => e.writeUnion h
  | .empty root => do
    tell (.emptyHierarchy root.qualifiedName)
    return []

end Emitter

namespace Generator

def writeGroup (g : Generator) (hs : List Hierarchy) (group : Group) : Logged (Option File) := do
  let written ← (pieces hs group).mapM g.emitter.writePiece
  if written.flatten.isEmpty then
    tell (.emptyUnit group.unit)
    return none
  else
    return some {
      name := Naming.fileName group.unit
      unit := some group.unit
      content := ((Draft.empty.addHeader group.unit).addBlocks written.flatten).text }

def writeLayout (g : Generator) (l : Layout) : Logged (List File) := do
  let written ← l.groups.mapM (g.writeGroup l.hierarchies)
  let files := withIndex g.config.modFile (written.filterMap id)
  tell (.generated files.length)
  return files

end Generator

/-- What a computation gives, and the events that it tells behind whatever was told before. -/
def Tells {α : Type} (m : Logged α) (a : α) (events : List Event) : Prop :=
  ∀ log, m.run log = (a, log ++ events)

namespace Tells

variable {α β : Type}

theorem pure (a : α) : Tells (pure a) a [] := by
  intro log
  rw [List.append_nil]
  rfl

theorem tell (e : Event) : Tells (tell e) () [e] := fun _ => rfl

theorem bind {m : Logged α} {a : α} {es : List Event} {f : α → Logged β} {b : β} {fs : List Event}
    (hm : Tells m a es) (hf : Tells (f a) b fs) : Tells (m >>= f) b (es ++ fs) := by
  intro log
  have hrun : (m >>= f).run log = (f (m.run log).1).run (m.run log).2 := rfl
  rw [hrun, hm, hf, List.append_assoc]

/-- A last step that only computes. -/
theorem map {m : Logged α} {a : α} {es : List Event} (hm : Tells m a es) (f : α → β) :
    Tells (m >>= fun x => Pure.pure (f x)) (f a) es := by
  have h := hm.bind (f := fun x => Pure.pure (f x)) (Tells.pure (f a))
  rwa [List.append_nil] at h

theorem mapM {f : α → Logged β} {g : α → β} {events : α → List Event}
    (h : ∀ a, Tells (f a) (g a) (events a)) (l : List α) :
    Tells (l.mapM f) (l.map g) (l.flatMap events) := by
  induction l with
  | nil => exact Tells.pure []
  | cons a l ih =>
    rw [List.mapM_cons, List.flatMap_cons]
    exact (h a).bind (ih.map (g a :: ·))

end Tells

/-! ## What writing tells -/

theorem TypeRef.write_tells (t : TypeRef) :
    Tells t.write t.text (t.unresolvedSpellings.map .unresolvedType) := by
  induction t with
  | primitive p => exact Tells.pure p.text
  | list element ih => exact ih.map _
  | set element ih => exact ih.map _
  | map key value ihk ihv =>
    rw [unresolvedSpellings, List.map_append]
    exact ihk.bind (ihv.map _)
  | named name => exact Tells.pure name
  | wellKnown w => exact Tells.pure w.text
  | unresolved spelling => exact (Tells.tell _).map _

namespace Piece

theorem events_record (d : Declaration) :
    (Piece.record d).events =
      d.fields.flatMap fun f => f.type.unresolvedSpellings.map .unresolvedType := by
  simp [events, unresolvedSpellings, records, List.map_flatMap]

theorem events_union (h : Hierarchy) :
    (Piece.union h).events = h.children.flatMap fun d => (Piece.record d).events := by
  simp [events, unresolvedSpellings, records, List.map_flatMap]

end Piece

namespace Emitter

theorem writeField_tells (e : Emitter) (f : Field) :
    Tells (e.writeField f) (e.field f) (f.type.unresolvedSpellings.map .unresolvedType) :=
  f.type.write_tells.map _

theorem writeRecord_tells (e : Emitter) (d : Declaration) :
    Tells (e.writeRecord d) (e.record d) (Piece.record d).events := by
  rw [Piece.events_record]
  exact (Tells.mapM e.writeField_tells d.fields).map _

theorem writeUnion_tells (e : Emitter) (h : Hierarchy) :
    Tells (e.writeUnion h) (e.union h) (Piece.union h).events := by
  rw [Piece.events_union]
  unfold writeUnion union
  by_cases hc : h.children.isEmpty
  · rw [if_pos hc, if_pos hc, List.isEmpty_iff.mp hc]
    exact Tells.pure []
  · rw [if_neg hc, if_neg hc]
    exact (Tells.mapM e.writeRecord_tells h.children).map _

theorem writePiece_tells (e : Emitter) (p : Piece) :
    Tells (e.writePiece p) (p.blocks e) p.events := by
  cases p with
  | record d => exact (e.writeRecord_tells d).map _
  | enumeration d => exact Tells.pure _
  | union h => exact e.writeUnion_tells h
  | empty root => exact (Tells.tell _).map _

end Emitter

namespace Generator

theorem writeGroup_tells (g : Generator) (hs : List Hierarchy) (group : Group) :
    Tells (g.writeGroup hs group) (g.file? hs group) (g.groupEvents hs group) := by
  have hpieces := Tells.mapM g.emitter.writePiece_tells (pieces hs group)
  unfold writeGroup groupEvents
  refine hpieces.bind ?_
  have hblocks : ((pieces hs group).map (Piece.blocks g.emitter)).flatten = g.blocks hs group := rfl
  rw [hblocks]
  unfold file?
  simp only
  split
  · exact (Tells.tell _).map _
  · exact Tells.pure _

theorem writeLayout_tells {g : Generator} {ds : List Declaration} {l : Layout}
    (h : g.layout ds = .ok l) : Tells (g.writeLayout l) (g.files l) (g.writingEvents ds) := by
  have hgroups := Tells.mapM (g.writeGroup_tells l.hierarchies) l.groups
  unfold writeLayout writingEvents
  rw [h]
  refine hgroups.bind ?_
  rw [List.filterMap_map]
  exact (Tells.tell _).map _

end Generator

/-! ## The walk through the files -/

/-- The leaves of a type from left to right, those of a key in front of those of its value. -/
def TypeRef.leaves : TypeRef → List TypeRef
  | .list element | .set element => element.leaves
  | .map key value => key.leaves ++ value.leaves
  | leaf => [leaf]

/-- The spelling of a type that was not found. -/
def TypeRef.missing? : TypeRef → Option String
  | .unresolved spelling => some spelling
  | _ => none

/-- The fields that a block has lines for. -/
def Origin.fields : Origin → List Field
  | .record d => d.fields
  | .enumeration _ | .union _ => []

def Origin.missingTypes (o : Origin) : List String :=
  o.fields.flatMap fun f => f.type.leaves.filterMap TypeRef.missing?

def Sheet.missingTypes (s : Sheet) : List String := s.origins.flatMap Origin.missingTypes

/-- A warning of the part of the program that is about types. -/
def Event.isTypeWarning (e : Event) : Bool := e.level == .warn && e.target == "typemirror::types"

theorem TypeRef.filterMap_leaves (t : TypeRef) :
    t.leaves.filterMap missing? = t.unresolvedSpellings := by
  induction t with
  | list element ih => exact ih
  | set element ih => exact ih
  | map key value ihk ihv => rw [leaves, List.filterMap_append, ihk, ihv, unresolvedSpellings]
  | primitive _ | named _ | wellKnown _ | unresolved _ => rfl

namespace Piece

theorem unresolvedSpellings_eq (p : Piece) :
    p.unresolvedSpellings = p.origins.flatMap Origin.missingTypes := by
  have hrecord : ∀ d : Declaration, (Origin.record d).missingTypes =
      d.fields.flatMap fun f => f.type.unresolvedSpellings := by
    intro d
    exact List.flatMap_congr fun f _ => f.type.filterMap_leaves
  cases p with
  | record d => simp [unresolvedSpellings, records, origins, hrecord]
  | enumeration d => rfl
  | union h =>
    show _ = (if h.children.isEmpty then [] else _ :: h.children.map Origin.record).flatMap _
    by_cases hc : h.children.isEmpty
    · simp [unresolvedSpellings, records, List.isEmpty_iff.mp hc]
    · rw [if_neg hc, List.flatMap_cons, List.flatMap_map]
      exact List.flatMap_congr fun d _ => (hrecord d).symm
  | empty root => rfl

/-- Among the events of a piece, the warnings are about the fields of its blocks. -/
theorem filter_events (p : Piece) :
    p.events.filter Event.isTypeWarning =
      (p.origins.flatMap Origin.missingTypes).map .unresolvedType := by
  rw [← unresolvedSpellings_eq]
  have hall : ∀ spellings : List String,
      (spellings.map Event.unresolvedType).filter Event.isTypeWarning =
        spellings.map .unresolvedType := by
    intro spellings
    refine List.filter_eq_self.mpr fun e he => ?_
    obtain ⟨spelling, -, rfl⟩ := List.mem_map.mp he
    rfl
  cases p with
  | empty root => rfl
  | record d | enumeration d | union h => exact hall _

end Piece

namespace Generator

/-- A unit without blocks tells that it has none, which is no warning. -/
theorem filter_groupEvents (g : Generator) (hs : List Hierarchy) (group : Group) :
    (g.groupEvents hs group).filter Event.isTypeWarning =
      (group.sheet hs).missingTypes.map .unresolvedType := by
  have hempty : (if (g.blocks hs group).isEmpty then [Event.emptyUnit group.unit] else []).filter
      Event.isTypeWarning = [] := by
    split <;> rfl
  unfold groupEvents Sheet.missingTypes Sheet.origins
  rw [List.filter_append, hempty, List.append_nil, List.filter_flatMap, List.flatMap_assoc,
    List.map_flatMap]
  exact List.flatMap_congr fun p _ => p.filter_events

theorem filter_writingEvents {g : Generator} {ds : List Declaration} {l : Layout}
    (h : g.layout ds = .ok l) :
    (g.writingEvents ds).filter Event.isTypeWarning =
      (l.sheets.flatMap Sheet.missingTypes).map .unresolvedType := by
  have hsheets : l.sheets.flatMap Sheet.missingTypes =
      l.groups.flatMap fun group => (group.sheet l.hierarchies).missingTypes := by
    unfold Layout.sheets
    rw [flatMap_filter_of_nil, List.flatMap_map]
    intro s _ hs
    rw [Bool.not_eq_false', List.isEmpty_iff] at hs
    rw [Sheet.missingTypes, hs, List.flatMap_nil]
  unfold writingEvents
  rw [h]
  simp only
  rw [List.filter_append, List.filter_flatMap, hsheets, List.map_flatMap]
  have hlast : [Event.generated (g.files l).length].filter Event.isTypeWarning = [] := rfl
  rw [hlast, List.append_nil]
  exact List.flatMap_congr fun group _ => g.filter_groupEvents l.hierarchies group

/-- What a pass reports before it writes. -/
def eventsBefore (g : Generator) (model : List Declaration) : List Event :=
  g.rootsWithoutUnit model ++ [.selected (g.selected model).length model.length] ++
    g.hierarchyEvents (g.selected model) ++ g.groupingEvents (g.selected model)

theorem isTypeWarning_before {g : Generator} {model : List Declaration} {e : Event}
    (he : e ∈ g.eventsBefore model) : e.isTypeWarning = false := by
  have hstray : ∀ e ∈ g.hierarchyEvents (g.selected model), e.isTypeWarning = false := by
    intro e he
    unfold hierarchyEvents Hierarchy.strayMembers at he
    split at he
    · cases he
    · obtain ⟨d, -, hd⟩ := List.mem_flatMap.mp he
      split at hd
      · cases hd
      · obtain ⟨r, -, rfl⟩ := List.mem_map.mp hd
        rfl
  have hunits : ∀ e ∈ g.groupingEvents (g.selected model), e.isTypeWarning = false := by
    intro e he
    unfold groupingEvents at he
    split at he
    · obtain ⟨d, -, rfl⟩ := List.mem_map.mp he
      rfl
    · cases he
  unfold eventsBefore rootsWithoutUnit at he
  simp only [List.mem_append, List.mem_singleton, List.mem_map] at he
  rcases he with ((⟨d, -, rfl⟩ | rfl) | he) | he
  · rfl
  · rfl
  · exact hstray e he
  · exact hunits e he

/-- Writing the files of a pass, behind what was reported before, tells the rest of its report.  The
warnings about types in it are the spellings met in the blocks of the files, from first to last. -/
theorem missing_types_reported {g : Generator} {model : List Declaration} {files : List File}
    (hfiles : g.generate model = .ok files) :
    ∃ l, g.layout (g.selected model) = .ok l ∧
      files = withIndex g.config.modFile (l.sheets.map (Sheet.file g.emitter)) ∧
      (g.writeLayout l).run (g.eventsBefore model) = (files, g.report model) ∧
      (∀ e ∈ g.eventsBefore model, e.isTypeWarning = false) ∧
      (g.report model).filter Event.isTypeWarning =
        (l.sheets.flatMap Sheet.missingTypes).map .unresolvedType := by
  unfold generate at hfiles
  cases hl : g.layout (g.selected model) with
  | error e =>
    rw [hl] at hfiles
    cases hfiles
  | ok l =>
    rw [hl] at hfiles
    cases hfiles
    have hbefore : (g.eventsBefore model).filter Event.isTypeWarning = [] :=
      List.filter_eq_nil_iff.mpr fun e he => by simp [isTypeWarning_before he]
    refine ⟨l, rfl, files_eq g l, writeLayout_tells hl _, fun e => isTypeWarning_before, ?_⟩
    show (g.eventsBefore model ++ g.writingEvents (g.selected model)).filter _ = _
    rw [List.filter_append, hbefore, filter_writingEvents hl]
    rfl

def missingField (spelling : String) : Field := .plain "value" (.unresolved spelling)

/-- Types that were not found in a record with a file, in a child of a root, in the fields of a root
and of an enumeration, in a record without unit and in one that is not marked. -/
def surveys : List Declaration :=
  [{ marked ((Declaration.sealedRoot "geo.Shape").inUnit "Shape.kt") with
      fields := [missingField "Root"] },
    marked ((Declaration.record "geo.Disc" [.plain "parts"
      (.map (.unresolved "Key") (.list (.unresolved "Value")))]).extending "geo.Shape"),
    { marked ((Declaration.enumeration "geo.Side" []).inUnit "Shape.kt") with
      fields := [missingField "Side"] },
    marked (Declaration.record "geo.Point" [missingField "Point"]),
    (Declaration.record "geo.Plan" [missingField "Plan"]).inUnit "Shape.kt",
    marked ((Declaration.record "geo.Area" [missingField "Area"]).inUnit "Area.kt")]

theorem surveys_reported :
    ∃ files, standard.generate surveys = .ok files ∧
      (∃ l, standard.layout (standard.selected surveys) = .ok l ∧
        files = withIndex standard.config.modFile (l.sheets.map (Sheet.file standard.emitter)) ∧
        (standard.writeLayout l).run (standard.eventsBefore surveys) =
          (files, standard.report surveys) ∧
        (∀ e ∈ standard.eventsBefore surveys, e.isTypeWarning = false) ∧
        (standard.report surveys).filter Event.isTypeWarning =
          (l.sheets.flatMap Sheet.missingTypes).map .unresolvedType) ∧
      (standard.report surveys).filter Event.isTypeWarning =
        [.unresolvedType "Area", .unresolvedType "Key", .unresolvedType "Value"] :=
  ⟨_, rfl, missing_types_reported rfl, by rfl⟩

end Generator
end Facsimile
