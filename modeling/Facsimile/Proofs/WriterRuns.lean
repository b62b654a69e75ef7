import Facsimile.Proofs.CodeLines
import Mathlib.Data.List.Induction

/-!
# Runs of a writer

A writer performs steps on a draft, each of which writes a header or blocks.  What a step adds does
not depend on the draft, apart from the line feed that sets a block off from the text before it:
`Step.text` and `Step.count` give it for each step, and `writer_appends_only` says so for every
draft that a run leads to.
-/

namespace Facsimile

def StartsLine (text : String) : Prop := ∃ c rest, text.toList = c :: rest ∧ c ≠ '\n'

/-- One line feed, and no more, ends a text. -/
def EndsLine (text : String) : Prop := ∃ start c, text.toList = start ++ [c, '\n'] ∧ c ≠ '\n'

/-- A text with no empty line at its start or its end. -/
structure IsParagraph (text : String) : Prop where
  starts : StartsLine text
  ends : EndsLine text

namespace Draft

inductive Step where
  | header (unit : String)
  | record (d : Declaration)
  | enumeration (d : Declaration)
  | union (h : Hierarchy)

namespace Step

def perform (e : Emitter) (d : Draft) : Step → Draft
  | .header unit => d.addHeader unit
  | .record r => d.addBlock (e.record r)
  | .enumeration r => d.addBlock (e.enumeration r)
  | .union h => d.addBlocks (e.union h)

def blocks (e : Emitter) : Step → List Block
  | .header _ => []
  | .record d => [e.record d]
  | .enumeration d => [e.enumeration d]
  | .union h => e.union h

def text (e : Emitter) : Step → String
  | .header unit => Draft.header unit
  | .record d => (e.record d).text
  | .enumeration d => (e.enumeration d).text
  | .union h =>
    if h.children.isEmpty then ""
    else (e.unionHead h).text ++ String.join (h.children.map fun d => "\n" ++ (e.record d).text)

def count : Step → Nat
  | .header _ => 0
  | .record _ | .enumeration _ => 1
  | .union h => if h.children.isEmpty then 0 else h.children.length + 1

end Step

/-- The draft that steps lead to from an empty one. -/
def run (e : Emitter) (steps : List Step) : Draft := steps.foldl (Step.perform e) empty

/-- What each step adds to a draft, whatever steps went before: a text and a number of blocks. -/
structure AppendsOnly (e : Emitter) (text : Step → String) (count : Step → Nat) : Prop where
  text_perform : ∀ steps s, (s.perform e (run e steps)).text =
    (run e steps).text ++ (if 0 < count s ∧ (run e steps).text ≠ "" then "\n" else "") ++ text s
  blocks_perform : ∀ steps s, (s.perform e (run e steps)).blocks = (run e steps).blocks + count s
  header : ∀ unit, count (.header unit) = 0
  record : ∀ d, count (.record d) = 1
  enumeration : ∀ d, count (.enumeration d) = 1
  childless : ∀ h, h.children = [] → count (.union h) = 0 ∧ text (.union h) = ""
  union : ∀ h, h.children ≠ [] → count (.union h) = 1 + h.children.length ∧
    text (.union h) =
      (e.unionHead h).text ++ String.join (h.children.map fun d => "\n" ++ text (.record d))
  ends : ∀ s, text s ≠ "" → EndsLine (text s)
  written : ∀ steps, (run e steps).text = "" ∨ EndsLine (run e steps).text
  /-- Blocks that follow each other without a header have one empty line between them. -/
  consecutive : ∀ steps more, (∀ unit, .header unit ∉ more) → ∀ before b c after,
    more.flatMap (Step.blocks e) = before ++ b :: c :: after →
      ∃ above below, (run e (steps ++ more)).text = above ++ b.text ++ "\n" ++ c.text ++ below ∧
        IsParagraph b.text ∧ IsParagraph c.text

end Draft

/-! ## Paragraphs -/

theorem StartsLine.append {a : String} (h : StartsLine a) (b : String) : StartsLine (a ++ b) := by
  obtain ⟨c, rest, htext, hc⟩ := h
  refine ⟨c, rest ++ b.toList, ?_, hc⟩
  rw [String.toList_append, htext, List.cons_append]

theorem StartsLine.ne_empty {text : String} (h : StartsLine text) : text ≠ "" := by
  intro hempty
  obtain ⟨c, rest, htext, -⟩ := h
  rw [hempty] at htext
  cases htext

theorem EndsLine.prepend {b : String} (h : EndsLine b) (a : String) : EndsLine (a ++ b) := by
  obtain ⟨start, c, htext, hc⟩ := h
  refine ⟨a.toList ++ start, c, ?_, hc⟩
  rw [String.toList_append, htext, List.append_assoc]

theorem startsLine_docLine (line : String) : StartsLine (docLine line) := by
  unfold docLine
  split
  · exact ⟨'/', ['/', '/'], rfl, by decide⟩
  · exact StartsLine.append ⟨'/', ['/', '/', ' '], rfl, by decide⟩ line

theorem Shape.startsLine_attributes (s : Shape) :
    ∃ line rest, s.attributes = line :: rest ∧ StartsLine line := by
  have hderive : ∀ traits : String, StartsLine ("#[derive(" ++ traits) := fun traits =>
    StartsLine.append ⟨'#', "[derive(".toList, rfl, by decide⟩ traits
  cases s with
  | record => exact ⟨_, _, rfl, hderive "Debug, Clone, PartialEq, Serialize, Deserialize)]"⟩
  | enumeration =>
    exact ⟨_, _, rfl, hderive "Debug, Clone, Copy, PartialEq, Eq, Hash, Serialize, Deserialize)]"⟩
  | union key => exact ⟨_, _, rfl, hderive "Debug, Clone, PartialEq, Serialize, Deserialize)]"⟩

namespace Block

theorem exists_body_eq (b : Block) : ∃ start last, b.body = start ++ [last ++ "\x7d"] := by
  by_cases h : b.shape = .record ∧ b.members = []
  · exact ⟨[], _, body_of_short h⟩
  · exact ⟨_, "", body_of_long h⟩

theorem startsLine_text (b : Block) : StartsLine b.text := by
  obtain ⟨line, rest, hlines, hline⟩ : ∃ line rest, b.lines = line :: rest ∧ StartsLine line := by
    unfold lines
    cases b.docs with
    | nil =>
      obtain ⟨line, rest, hattributes, hline⟩ := b.shape.startsLine_attributes
      exact ⟨line, rest ++ b.body, by rw [hattributes]; rfl, hline⟩
    | cons doc docs => exact ⟨docLine doc, _, rfl, startsLine_docLine doc⟩
  unfold text
  rw [hlines, linesText_cons, String.append_assoc]
  exact hline.append _

/-- Every block ends with its closing brace. -/
theorem endsLine_text (b : Block) : EndsLine b.text := by
  obtain ⟨start, last, hbody⟩ := b.exists_body_eq
  have hlast : linesText [last ++ "\x7d"] = last ++ "\x7d\n" := by
    rw [linesText_cons, String.append_assoc, String.append_assoc]
    rfl
  unfold text lines
  rw [hbody, linesText_append, linesText_append start, hlast]
  exact EndsLine.prepend (EndsLine.prepend (EndsLine.prepend ⟨[], '}', rfl, by decide⟩ _) _) _

theorem isParagraph (b : Block) : IsParagraph b.text := ⟨b.startsLine_text, b.endsLine_text⟩

theorem text_ne_empty (b : Block) : b.text ≠ "" := b.startsLine_text.ne_empty

end Block

namespace Draft

theorem endsLine_header (unit : String) : EndsLine (header unit) := by
  unfold header
  refine EndsLine.prepend ?_ _
  exact ⟨"use std::collections::\x7bHashMap, HashSet\x7d".toList, ';', by decide +kernel, by decide⟩

/-! ## One step -/

theorem text_addBlock (d : Draft) (b : Block) :
    (d.addBlock b).text = d.text ++ (if d.text ≠ "" then "\n" else "") ++ b.text := by
  unfold addBlock
  by_cases h : d.text = "" <;> simp [h]

theorem text_addBlock_ne_empty (d : Draft) (b : Block) : (d.addBlock b).text ≠ "" := by
  rw [text_addBlock]
  intro hempty
  exact b.text_ne_empty (String.append_eq_empty_iff.mp hempty).2

namespace Step

variable {e : Emitter} {h : Hierarchy}

theorem of_childless (hc : h.children = []) :
    (union h).blocks e = [] ∧ (union h).text e = "" ∧ (union h).count = 0 := by
  have hempty : h.children.isEmpty = true := List.isEmpty_iff.mpr hc
  exact ⟨if_pos hempty, if_pos hempty, if_pos hempty⟩

theorem of_children (hc : h.children ≠ []) :
    (union h).blocks e = e.unionHead h :: h.children.map e.record ∧
      (union h).text e = (e.unionHead h).text ++
        String.join (h.children.map fun d => "\n" ++ (e.record d).text) ∧
      (union h).count = h.children.length + 1 := by
  have hsome : ¬h.children.isEmpty = true := fun hempty => hc (List.isEmpty_iff.mp hempty)
  exact ⟨if_neg hsome, if_neg hsome, if_neg hsome⟩

theorem perform_of_not_header {s : Step} (hs : ∀ unit, s ≠ .header unit) (d : Draft) :
    s.perform e d = d.addBlocks (s.blocks e) := by
  cases s with
  | header unit => exact absurd rfl (hs unit)
  | record r => rfl
  | enumeration r => rfl
  | union g => rfl

theorem length_blocks (s : Step) : (s.blocks e).length = s.count := by
  cases s with
  | header unit => rfl
  | record r => rfl
  | enumeration r => rfl
  | union h =>
    by_cases hc : h.children = []
    · obtain ⟨hblocks, -, hcount⟩ := of_childless (e := e) hc
      rw [hblocks, hcount, List.length_nil]
    · obtain ⟨hblocks, -, hcount⟩ := of_children (e := e) hc
      rw [hblocks, hcount, List.length_cons, List.length_map]

theorem text_perform (d : Draft) (s : Step) :
    (s.perform e d).text =
      d.text ++ (if 0 < s.count ∧ d.text ≠ "" then "\n" else "") ++ s.text e := by
  cases s with
  | header unit => simp [perform, addHeader, count, text]
  | record r => simp [perform, text_addBlock, count, text]
  | enumeration r => simp [perform, text_addBlock, count, text]
  | union h =>
    show (d.addBlocks ((union h).blocks e)).text = _
    by_cases hc : h.children = []
    · obtain ⟨hblocks, htext, hcount⟩ := of_childless (e := e) hc
      rw [hblocks, htext, hcount]
      simp [addBlocks]
    · obtain ⟨hblocks, htext, hcount⟩ := of_children (e := e) hc
      have hrecords := text_addBlocks (d.text_addBlock_ne_empty (e.unionHead h))
        (h.children.map e.record)
      rw [text_addBlock, List.map_map] at hrecords
      rw [hblocks, htext, hcount]
      simp only [Nat.succ_pos, true_and]
      rw [← String.append_assoc]
      exact hrecords

theorem blocks_perform (d : Draft) (s : Step) :
    (s.perform e d).blocks = d.blocks + s.count := by
  cases s with
  | header unit => rfl
  | record r => rfl
  | enumeration r => rfl
  | union h => rw [← length_blocks (e := e), ← blocks_addBlocks]; rfl

theorem endsLine_text {s : Step} (hs : s.text e ≠ "") : EndsLine (s.text e) := by
  cases s with
  | header unit => exact endsLine_header unit
  | record r => exact (e.record r).endsLine_text
  | enumeration r => exact (e.enumeration r).endsLine_text
  | union h =>
    rcases List.eq_nil_or_concat h.children with hc | ⟨children, child, hc⟩
    · exact absurd (of_childless hc).2.1 hs
    · have hsome : h.children ≠ [] := by
        rw [hc]
        simp
      rw [(of_children hsome).2.1, hc, List.concat_eq_append, List.map_append, String.join_append]
      exact ((((e.record child).endsLine_text.prepend _).prepend _)).prepend _

/-- A step that writes nothing writes no block. -/
theorem count_of_text_empty {s : Step} (hs : s.text e = "") : s.count = 0 := by
  cases s with
  | header unit => rfl
  | record r => exact absurd hs (e.record r).text_ne_empty
  | enumeration r => exact absurd hs (e.enumeration r).text_ne_empty
  | union h =>
    by_cases hc : h.children = []
    · exact (of_childless (e := e) hc).2.2
    · rw [(of_children hc).2.1] at hs
      exact absurd (String.append_eq_empty_iff.mp hs).1 (e.unionHead h).text_ne_empty

end Step

/-! ## Runs -/

theorem run_append (e : Emitter) (steps more : List Step) :
    run e (steps ++ more) = more.foldl (Step.perform e) (run e steps) :=
  List.foldl_append

/-- Whatever a run has written ends with one line feed. -/
theorem endsLine_run (e : Emitter) (steps : List Step) :
    (run e steps).text = "" ∨ EndsLine (run e steps).text := by
  induction steps using List.reverseRecOn with
  | nil => exact Or.inl rfl
  | append_singleton steps s ih =>
    rw [run_append, List.foldl_cons, List.foldl_nil, Step.text_perform]
    by_cases hs : s.text e = ""
    · rw [hs, Step.count_of_text_empty hs]
      simpa using ih
    · exact Or.inr ((Step.endsLine_text hs).prepend _)

/-- Without headers a run only adds blocks. -/
theorem foldl_perform_of_no_header (e : Emitter) (d : Draft) {steps : List Step}
    (h : ∀ unit, .header unit ∉ steps) :
    steps.foldl (Step.perform e) d = d.addBlocks (steps.flatMap (Step.blocks e)) := by
  induction steps generalizing d with
  | nil => rfl
  | cons s steps ih =>
    have hs : ∀ unit, s ≠ .header unit := by
      rintro unit rfl
      exact h unit List.mem_cons_self
    have hsteps : ∀ unit, .header unit ∉ steps := fun unit hmem =>
      h unit (List.mem_cons_of_mem _ hmem)
    rw [List.foldl_cons, ih _ hsteps, Step.perform_of_not_header hs, List.flatMap_cons,
      addBlocks_append]

theorem text_addBlocks_consecutive (d : Draft) (before : List Block) (b c : Block)
    (after : List Block) :
    ∃ above below, (d.addBlocks (before ++ b :: c :: after)).text =
      above ++ b.text ++ "\n" ++ c.text ++ below := by
  have hrest := text_addBlocks ((d.addBlocks before).text_addBlock_ne_empty b) (c :: after)
  rw [List.map_cons, String.join_cons, text_addBlock] at hrest
  refine ⟨(d.addBlocks before).text ++ (if (d.addBlocks before).text ≠ "" then "\n" else ""),
    String.join (after.map fun b => "\n" ++ b.text), ?_⟩
  rw [addBlocks_append]
  refine hrest.trans ?_
  simp only [String.append_assoc]

/-- The steps that write a piece. -/
def Step.ofPiece : Piece → List Step
  | .record d => [.record d]
  | .enumeration d => [.enumeration d]
  | .union h => [.union h]
  | .empty _ => []

theorem Step.blocks_ofPiece (e : Emitter) (p : Piece) :
    (ofPiece p).flatMap (blocks e) = p.blocks e := by
  cases p with
  | record d => rfl
  | enumeration d => rfl
  | union h => exact List.append_nil _
  | empty root => rfl

/-- The file of a source unit is what a run writes that starts with its header. -/
theorem content_eq_run {g : Generator} {hs : List Hierarchy} {group : Group} {f : File}
    (h : g.file? hs group = some f) :
    f.content = (run g.emitter
      (.header group.unit :: (Generator.pieces hs group).flatMap Step.ofPiece)).text := by
  have hplain : ∀ unit, .header unit ∉ (Generator.pieces hs group).flatMap Step.ofPiece := by
    intro unit hmem
    obtain ⟨p, -, hp⟩ := List.mem_flatMap.mp hmem
    cases p <;> simp [Step.ofPiece] at hp
  have hblocks : ((Generator.pieces hs group).flatMap Step.ofPiece).flatMap
      (Step.blocks g.emitter) = g.blocks hs group := by
    rw [List.flatMap_assoc]
    exact List.flatMap_congr fun p _ => Step.blocks_ofPiece g.emitter p
  unfold Generator.file? at h
  simp only at h
  split at h
  · cases h
  · obtain rfl := Option.some.inj h
    show _ = (((Generator.pieces hs group).flatMap Step.ofPiece).foldl _
      (empty.addHeader group.unit)).text
    rw [foldl_perform_of_no_header g.emitter _ hplain, hblocks]

/-- A step adds its text and its blocks to whatever a run has written, behind a line feed if it
writes blocks and there is text already. -/
theorem writer_appends_only (e : Emitter) : AppendsOnly e (Step.text e) Step.count where
  text_perform steps := Step.text_perform (run e steps)
  blocks_perform steps := Step.blocks_perform (run e steps)
  header _ := rfl
  record _ := rfl
  enumeration _ := rfl
  childless _ hchildren := ⟨(Step.of_childless (e := e) hchildren).2.2,
    (Step.of_childless hchildren).2.1⟩
  union _ hchildren := ⟨(Step.of_children (e := e) hchildren).2.2.trans (Nat.add_comm _ _),
    (Step.of_children hchildren).2.1⟩
  ends _ := Step.endsLine_text
  written := endsLine_run e
  consecutive steps more hmore before b c after hblocks := by
    obtain ⟨above, below, htext⟩ := text_addBlocks_consecutive (run e steps) before b c after
    refine ⟨above, below, ?_, b.isParagraph, c.isParagraph⟩
    rw [run_append, foldl_perform_of_no_header e _ hmore, hblocks, htext]

end Draft
end Facsimile
