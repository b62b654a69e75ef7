import Facsimile.TypeText
import Mathlib.Data.List.Basic

/-!
# Types read off their texts

What the text of a type tells is its outline: how collections are nested, and the texts of the
leaves.  It tells that much as long as no spelling holds one of the marks that a collection puts
around what it holds.  The text of an outline ends where its outline ends, whatever follows
(`letters_append_inj`), so equal texts have equal outlines, and `fieldTypeText_eq_iff` adds the
option around a nullable type.
-/

namespace Facsimile

inductive Outline where
  | leaf (text : String)
  | list (element : Outline)
  | set (element : Outline)
  | map (key value : Outline)
  deriving DecidableEq, Repr

namespace TypeRef

def outline : TypeRef → Outline
  | .primitive p => .leaf p.text
  | .list element => .list element.outline
  | .set element => .set element.outline
  | .map key value => .map key.outline value.outline
  | .named name => .leaf name
  | .wellKnown _ | .unresolved _ => .leaf "String"

/-- The spellings of the declarations that a type refers to. -/
def names : TypeRef → List String
  | .primitive _ | .wellKnown _ | .unresolved _ => []
  | .list element | .set element => element.names
  | .map key value => key.names ++ value.names
  | .named name => [name]

def HasPlainNames (t : TypeRef) : Prop :=
  ∀ name ∈ t.names, '<' ∉ name.toList ∧ '>' ∉ name.toList ∧ ',' ∉ name.toList

end TypeRef

/-- The characters between a collection and what it holds. -/
def isMark (c : Char) : Bool := c == '<' || c == '>' || c == ','

def IsPlain (s : List Char) : Prop := ∀ c ∈ s, isMark c = false

/-- What may follow the text of a type: nothing, or the end of the part that it stands in. -/
def EndsPart (rest : List Char) : Prop := ∀ c ∈ rest.head?, c = '>' ∨ c = ','

namespace Outline

def letters : Outline → List Char
  | .leaf text => text.toList
  | .list element => "Vec<".toList ++ (element.letters ++ ['>'])
  | .set element => "HashSet<".toList ++ (element.letters ++ ['>'])
  | .map key value => "HashMap<".toList ++ (key.letters ++ ',' :: ' ' :: (value.letters ++ ['>']))

/-- The letters in front of the first mark. -/
def head : Outline → List Char
  | .leaf text => text.toList
  | .list _ => "Vec".toList
  | .set _ => "HashSet".toList
  | .map _ _ => "HashMap".toList

def tail : Outline → List Char
  | .leaf _ => []
  | .list element | .set element => '<' :: (element.letters ++ ['>'])
  | .map key value => '<' :: (key.letters ++ ',' :: ' ' :: (value.letters ++ ['>']))

def HasPlainLeaves : Outline → Prop
  | .leaf text => IsPlain text.toList
  | .list element | .set element => element.HasPlainLeaves
  | .map key value => key.HasPlainLeaves ∧ value.HasPlainLeaves

end Outline

/-! ## Texts of outlines -/

theorem isMark_iff {c : Char} : isMark c = true ↔ c = '<' ∨ c = '>' ∨ c = ',' := by
  simp [isMark, or_assoc]

theorem isPlain_of_not_mem {s : List Char} (h : '<' ∉ s ∧ '>' ∉ s ∧ ',' ∉ s) : IsPlain s := by
  obtain ⟨hopen, hclose, hcomma⟩ := h
  intro c hc
  rw [← Bool.not_eq_true, isMark_iff]
  rintro (rfl | rfl | rfl)
  · exact hopen hc
  · exact hclose hc
  · exact hcomma hc

theorem Primitive.text_isPlain (p : Primitive) : IsPlain p.text.toList := by
  apply isPlain_of_not_mem
  cases p <;> decide

namespace TypeRef

theorem toList_text (t : TypeRef) : t.text.toList = t.outline.letters := by
  induction t with
  | primitive p => rfl
  | list element ih =>
    show ("Vec<" ++ element.text ++ ">").toList = _
    rw [String.toList_append, String.toList_append, ih, List.append_assoc]
    rfl
  | set element ih =>
    show ("HashSet<" ++ element.text ++ ">").toList = _
    rw [String.toList_append, String.toList_append, ih, List.append_assoc]
    rfl
  | map key value ihk ihv =>
    show ("HashMap<" ++ key.text ++ ", " ++ value.text ++ ">").toList = _
    rw [String.toList_append, String.toList_append, String.toList_append, String.toList_append,
      ihk, ihv, List.append_assoc, List.append_assoc, List.append_assoc]
    rfl
  | named name => rfl
  | wellKnown w => cases w <;> rfl
  | unresolved spelling => rfl

theorem HasPlainNames.outline {t : TypeRef} (h : t.HasPlainNames) : t.outline.HasPlainLeaves := by
  have htext : IsPlain "String".toList := isPlain_of_not_mem (by decide)
  induction t with
  | primitive p => exact p.text_isPlain
  | list element ih => exact ih h
  | set element ih => exact ih h
  | map key value ihk ihv =>
    exact ⟨ihk fun name hname => h name (List.mem_append_left _ hname),
      ihv fun name hname => h name (List.mem_append_right _ hname)⟩
  | named name => exact isPlain_of_not_mem (h name (List.mem_singleton_self name))
  | wellKnown w => exact htext
  | unresolved spelling => exact htext

end TypeRef

/-! ## Where the text of an outline ends -/

/-- A text is cut at its first mark in one way. -/
theorem cut_unique {v w r s : List Char} (hv : IsPlain v) (hw : IsPlain w)
    (hr : ∀ c ∈ r.head?, isMark c = true) (hs : ∀ c ∈ s.head?, isMark c = true)
    (h : v ++ r = w ++ s) : v = w ∧ r = s := by
  induction v generalizing w with
  | nil =>
    cases w with
    | nil => exact ⟨rfl, h⟩
    | cons c w =>
      subst h
      have hmark := hr c rfl
      rw [hw c List.mem_cons_self] at hmark
      cases hmark
  | cons a v ih =>
    cases w with
    | nil =>
      have hmark := hs a (by rw [← List.nil_append s, ← h]; rfl)
      rw [hv a List.mem_cons_self] at hmark
      cases hmark
    | cons c w =>
      obtain ⟨rfl, hrest⟩ := List.cons.inj h
      obtain ⟨rfl, hrs⟩ := ih (List.forall_mem_cons.mp hv).2 (List.forall_mem_cons.mp hw).2 hrest
      exact ⟨rfl, hrs⟩

namespace Outline

theorem letters_eq (o : Outline) : o.letters = o.head ++ o.tail := by
  cases o with
  | leaf text => exact (List.append_nil _).symm
  | list element => rfl
  | set element => rfl
  | map key value => rfl

theorem head_isPlain {o : Outline} (h : o.HasPlainLeaves) : IsPlain o.head := by
  cases o with
  | leaf text => exact h
  | list element =>
    show IsPlain "Vec".toList
    exact isPlain_of_not_mem (by decide)
  | set element =>
    show IsPlain "HashSet".toList
    exact isPlain_of_not_mem (by decide)
  | map key value =>
    show IsPlain "HashMap".toList
    exact isPlain_of_not_mem (by decide)

theorem head?_tail_append (o : Outline) {rest : List Char} (h : EndsPart rest) :
    ∀ c ∈ (o.tail ++ rest).head?, isMark c = true := by
  cases o with
  | leaf text =>
    intro c hc
    rcases h c hc with rfl | rfl <;> rfl
  | list element | set element =>
    intro c hc
    cases hc
    rfl
  | map key value =>
    intro c hc
    cases hc
    rfl

theorem cut_letters {o p : Outline} (ho : o.HasPlainLeaves) (hp : p.HasPlainLeaves)
    {r s : List Char} (hr : EndsPart r) (hs : EndsPart s) (h : o.letters ++ r = p.letters ++ s) :
    o.head = p.head ∧ o.tail ++ r = p.tail ++ s := by
  rw [letters_eq, letters_eq, List.append_assoc, List.append_assoc] at h
  exact cut_unique (head_isPlain ho) (head_isPlain hp) (o.head?_tail_append hr)
    (p.head?_tail_append hs) h

/-- A text behind a type does not open a collection. -/
theorem not_opens {rest more : List Char} (h : EndsPart rest) : rest ≠ '<' :: more := by
  rintro rfl
  rcases h '<' rfl with hmark | hmark <;> cases hmark

theorem endsPart_nil : EndsPart [] := by
  intro c hc
  cases hc

theorem endsPart_close (rest : List Char) : EndsPart ('>' :: rest) := by
  intro c hc
  cases hc
  exact Or.inl rfl

theorem endsPart_comma (rest : List Char) : EndsPart (',' :: rest) := by
  intro c hc
  cases hc
  exact Or.inr rfl

theorem set_ne_map : "HashSet".toList ≠ "HashMap".toList := by decide

/-- The text of an outline tells the outline, and where it ends. -/
theorem letters_append_inj {o p : Outline} (ho : o.HasPlainLeaves) (hp : p.HasPlainLeaves)
    {r s : List Char} (hr : EndsPart r) (hs : EndsPart s) (h : o.letters ++ r = p.letters ++ s) :
    o = p ∧ r = s := by
  induction o generalizing p r s with
  | leaf text =>
    obtain ⟨hhead, htail⟩ := cut_letters ho hp hr hs h
    cases p with
    | leaf text' =>
      obtain rfl := String.toList_inj.mp hhead
      exact ⟨rfl, htail⟩
    | list element | set element | map key value => exact absurd htail (not_opens hr)
  | list element ih =>
    obtain ⟨hhead, htail⟩ := cut_letters ho hp hr hs h
    cases p with
    | list element' =>
      have hinside : element.letters ++ '>' :: r = element'.letters ++ '>' :: s := by
        simpa [tail] using htail
      obtain ⟨rfl, hrest⟩ := ih (p := element') ho hp (endsPart_close r) (endsPart_close s) hinside
      exact ⟨rfl, (List.cons.inj hrest).2⟩
    | leaf text' => exact absurd htail.symm (not_opens hs)
    | set element' | map key value => cases hhead
  | set element ih =>
    obtain ⟨hhead, htail⟩ := cut_letters ho hp hr hs h
    cases p with
    | set element' =>
      have hinside : element.letters ++ '>' :: r = element'.letters ++ '>' :: s := by
        simpa [tail] using htail
      obtain ⟨rfl, hrest⟩ := ih (p := element') ho hp (endsPart_close r) (endsPart_close s) hinside
      exact ⟨rfl, (List.cons.inj hrest).2⟩
    | leaf text' => exact absurd htail.symm (not_opens hs)
    | list element' => cases hhead
    | map key value => exact absurd hhead set_ne_map
  | map key value ihk ihv =>
    obtain ⟨hhead, htail⟩ := cut_letters ho hp hr hs h
    cases p with
    | map key' value' =>
      obtain ⟨hok, hov⟩ := ho
      obtain ⟨hpk, hpv⟩ := hp
      have hinside : key.letters ++ ',' :: ' ' :: (value.letters ++ '>' :: r) =
          key'.letters ++ ',' :: ' ' :: (value'.letters ++ '>' :: s) := by
        simpa [tail] using htail
      obtain ⟨rfl, hbehind⟩ := ihk hok hpk (endsPart_comma _) (endsPart_comma _) hinside
      have hvalues := (List.cons.inj (List.cons.inj hbehind).2).2
      obtain ⟨rfl, hrest⟩ := ihv hov hpv (endsPart_close r) (endsPart_close s) hvalues
      exact ⟨rfl, (List.cons.inj hrest).2⟩
    | leaf text' => exact absurd htail.symm (not_opens hs)
    | list element' => cases hhead
    | set element' => exact absurd hhead set_ne_map.symm

end Outline

/-! ## Options -/

/-- The text of a type that is not nullable does not look like an option. -/
theorem isOptional_text {t : TypeRef} (ht : t.HasPlainNames) : isOptional t.text = false := by
  rw [← Bool.not_eq_true]
  intro hoptional
  obtain ⟨rest, hrest⟩ := List.isPrefixOf_iff_prefix.mp hoptional
  rw [t.toList_text, t.outline.letters_eq] at hrest
  have hcut : "Option".toList ++ '<' :: rest = t.outline.head ++ t.outline.tail := hrest
  have hmarks := t.outline.head?_tail_append Outline.endsPart_nil
  rw [List.append_nil] at hmarks
  obtain ⟨hhead, htail⟩ := cut_unique (isPlain_of_not_mem (by decide))
    (Outline.head_isPlain ht.outline) (fun c hc => by cases hc; rfl) hmarks hcut
  cases houtline : t.outline with
  | leaf text =>
    rw [houtline] at htail
    cases htail
  | list element | set element | map key value =>
    rw [houtline] at hhead
    cases hhead

theorem text_inj {t u : TypeRef} (ht : t.HasPlainNames) (hu : u.HasPlainNames) :
    t.text = u.text ↔ t.outline = u.outline := by
  rw [← String.toList_inj, t.toList_text, u.toList_text]
  constructor
  · intro h
    rw [← List.append_nil t.outline.letters, ← List.append_nil u.outline.letters] at h
    exact (Outline.letters_append_inj ht.outline hu.outline Outline.endsPart_nil
      Outline.endsPart_nil h).1
  · intro h
    rw [h]

/-- A text tells whether the type is nullable, and otherwise the outline of the type and no more. -/
theorem fieldTypeText_eq_iff {t u : TypeRef} (ht : t.HasPlainNames) (hu : u.HasPlainNames)
    (m n : Bool) :
    (fieldTypeText t m = fieldTypeText u n ↔ m = n ∧ t.outline = u.outline) ∧
      (isOptional (fieldTypeText t m) = true ↔ m = true) := by
  have hoptional : ∀ {t : TypeRef} (n : Bool), t.HasPlainNames →
      isOptional (fieldTypeText t n) = n := by
    intro t n ht
    cases n with
    | false => exact isOptional_text ht
    | true => exact isOptional_of_nullable t
  refine ⟨?_, by rw [hoptional m ht]⟩
  rw [← text_inj ht hu]
  constructor
  · intro h
    obtain rfl : m = n := by rw [← hoptional m ht, h, hoptional n hu]
    cases m with
    | false => exact ⟨rfl, h⟩
    | true =>
      have hwrapped : optionOpening ++ t.text ++ ">" = optionOpening ++ u.text ++ ">" := h
      rw [String.append_left_inj, String.append_right_inj] at hwrapped
      exact ⟨rfl, hwrapped⟩
  · rintro ⟨rfl, h⟩
    unfold fieldTypeText
    rw [h]

/-- A collection over a declaration with the name of a collection and one without a name. -/
def vecsOfNameless (key : TypeRef) : TypeRef :=
  .map key (.list (.map (.named "Vec") (.set (.named ""))))

/-- A key that was not found reads like text. -/
theorem vecsOfNameless_texts :
    (vecsOfNameless (.primitive .string)).HasPlainNames ∧
      (vecsOfNameless (.unresolved "kotlin.Any")).HasPlainNames ∧
      fieldTypeText (vecsOfNameless (.primitive .string)) true =
        fieldTypeText (vecsOfNameless (.unresolved "kotlin.Any")) true ∧
      fieldTypeText (vecsOfNameless (.primitive .string)) true ≠
        fieldTypeText (vecsOfNameless (.unresolved "kotlin.Any")) false ∧
      isOptional (fieldTypeText (vecsOfNameless (.primitive .string)) true) = true := by
  have hplain : ∀ key : TypeRef, key.names = [] → (vecsOfNameless key).HasPlainNames := by
    intro key hkey name hname
    have hnames : name ∈ ["Vec", ""] := by
      simpa [vecsOfNameless, TypeRef.names, hkey] using hname
    simp only [List.mem_cons, List.not_mem_nil, or_false] at hnames
    rcases hnames with rfl | rfl <;> decide
  have htext := hplain (.primitive .string) rfl
  have hmissing := hplain (.unresolved "kotlin.Any") rfl
  refine ⟨htext, hmissing, ?_, ?_, (fieldTypeText_eq_iff htext hmissing true true).2.mpr rfl⟩
  · exact (fieldTypeText_eq_iff htext hmissing true true).1.mpr ⟨rfl, rfl⟩
  · exact fun h => absurd ((fieldTypeText_eq_iff htext hmissing true false).1.mp h).1 (by decide)

end Facsimile
