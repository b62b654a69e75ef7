import Facsimile.Proofs.SnakeCase

/-!
# Underscores in snake case

Snake case cuts a text between a letter and a capital, wherever the letter is in lower case and at
some more places, sets an underscore at each cut, and writes the whole in lower case.  Nothing else
is changed: digits, underscores and characters beyond ASCII are kept, and no underscore comes next
to another one or to an end.  `fieldName_sets_underscores` says so for every text, and that a second
conversion changes nothing.
-/

namespace Facsimile
namespace Naming

/-- A letter, and a capital behind it. -/
def LetterBeforeCapital (left right : List Char) : Prop :=
  (∃ p ∈ left.getLast?, p.isAlpha = true) ∧ ∃ c ∈ right.head?, c.isUpper = true

/-- No capital behind a letter in lower case. -/
def Undivided (part : List Char) : Prop :=
  part.IsChain fun a b => ¬(a.isLower = true ∧ b.isUpper = true)

/-- `out` is `s` in lower case with an underscore wherever `s` is cut. -/
def SetsUnderscores (s out : List Char) : Prop :=
  ∃ parts : List (List Char), parts.flatten = s ∧ [] ∉ parts ∧
    parts.IsChain LetterBeforeCapital ∧ (∀ part ∈ parts, Undivided part) ∧
    out = ['_'].intercalate (parts.map fun part => part.map Char.toLower)

/-- No underscore at either end, and no two side by side. -/
structure IsTidy (s : List Char) : Prop where
  start : s.head? ≠ some '_'
  finish : s.getLast? ≠ some '_'
  apart : s.IsChain fun a b => ¬(a = '_' ∧ b = '_')

theorem startsWord_eq_true {p c : Char} {next : Option Char}
    (h : startsWord (some p) c next = true) : p.isAlpha = true ∧ c.isUpper = true := by
  unfold startsWord at h
  rw [Bool.and_eq_true, Bool.or_eq_true, Option.any_some, Option.any_some, Bool.and_eq_true] at h
  obtain ⟨hc, hlower | ⟨hupper, -⟩⟩ := h
  · exact ⟨by simp [Char.isAlpha, hlower], hc⟩
  · exact ⟨by simp [Char.isAlpha, hupper], hc⟩

theorem not_lower_upper_of_startsWord {p c : Char} {next : Option Char}
    (h : startsWord (some p) c next = false) : ¬(p.isLower = true ∧ c.isUpper = true) := by
  intro hcase
  simp [startsWord, hcase.1, hcase.2] at h

/-! ## The cuts -/

/-- Behind a character the text goes on with the rest of the part that the character is in, and with
parts that are set off. -/
theorem exists_parts (c : Char) (cs : List Char) :
    ∃ first parts, first ++ parts.flatten = cs ∧ [] ∉ parts ∧
      ((c :: first) :: parts).IsChain LetterBeforeCapital ∧
      Undivided (c :: first) ∧ (∀ part ∈ parts, Undivided part) ∧
      snakeAfter (some c) cs =
        first.map Char.toLower ++ parts.flatMap fun part => '_' :: part.map Char.toLower := by
  induction cs generalizing c with
  | nil =>
    exact ⟨[], [], rfl, List.not_mem_nil, List.isChain_singleton _, List.isChain_singleton _,
      List.forall_mem_nil _, rfl⟩
  | cons d ds ih =>
    obtain ⟨first, parts, hflat, hne, hchain, hfirst, hparts, hsnake⟩ := ih d
    cases hstarts : startsWord (some c) d ds.head? with
    | true =>
      -- The part that starts at `d` is set off, and `c` ends the one before it.
      obtain ⟨hletter, hcapital⟩ := startsWord_eq_true hstarts
      have hcut : LetterBeforeCapital [c] (d :: first) := ⟨⟨c, rfl, hletter⟩, d, rfl, hcapital⟩
      refine ⟨[], (d :: first) :: parts, ?_, ?_, List.isChain_cons_cons.mpr ⟨hcut, hchain⟩,
        List.isChain_singleton _, List.forall_mem_cons.mpr ⟨hfirst, hparts⟩, ?_⟩
      · rw [List.flatten_cons, List.cons_append, hflat, List.nil_append]
      · simpa using hne
      · rw [snakeAfter, hstarts, hsnake]
        rfl
    | false =>
      have hjoined : Undivided (c :: d :: first) :=
        List.isChain_cons_cons.mpr ⟨not_lower_upper_of_startsWord hstarts, hfirst⟩
      refine ⟨d :: first, parts, ?_, hne, ?_, hjoined, hparts, ?_⟩
      · rw [List.cons_append, hflat]
      · cases parts with
        | nil => exact List.isChain_singleton _
        | cons part parts =>
          obtain ⟨⟨hletter, hcapital⟩, hrest⟩ := List.isChain_cons_cons.mp hchain
          rw [← List.getLast?_cons_cons] at hletter
          exact List.isChain_cons_cons.mpr ⟨⟨hletter, hcapital⟩, hrest⟩
      · rw [snakeAfter, hstarts, hsnake]
        rfl

theorem setsUnderscores_snakeAfter (s : List Char) : SetsUnderscores s (snakeAfter none s) := by
  cases s with
  | nil =>
    exact ⟨[], rfl, List.not_mem_nil, List.isChain_nil, List.forall_mem_nil _, rfl⟩
  | cons c cs =>
    obtain ⟨first, parts, hflat, hne, hchain, hfirst, hparts, hsnake⟩ := exists_parts c cs
    refine ⟨(c :: first) :: parts, ?_, by simpa using hne, hchain,
      List.forall_mem_cons.mpr ⟨hfirst, hparts⟩, ?_⟩
    · rw [List.flatten_cons, List.cons_append, hflat]
    · rw [List.map_cons, intercalate_eq_flatMap, List.flatMap_map, snakeAfter_none_cons, hsnake]
      rfl

/-! ## Case -/

theorem isUpper_snakeAfter (prev : Option Char) (s : List Char) :
    ∀ c ∈ snakeAfter prev s, c.isUpper = false := by
  induction s generalizing prev with
  | nil => simp [snakeAfter]
  | cons d ds ih =>
    rw [snakeAfter, List.forall_mem_append]
    refine ⟨?_, ih (some d)⟩
    split
    · simp
    · simp

theorem fieldName_fieldName (s : String) : fieldName (fieldName s) = fieldName s := by
  unfold fieldName
  rw [String.toList_ofList, snakeAfter_of_not_upper none (isUpper_snakeAfter none s.toList)]

/-! ## Underscores at the ends and side by side -/

theorem toLower_ne_underscore {c : Char} (h : c ≠ '_') : c.toLower ≠ '_' :=
  fun heq => h ((toLower_eq_iff (by decide)).mp heq)

theorem ne_underscore_of_isAlpha {c : Char} (h : c.isAlpha = true) : c ≠ '_' := by
  intro heq
  subst heq
  exact absurd h (by decide)

theorem head?_snakeAfter (s : List Char) :
    (snakeAfter none s).head? = s.head?.map Char.toLower := by
  cases s with
  | nil => rfl
  | cons c cs =>
    rw [snakeAfter_none_cons]
    rfl

theorem getLast?_snakeAfter (prev : Option Char) (s : List Char) :
    (snakeAfter prev s).getLast? = s.getLast?.map Char.toLower := by
  induction s generalizing prev with
  | nil => rfl
  | cons c cs ih =>
    have hhead : (if startsWord prev c cs.head? then ['_', c.toLower] else [c.toLower]).getLast? =
        some c.toLower := by
      split
      · rfl
      · rfl
    rw [snakeAfter, List.getLast?_append, ih, hhead, List.getLast?_cons]
    cases cs.getLast? with
    | none => rfl
    | some d => rfl

/-- An underscore that is set has a letter on either side. -/
theorem apart_snakeAfter {c : Char} {cs : List Char}
    (h : (c :: cs).IsChain fun a b => ¬(a = '_' ∧ b = '_')) :
    (c.toLower :: snakeAfter (some c) cs).IsChain fun a b => ¬(a = '_' ∧ b = '_') := by
  induction cs generalizing c with
  | nil => exact List.isChain_singleton _
  | cons d ds ih =>
    obtain ⟨hpair, hrest⟩ := List.isChain_cons_cons.mp h
    have hbehind := ih hrest
    cases hstarts : startsWord (some c) d ds.head? with
    | true =>
      obtain ⟨hletter, hcapital⟩ := startsWord_eq_true hstarts
      have hbefore := toLower_ne_underscore (ne_underscore_of_isAlpha hletter)
      have hafter := toLower_ne_underscore
        (ne_underscore_of_isAlpha (by simp [Char.isAlpha, hcapital] : d.isAlpha = true))
      rw [snakeAfter, hstarts]
      exact List.isChain_cons_cons.mpr ⟨fun heq => hbefore heq.1,
        List.isChain_cons_cons.mpr ⟨fun heq => hafter heq.2, hbehind⟩⟩
    | false =>
      have hlower : ¬(c.toLower = '_' ∧ d.toLower = '_') := by
        rwa [toLower_eq_iff (by decide), toLower_eq_iff (by decide)]
      rw [snakeAfter, hstarts]
      exact List.isChain_cons_cons.mpr ⟨hlower, hbehind⟩

theorem isTidy_snakeAfter {s : List Char} (h : IsTidy s) : IsTidy (snakeAfter none s) := by
  have hend : ∀ {o : Option Char}, o ≠ some '_' → o.map Char.toLower ≠ some '_' := by
    intro o ho hmap
    obtain ⟨c, rfl, hc⟩ := Option.map_eq_some_iff.mp hmap
    exact toLower_ne_underscore (fun heq => ho (by rw [heq])) hc
  obtain ⟨hstart, hfinish, hapart⟩ := h
  constructor
  case start =>
    rw [head?_snakeAfter]
    exact hend hstart
  case finish =>
    rw [getLast?_snakeAfter]
    exact hend hfinish
  case apart =>
    cases s with
    | nil => exact List.isChain_nil
    | cons c cs =>
      rw [snakeAfter_none_cons]
      exact apart_snakeAfter hapart

/-- Snake case of any text has no capitals, differs from the text by case and by underscores between
a letter and a capital only, has none at an end and no two side by side if the text has not, and is
its own snake case. -/
theorem fieldName_sets_underscores (s : String) :
    (∀ c ∈ (fieldName s).toList, c.isUpper = false) ∧
      SetsUnderscores s.toList (fieldName s).toList ∧
      (IsTidy s.toList → IsTidy (fieldName s).toList) ∧
      fieldName (fieldName s) = fieldName s := by
  have hname : (fieldName s).toList = snakeAfter none s.toList := by
    unfold fieldName
    rw [String.toList_ofList]
  rw [hname]
  exact ⟨isUpper_snakeAfter none s.toList, setsUnderscores_snakeAfter s.toList, isTidy_snakeAfter,
    fieldName_fieldName s⟩

/-- A letter beyond ASCII and a digit in front of a capital, and an underscore of its own. -/
theorem pageName_tidy :
    IsTidy "getÉTat_HTMLPage2X".toList ∧ IsTidy (fieldName "getÉTat_HTMLPage2X").toList ∧
      fieldName "getÉTat_HTMLPage2X" = "getÉtat_html_page2x" := by
  have htidy : IsTidy "getÉTat_HTMLPage2X".toList := by
    constructor
    case start => decide
    case finish => decide
    case apart => decide
  exact ⟨htidy, (fieldName_sets_underscores "getÉTat_HTMLPage2X").2.2.1 htidy, by decide⟩

end Naming
end Facsimile
