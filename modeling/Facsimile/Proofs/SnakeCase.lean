import Facsimile.Naming.Convert
import Mathlib

/-!
# Words in snake case

Snake case sets an underscore where a word starts inside a name.  A name of letters that gets none
is one word, which is written in lower case, with a capital, or in capitals
(`mem_spellings_of_snake`).
-/

namespace Facsimile
namespace Naming

/-- Only the character itself becomes one that is no letter. -/
theorem toLower_eq_iff {c d : Char} (hd : d.isAlpha = false) : c.toLower = d ↔ c = d := by
  have hkept : c.isAlpha = false → c.toLower = c := by
    intro hc
    exact Char.toLower_eq_of_not_isUpper fun hupper => by simp [Char.isAlpha, hupper] at hc
  constructor
  · intro h
    have hc : c.isAlpha = false := by rw [← Char.isAlpha_toLower_eq_isAlpha, h, hd]
    rw [← hkept hc, h]
  · intro h
    rw [hkept (by rw [h, hd]), h]

theorem startsWord_of_not_upper {prev : Option Char} {c : Char} {next : Option Char}
    (h : c.isUpper = false) : startsWord prev c next = false := by
  rw [startsWord, h, Bool.false_and]

theorem snakeAfter_none_cons (c : Char) (cs : List Char) :
    snakeAfter none (c :: cs) = c.toLower :: snakeAfter (some c) cs := by
  have hstarts : startsWord none c cs.head? = false := by simp [startsWord]
  rw [snakeAfter, hstarts]
  rfl

theorem snakeAfter_of_not_upper (prev : Option Char) {s : List Char}
    (h : ∀ c ∈ s, c.isUpper = false) : snakeAfter prev s = s := by
  induction s generalizing prev with
  | nil => rfl
  | cons c cs ih =>
    obtain ⟨hc, hcs⟩ := List.forall_mem_cons.mp h
    have hkept : c.toLower = c := Char.toLower_eq_of_not_isUpper (Bool.eq_false_iff.mp hc)
    rw [snakeAfter, startsWord_of_not_upper hc, ih (some c) hcs, hkept]
    rfl

theorem startsWord_of_snake {prev : Option Char} {c : Char} {cs : List Char}
    (h : '_' ∉ snakeAfter prev (c :: cs)) :
    startsWord prev c cs.head? = false ∧ '_' ∉ snakeAfter (some c) cs := by
  rw [snakeAfter, List.mem_append, not_or] at h
  refine ⟨?_, h.2⟩
  cases hstarts : startsWord prev c cs.head? with
  | false => rfl
  | true =>
    rw [hstarts] at h
    exact absurd List.mem_cons_self h.1

/-- Where no word starts, snake case is lower case. -/
theorem snakeAfter_eq_map {prev : Option Char} {s : List Char} (h : '_' ∉ snakeAfter prev s) :
    snakeAfter prev s = s.map Char.toLower := by
  induction s generalizing prev with
  | nil => rfl
  | cons c cs ih =>
    obtain ⟨hstarts, hrest⟩ := startsWord_of_snake h
    rw [snakeAfter, hstarts, ih hrest]
    rfl

theorem intercalate_eq_flatMap (sep word : List Char) (words : List (List Char)) :
    sep.intercalate (word :: words) = word ++ words.flatMap (sep ++ ·) := by
  induction words generalizing word with
  | nil => simp
  | cons next words ih =>
    rw [List.intercalate_cons_cons, ih, List.flatMap_cons, List.append_assoc, List.append_assoc]

/-! ## Names of one word -/

/-- A word in lower case, with a capital, and in capitals. -/
def spellings (word : List Char) : List (List Char) :=
  [word, word.modifyHead Char.toUpper, word.map Char.toUpper]

theorem isUpper_of_not_isLower {c : Char} (halpha : c.isAlpha = true) (h : c.isLower = false) :
    c.isUpper = true := by
  simpa [Char.isAlpha, h] using halpha

theorem lower_behind_lower {p : Char} (hp : p.isLower = true) {s : List Char}
    (halpha : ∀ c ∈ s, c.isAlpha = true) (h : '_' ∉ snakeAfter (some p) s) :
    ∀ c ∈ s, c.isLower = true := by
  induction s generalizing p with
  | nil => simp
  | cons c cs ih =>
    obtain ⟨hstarts, hrest⟩ := startsWord_of_snake h
    obtain ⟨hletter, hletters⟩ := List.forall_mem_cons.mp halpha
    have hc : c.isLower = true := by
      by_contra hno
      have hupper := isUpper_of_not_isLower hletter (Bool.eq_false_iff.mpr hno)
      simp [startsWord, hupper, hp] at hstarts
    exact List.forall_mem_cons.mpr ⟨hc, ih hc hletters hrest⟩

/-- Behind a capital a word goes on in lower case to its end, or in capitals. -/
theorem uniform_behind_upper {p : Char} (hp : p.isUpper = true) {s : List Char}
    (halpha : ∀ c ∈ s, c.isAlpha = true) (h : '_' ∉ snakeAfter (some p) s) :
    (∀ c ∈ s, c.isLower = true) ∨ ∀ c ∈ s, c.isUpper = true := by
  induction s generalizing p with
  | nil => simp
  | cons c cs ih =>
    obtain ⟨hstarts, hrest⟩ := startsWord_of_snake h
    obtain ⟨hletter, hletters⟩ := List.forall_mem_cons.mp halpha
    cases hc : c.isLower with
    | true =>
      left
      exact List.forall_mem_cons.mpr ⟨hc, lower_behind_lower hc hletters hrest⟩
    | false =>
      right
      have hupper := isUpper_of_not_isLower hletter hc
      refine List.forall_mem_cons.mpr ⟨hupper, ?_⟩
      rcases ih hupper hletters hrest with hlower | hcapitals
      · cases cs with
        | nil => simp
        | cons d ds =>
          -- A capital between a capital and a letter in lower case starts a word.
          simp [startsWord, hupper, hp, hlower d List.mem_cons_self] at hstarts
      · exact hcapitals

theorem map_toLower_of_lower {s : List Char} (h : ∀ c ∈ s, c.isLower = true) :
    s.map Char.toLower = s := by
  calc s.map Char.toLower = s.map id := List.map_congr_left fun c hc =>
        Char.toLower_eq_of_not_isUpper (Char.not_isUpper_of_isLower (h c hc))
    _ = s := List.map_id s

theorem toUpper_toLower_of_upper {c : Char} (h : c.isUpper = true) : c.toLower.toUpper = c := by
  rw [Char.toUpper_toLower_eq_toUpper]
  exact Char.toUpper_eq_of_not_isLower (Char.not_isLower_of_isUpper h)

theorem map_toUpper_of_upper {s : List Char} (h : ∀ c ∈ s, c.isUpper = true) :
    (s.map Char.toLower).map Char.toUpper = s := by
  rw [List.map_map]
  calc s.map (Char.toUpper ∘ Char.toLower) = s.map id := List.map_congr_left fun c hc =>
        toUpper_toLower_of_upper (h c hc)
    _ = s := List.map_id s

/-- A name of letters in which no word starts is one of the spellings of its lower case. -/
theorem mem_spellings_of_snake {s : List Char} (halpha : ∀ c ∈ s, c.isAlpha = true)
    (h : '_' ∉ snakeAfter none s) : s ∈ spellings (s.map Char.toLower) := by
  cases s with
  | nil => exact List.mem_cons_self
  | cons c cs =>
    have hrest := (startsWord_of_snake h).2
    obtain ⟨hletter, hletters⟩ := List.forall_mem_cons.mp halpha
    simp only [spellings, List.mem_cons, List.not_mem_nil, or_false]
    cases hc : c.isLower with
    | true =>
      left
      have hlower := lower_behind_lower hc hletters hrest
      exact (map_toLower_of_lower (List.forall_mem_cons.mpr ⟨hc, hlower⟩)).symm
    | false =>
      right
      have hupper := isUpper_of_not_isLower hletter hc
      rcases uniform_behind_upper hupper hletters hrest with hlower | hcapitals
      · left
        rw [List.map_cons, List.modifyHead_cons, toUpper_toLower_of_upper hupper,
          map_toLower_of_lower hlower]
      · right
        exact (map_toUpper_of_upper (List.forall_mem_cons.mpr ⟨hupper, hcapitals⟩)).symm

end Naming
end Facsimile
