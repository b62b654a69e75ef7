import Facsimile.Proofs.SnakeCase

/-!
# Words of a camel case name

A name in camel case is made of words without anything between them: each is written with a capital
or is an acronym, the first may also be in lower case, and no two acronyms stand side by side.
Snake case finds these words again (`fieldName_of_camelCase`): it sets an underscore between any two
of them, which `startsWord_of_joint` says, and none inside one, which `snakeAfter_word` says.
-/

namespace Facsimile
namespace Naming

def IsLowerWord (word : String) : Prop :=
  word.toList ≠ [] ∧ ∀ c ∈ word.toList, c.isLower = true

/-- A capital with one or more letters in lower case behind it. -/
def IsCapitalized (word : String) : Prop :=
  ∃ c cs, word.toList = c :: cs ∧ c.isUpper = true ∧ cs ≠ [] ∧ ∀ d ∈ cs, d.isLower = true

/-- One or more capitals. -/
def IsAcronym (word : String) : Prop :=
  word.toList ≠ [] ∧ ∀ c ∈ word.toList, c.isUpper = true

structure IsCamelCase (words : List String) : Prop where
  nonempty : words ≠ []
  first : ∀ word ∈ words.head?, IsLowerWord word ∨ IsCapitalized word ∨ IsAcronym word
  others : ∀ word ∈ words.tail, IsCapitalized word ∨ IsAcronym word
  apart : words.IsChain fun v w => ¬(IsAcronym v ∧ IsAcronym w)

/-! ## Inside a word -/

section Inside

variable {cs rest : List Char}

theorem snakeAfter_lower (p : Char) (hcs : ∀ c ∈ cs, c.isLower = true) :
    snakeAfter (some p) (cs ++ rest) =
      cs.map Char.toLower ++ snakeAfter (some (cs.getLastD p)) rest := by
  induction cs generalizing p with
  | nil => rfl
  | cons c cs ih =>
    obtain ⟨hc, hrest⟩ := List.forall_mem_cons.mp hcs
    have hstarts : startsWord (some p) c (cs ++ rest).head? = false :=
      startsWord_of_not_upper (Bool.eq_false_iff.mpr (Char.not_isUpper_of_isLower hc))
    rw [List.cons_append, snakeAfter, hstarts, ih c hrest, List.getLastD_cons]
    rfl

/-- A run of capitals stays one word unless it goes on in lower case. -/
theorem snakeAfter_capitals {p : Char} (hp : p.isUpper = true) (hcs : ∀ c ∈ cs, c.isUpper = true)
    (hnext : rest.head?.any Char.isLower = false) :
    snakeAfter (some p) (cs ++ rest) =
      cs.map Char.toLower ++ snakeAfter (some (cs.getLastD p)) rest := by
  induction cs generalizing p with
  | nil => rfl
  | cons c cs ih =>
    obtain ⟨hc, hrest⟩ := List.forall_mem_cons.mp hcs
    have hfollows : (cs ++ rest).head?.any Char.isLower = false := by
      cases cs with
      | nil => exact hnext
      | cons d ds => simp [Char.not_isLower_of_isUpper (hrest d List.mem_cons_self)]
    have hstarts : startsWord (some p) c (cs ++ rest).head? = false := by
      unfold startsWord
      simp only [hfollows, Option.any_some, Char.not_isLower_of_isUpper hp, Bool.and_false,
        Bool.or_false]
    rw [List.cons_append, snakeAfter, hstarts, ih hc hrest, List.getLastD_cons]
    rfl

/-- Snake case of a word that has text behind it: the word in lower case, set off if a word starts
there. -/
theorem snakeAfter_word {word : String} {c : Char} (hword : word.toList = c :: cs)
    (h : IsLowerWord word ∨ IsCapitalized word ∨ IsAcronym word)
    (hnext : rest.head?.any Char.isLower = false) (prev : Option Char) :
    snakeAfter prev (word.toList ++ rest) =
      (if startsWord prev c (cs ++ rest).head? then ['_'] else []) ++
        word.toList.map Char.toLower ++ snakeAfter (some (cs.getLastD c)) rest := by
  have hinside : snakeAfter (some c) (cs ++ rest) =
      cs.map Char.toLower ++ snakeAfter (some (cs.getLastD c)) rest := by
    rcases h with ⟨-, hlower⟩ | ⟨d, ds, hcap, -, -, hlower⟩ | ⟨-, hupper⟩
    · rw [hword] at hlower
      exact snakeAfter_lower c (List.forall_mem_cons.mp hlower).2
    · rw [hword] at hcap
      cases hcap
      exact snakeAfter_lower c hlower
    · rw [hword] at hupper
      exact snakeAfter_capitals (hupper c List.mem_cons_self)
        (List.forall_mem_cons.mp hupper).2 hnext
  rw [hword, List.cons_append, snakeAfter, hinside]
  split <;> rfl

end Inside

theorem toList_ne_nil_of_word {word : String}
    (h : IsLowerWord word ∨ IsCapitalized word ∨ IsAcronym word) : word.toList ≠ [] := by
  rcases h with ⟨hne, -⟩ | ⟨c, cs, hword, -⟩ | ⟨hne, -⟩
  · exact hne
  · rw [hword]
    exact List.cons_ne_nil c cs
  · exact hne

/-! ## Between words -/

/-- A word that ends with the letter `p` may stand in front of `words`. -/
def Joins (p : Char) (words : List String) : Prop :=
  p.isLower = true ∨ (p.isUpper = true ∧ ∀ word ∈ words.head?, IsCapitalized word)

theorem exists_capital {word : String} (h : IsCapitalized word ∨ IsAcronym word) :
    ∃ c cs, word.toList = c :: cs ∧ c.isUpper = true := by
  rcases h with ⟨c, cs, hword, hc, -⟩ | ⟨hne, hupper⟩
  · exact ⟨c, cs, hword, hc⟩
  · obtain ⟨c, cs, hword⟩ := List.exists_cons_of_ne_nil hne
    exact ⟨c, cs, hword, hupper c (by rw [hword]; exact List.mem_cons_self)⟩

/-- Words without the first one start with a capital. -/
theorem head?_words {words : List String}
    (h : ∀ word ∈ words, IsCapitalized word ∨ IsAcronym word) :
    (words.flatMap String.toList).head?.any Char.isLower = false := by
  cases words with
  | nil => rfl
  | cons word words =>
    obtain ⟨c, cs, hword, hc⟩ := exists_capital (h word List.mem_cons_self)
    rw [List.flatMap_cons, hword]
    simp [Char.not_isLower_of_isUpper hc]

theorem startsWord_of_joint {p c : Char} {cs rest : List Char} {word : String}
    {words : List String} (hjoins : Joins p (word :: words)) (hword : word.toList = c :: cs)
    (hc : c.isUpper = true) : startsWord (some p) c (cs ++ rest).head? = true := by
  rcases hjoins with hlower | ⟨hupper, hnext⟩
  · simp [startsWord, hc, hlower]
  · obtain ⟨d, ds, hcap, -, hne, hlower⟩ := hnext word rfl
    rw [hword] at hcap
    cases hcap
    obtain ⟨e, es, rfl⟩ := List.exists_cons_of_ne_nil hne
    simp [startsWord, hc, hupper, hlower e List.mem_cons_self]

/-- The last letter of a word joins the words behind it, unless acronyms meet. -/
theorem joins_of_word {word : String} {words : List String} {c : Char} {cs : List Char}
    (hword : word.toList = c :: cs) (h : IsLowerWord word ∨ IsCapitalized word ∨ IsAcronym word)
    (hwords : ∀ w ∈ words, IsCapitalized w ∨ IsAcronym w)
    (hapart : (word :: words).IsChain fun v w => ¬(IsAcronym v ∧ IsAcronym w)) :
    Joins (cs.getLastD c) words := by
  rcases h with ⟨-, hlower⟩ | ⟨d, ds, hcap, -, hne, hlower⟩ | ⟨hne, hupper⟩
  · left
    rw [hword] at hlower
    exact hlower _ List.getLastD_mem_cons
  · left
    rw [hword] at hcap
    cases hcap
    obtain ⟨e, es, rfl⟩ := List.exists_cons_of_ne_nil hne
    rw [List.getLastD_cons]
    exact hlower _ List.getLastD_mem_cons
  · right
    refine ⟨hupper _ (by rw [hword]; exact List.getLastD_mem_cons), fun next hnext => ?_⟩
    refine (hwords next (List.mem_of_mem_head? hnext)).resolve_right fun hacronym => ?_
    exact (List.isChain_cons.mp hapart).1 next hnext ⟨⟨hne, hupper⟩, hacronym⟩

/-- Behind a letter that joins them, each of the words is set off. -/
theorem snakeAfter_words {p : Char} {words : List String} (hjoins : Joins p words)
    (hwords : ∀ word ∈ words, IsCapitalized word ∨ IsAcronym word)
    (hapart : words.IsChain fun v w => ¬(IsAcronym v ∧ IsAcronym w)) :
    snakeAfter (some p) (words.flatMap String.toList) =
      words.flatMap fun word => '_' :: word.toList.map Char.toLower := by
  induction words generalizing p with
  | nil => rfl
  | cons word words ih =>
    obtain ⟨hfirst, hothers⟩ := List.forall_mem_cons.mp hwords
    obtain ⟨c, cs, hword, hc⟩ := exists_capital hfirst
    have hstarts : startsWord (some p) c (cs ++ words.flatMap String.toList).head? = true :=
      startsWord_of_joint hjoins hword hc
    have hnext := joins_of_word hword (Or.inr hfirst) hothers hapart
    rw [List.flatMap_cons, snakeAfter_word hword (Or.inr hfirst) (head?_words hothers), hstarts,
      ih hnext hothers (List.isChain_cons.mp hapart).2, List.flatMap_cons]
    rfl

/-- Snake case of a name in camel case is its words in lower case with an underscore between any
two. -/
theorem fieldName_of_camelCase {words : List String} (h : IsCamelCase words) :
    fieldName (String.join words) = "_".intercalate (words.map String.toLower) := by
  obtain ⟨hne, hfirst, hothers, hapart⟩ := h
  obtain ⟨word, words, rfl⟩ := List.exists_cons_of_ne_nil hne
  have hword := hfirst word rfl
  rw [List.tail_cons] at hothers
  obtain ⟨c, cs, hletters⟩ := List.exists_cons_of_ne_nil (toList_ne_nil_of_word hword)
  have hrest := snakeAfter_words (joins_of_word hletters hword hothers hapart) hothers
    (List.isChain_cons.mp hapart).2
  rw [← String.toList_inj, String.toList_intercalate, List.map_map, List.map_cons,
    intercalate_eq_flatMap, List.flatMap_map]
  unfold fieldName
  rw [String.toList_ofList, String.toList_join, List.flatMap_cons,
    snakeAfter_word hletters hword (head?_words hothers), hrest]
  simp [startsWord, String.toLower, String.toList_map]

/-- A first word in lower case, acronyms in front of and behind words with a capital, and an acronym
of one letter at the end. -/
def parserWords : List String := ["get", "HTML", "As", "X", "Path", "B"]

theorem parserWords_found : IsCamelCase parserWords ∧
    fieldName (String.join parserWords) = "_".intercalate (parserWords.map String.toLower) ∧
    String.join parserWords = "getHTMLAsXPathB" := by
  have hget : IsLowerWord "get" := ⟨by decide, List.all_eq_true.mp (by decide)⟩
  have hhtml : IsAcronym "HTML" := ⟨by decide, List.all_eq_true.mp (by decide)⟩
  have has : IsCapitalized "As" :=
    ⟨'A', ['s'], rfl, by decide, by decide, List.all_eq_true.mp (by decide)⟩
  have hx : IsAcronym "X" := ⟨by decide, List.all_eq_true.mp (by decide)⟩
  have hpath : IsCapitalized "Path" :=
    ⟨'P', ['a', 't', 'h'], rfl, by decide, by decide, List.all_eq_true.mp (by decide)⟩
  have hb : IsAcronym "B" := ⟨by decide, List.all_eq_true.mp (by decide)⟩
  have hcamel : IsCamelCase parserWords := by
    constructor
    case nonempty => exact List.cons_ne_nil _ _
    case first =>
      intro word hword
      cases hword
      exact Or.inl hget
    case others =>
      simp only [parserWords, List.tail_cons, List.forall_mem_cons]
      exact ⟨Or.inr hhtml, Or.inl has, Or.inr hx, Or.inl hpath, Or.inr hb, by simp⟩
    case apart =>
      simp [parserWords, IsAcronym]
  exact ⟨hcamel, fieldName_of_camelCase hcamel, by decide⟩

end Naming
end Facsimile
