import Facsimile.Proofs.SnakeCase

/-!
# Words of a variant name

The name of a variant is the words of an entry, each with a capital and without the underscores
between them.  Where every word starts with a letter the words are found again in it, since a
capital starts each of them and stands nowhere else (`splitBy_variantName`).  So two entries get one
variant name exactly if they have the same words up to case (`variantName_eq_iff`).
-/

namespace Facsimile
namespace Naming

/-- The parts of a name between underscores, without the empty ones. -/
def words (name : String) : List (List Char) :=
  (name.toList.splitOn '_').filter fun part => !part.isEmpty

/-- The words in lower case. -/
def foldedWords (name : String) : List (List Char) :=
  (words name).map fun word => word.map Char.toLower

/-- An ASCII name with a letter at the start of every word. -/
structure IsEntryName (name : String) : Prop where
  ascii : ∀ c ∈ name.toList, Text.isAscii c = true
  letters : ∀ word ∈ words name, word.head?.any Char.isAlpha = true

/-! ## Words written with a capital -/

/-- A word with its first character in upper case and the rest in lower case. -/
def capitalized (word : List Char) : List Char := (word.map Char.toLower).modifyHead Char.toUpper

theorem isEmpty_capitalized (word : List Char) : (capitalized word).isEmpty = word.isEmpty := by
  cases word with
  | nil => rfl
  | cons c cs => rfl

/-- The word is known from its capitalized form up to case. -/
theorem map_toLower_capitalized (word : List Char) :
    (capitalized word).map Char.toLower = word.map Char.toLower := by
  cases word with
  | nil => rfl
  | cons c cs => simp [capitalized]

theorem isAscii_toLower {c : Char} (h : Text.isAscii c = true) : Text.isAscii c.toLower = true := by
  by_cases hupper : c.isUpper = true
  · have hmax : c.toNat ≤ 90 := by
      simp only [Char.isUpper, decide_eq_true_eq, UInt32.le_iff_toNat_le] at hupper
      exact hupper.2
    have hvalid : (c.toNat + 32).isValidChar := Or.inl (by omega)
    rw [Char.toLower_eq_of_isUpper hupper, Text.isAscii, Char.toNat_ofNat, if_pos hvalid]
    exact decide_eq_true (by omega)
  · rw [Char.toLower_eq_of_not_isUpper hupper]
    exact h

theorem upperFirst_lowercase {word : List Char} (h : ∀ c ∈ word, Text.isAscii c = true) :
    Text.upperFirst (Text.lowercase word) = capitalized word := by
  rw [Text.lowercase_of_ascii h]
  cases word with
  | nil => rfl
  | cons c cs =>
    rw [List.map_cons, Text.upperFirst,
      Text.upper_of_ascii (isAscii_toLower (h c List.mem_cons_self))]
    rfl

/-- The name of a variant is the words of the entry with capitals. -/
theorem toList_variantName {name : String} (h : ∀ c ∈ name.toList, Text.isAscii c = true) :
    (variantName name).toList = ((words name).map capitalized).flatten := by
  have hparts : ∀ part ∈ name.toList.splitOn '_',
      Text.upperFirst (Text.lowercase part) = capitalized part := by
    intro part hpart
    exact upperFirst_lowercase fun c hc => h c (Text.exists_mem_splitOn_iff.mp ⟨part, hpart, hc⟩).1
  have hempty : ((fun part : List Char => !part.isEmpty) ∘ capitalized) =
      fun part => !part.isEmpty := by
    funext part
    rw [Function.comp_apply, isEmpty_capitalized]
  calc (variantName name).toList
      = pascal name.toList := String.toList_ofList
    _ = ((name.toList.splitOn '_').map capitalized).flatten := by
        rw [pascal, List.flatMap_congr hparts, List.flatMap_def]
    _ = (((name.toList.splitOn '_').map capitalized).filter fun part => !part.isEmpty).flatten :=
        List.flatten_filter_not_isEmpty.symm
    _ = ((words name).map capitalized).flatten := by rw [List.filter_map, hempty, words]

/-! ## Words found again -/

/-- No capital stands at `c`. -/
def goesOn (_ c : Char) : Bool := !c.isUpper

theorem goesOn_capitalized (word : List Char) :
    (capitalized word).IsChain fun b c => goesOn b c = true := by
  cases word with
  | nil => exact List.isChain_nil
  | cons c cs =>
    have htail : ∀ d ∈ cs.map Char.toLower, d.isUpper = false := by simp
    refine List.Pairwise.isChain (List.pairwise_cons.mpr ⟨fun d hd => ?_, ?_⟩)
    · simp [goesOn, htail d hd]
    · exact List.pairwise_of_forall_mem_list fun b _ d hd => by simp [goesOn, htail d hd]

theorem ne_nil_of_mem_words {name : String} {word : List Char} (h : word ∈ words name) :
    word ≠ [] := by
  intro hnil
  simp [words, hnil] at h

/-- Cut in front of every capital, a variant name falls into the words of its entry. -/
theorem splitBy_variantName {name : String} (h : IsEntryName name) :
    (variantName name).toList.splitBy goesOn = (words name).map capitalized := by
  have hstart : ∀ part ∈ (words name).map capitalized,
      ∃ hne : part ≠ [], (part.head hne).isUpper = true := by
    intro part hpart
    obtain ⟨word, hword, rfl⟩ := List.mem_map.mp hpart
    obtain ⟨c, cs, rfl⟩ := List.exists_cons_of_ne_nil (ne_nil_of_mem_words hword)
    have hletter : c.isAlpha = true := h.letters (c :: cs) hword
    exact ⟨List.cons_ne_nil _ _, by simpa [capitalized] using hletter⟩
  rw [toList_variantName h.ascii]
  refine List.splitBy_flatten ?_ ?_ ?_
  · intro hnil
    obtain ⟨hne, -⟩ := hstart [] hnil
    exact hne rfl
  · intro part hpart
    obtain ⟨word, -, rfl⟩ := List.mem_map.mp hpart
    exact goesOn_capitalized word
  · refine List.Pairwise.isChain (List.pairwise_of_forall_mem_list fun v hv w hw => ?_)
    obtain ⟨hv, -⟩ := hstart v hv
    obtain ⟨hw, hupper⟩ := hstart w hw
    exact ⟨hv, hw, by simp [goesOn, hupper]⟩

theorem map_capitalized_eq_iff {s t : String} :
    (words s).map capitalized = (words t).map capitalized ↔ foldedWords s = foldedWords t := by
  have hfold : ∀ name, ((words name).map capitalized).map (List.map Char.toLower) =
      foldedWords name := by
    intro name
    rw [List.map_map]
    exact List.map_congr_left fun word _ => map_toLower_capitalized word
  have hcapital : ∀ name, (foldedWords name).map (List.modifyHead Char.toUpper) =
      (words name).map capitalized := by
    intro name
    rw [foldedWords, List.map_map]
    rfl
  constructor
  · intro h
    rw [← hfold s, ← hfold t, h]
  · intro h
    rw [← hcapital s, ← hcapital t, h]

/-! ## Underscores -/

/-- A case map without an underscore among its targets makes none of another character. -/
theorem underscore_mem_mapCase {expansions : List (Nat × List Nat)} {runs : List Text.CaseRun}
    (hexpansions : ∀ e ∈ expansions, 95 ∉ e.2)
    (hruns : ∀ r ∈ runs, 95 < r.target ∨ r.target + (r.last - r.first) < 95) {c : Char}
    (h : '_' ∈ Text.mapCase expansions runs c) : c = '_' := by
  have hcode : ∀ n, '_' = Char.ofNat n → n = 95 := by
    intro n hn
    have hnat := congrArg Char.toNat hn
    rw [Char.toNat_ofNat n] at hnat
    split at hnat
    · exact hnat.symm
    · exact absurd hnat (by decide)
  unfold Text.mapCase at h
  split at h
  · rename_i ns hlookup
    obtain ⟨before, after, hsplit, -⟩ := List.lookup_eq_some_iff.mp hlookup
    obtain ⟨n, hn, hchar⟩ := List.mem_map.mp h
    rw [hcode n hchar.symm] at hn
    exact absurd hn (hexpansions (c.toNat, ns) (by rw [hsplit]; simp))
  · split at h
    · rename_i n hrun
      obtain ⟨r, hr, himage⟩ := List.exists_of_findSome?_eq_some hrun
      have hn := hcode n (List.mem_singleton.mp h)
      unfold Text.CaseRun.image? at himage
      split at himage
      · rename_i hwithin
        have htarget := Option.some.inj himage
        rcases hruns r hr with hbelow | habove
        · omega
        · omega
      · cases himage
    · exact (List.mem_singleton.mp h).symm

theorem underscore_mem_upper {c : Char} (h : '_' ∈ Text.upper c) : c = '_' := by
  unfold Text.upper at h
  split at h
  · have hc : c.toUpper = '_' := (List.mem_singleton.mp h).symm
    have hletter : c.isAlpha = false := by rw [← Char.isAlpha_toUpper_eq_isAlpha, hc]; decide
    rw [← hc]
    exact (Char.toUpper_eq_of_not_isLower fun hlower => by
      simp [Char.isAlpha, hlower] at hletter).symm
  · exact underscore_mem_mapCase (by decide +kernel) (by decide +kernel) h

theorem underscore_mem_lower {c : Char} (h : '_' ∈ Text.lower c) : c = '_' := by
  unfold Text.lower at h
  split at h
  · exact (toLower_eq_iff (by decide)).mp (List.mem_singleton.mp h).symm
  · exact underscore_mem_mapCase (by decide +kernel) (by decide +kernel) h

theorem underscore_mem_lowerAfter {before word : List Char}
    (h : '_' ∈ Text.lowerAfter before word) : '_' ∈ word := by
  induction word generalizing before with
  | nil => exact h
  | cons c cs ih =>
    rw [Text.lowerAfter, List.mem_append] at h
    rcases h with hhead | hrest
    · split at hhead
      -- A final sigma.
      · exact absurd (List.mem_singleton.mp hhead) (by decide)
      · rw [underscore_mem_lower hhead]
        exact List.mem_cons_self
    · exact List.mem_cons_of_mem c (ih hrest)

theorem underscore_mem_upperFirst {word : List Char} (h : '_' ∈ Text.upperFirst word) :
    '_' ∈ word := by
  cases word with
  | nil => exact h
  | cons c cs =>
    rw [Text.upperFirst, List.mem_append] at h
    rcases h with hfirst | hrest
    · rw [underscore_mem_upper hfirst]
      exact List.mem_cons_self
    · exact List.mem_cons_of_mem c hrest

/-- No underscore is left, whatever the name. -/
theorem underscore_not_mem_variantName (name : String) : '_' ∉ (variantName name).toList := by
  intro h
  rw [variantName, String.toList_ofList, pascal] at h
  obtain ⟨part, hpart, hmem⟩ := List.mem_flatMap.mp h
  have hlower : '_' ∈ Text.lowerAfter [] part := underscore_mem_upperFirst hmem
  exact Text.not_mem_of_mem_splitOn hpart (underscore_mem_lowerAfter hlower)

/-- Entries get one variant name exactly if their words are the same up to case, and there is no
underscore in it. -/
theorem variantName_eq_iff {s t : String} (hs : IsEntryName s) (ht : IsEntryName t) :
    (variantName s = variantName t ↔ foldedWords s = foldedWords t) ∧
      '_' ∉ (variantName s).toList := by
  refine ⟨⟨fun h => ?_, fun h => ?_⟩, underscore_not_mem_variantName s⟩
  · rw [← map_capitalized_eq_iff, ← splitBy_variantName hs, ← splitBy_variantName ht, h]
  · rw [← String.toList_inj, toList_variantName hs.ascii, toList_variantName ht.ascii,
      map_capitalized_eq_iff.mpr h]

/-- Case and underscores at either end and in pairs do not matter. -/
theorem portNames_eq :
    (IsEntryName "__HTTP_port2_OK_" ∧ IsEntryName "http_Port2__ok") ∧
      variantName "__HTTP_port2_OK_" = variantName "http_Port2__ok" ∧
      '_' ∉ (variantName "__HTTP_port2_OK_").toList := by
  have hloud : IsEntryName "__HTTP_port2_OK_" :=
    ⟨List.all_eq_true.mp (by decide), by decide⟩
  have hquiet : IsEntryName "http_Port2__ok" :=
    ⟨List.all_eq_true.mp (by decide), by decide⟩
  obtain ⟨hiff, hgone⟩ := variantName_eq_iff hloud hquiet
  exact ⟨⟨hloud, hquiet⟩, hiff.mpr (by decide), hgone⟩

end Naming
end Facsimile
