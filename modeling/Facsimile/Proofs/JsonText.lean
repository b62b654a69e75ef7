import Facsimile.Json.Reader
import Facsimile.Proofs.Literal

/-!
# Documents are read back

The text of a document is cut into the tokens of the document, and these lead the reader to the
document again.  This is said of documents that are plain: their names and strings are text, and
their numbers are integers of 64 bits.
-/

namespace Facsimile
namespace Json

/-! ## Numbers -/

/-- An integer of 64 bits, signed or unsigned. -/
structure Fits (n : Int) : Prop where
  least : -((Nat.pow 2 63 : Nat) : Int) ≤ n
  greatest : n < ((Nat.pow 2 64 : Nat) : Int)

theorem digitValue_digitChar : ∀ d < 10, Text.digitValue (Nat.digitChar d) = d := by
  decide

/-- The digits of a number of 64 bits are taken up whole. -/
theorem appendDigits_toDigits (n : Nat) :
    ∀ cs : List Char, n < Nat.pow 2 64 →
      appendDigits 0 (Nat.toDigits 10 n ++ cs) = appendDigits n cs := by
  induction n using Nat.base_induction 10 (by decide) with
  | single d hd =>
    intro cs hn
    rw [Nat.toDigits_of_lt_base hd]
    show appendDigits 0 (Nat.digitChar d :: cs) = _
    rw [appendDigits, digitValue_digitChar d hd, Nat.mul_zero, Nat.zero_add]
    exact if_pos hn
  | digit m d hd hm ih =>
    intro cs hn
    have hsplit := Nat.toDigits_append_toDigits (by decide : 1 < 10) hm hd
    rw [Nat.toDigits_of_lt_base hd] at hsplit
    rw [← hsplit, List.append_assoc, ih _ (by omega)]
    show appendDigits m (Nat.digitChar d :: cs) = _
    rw [appendDigits, digitValue_digitChar d hd]
    exact if_pos hn

theorem appendDigits_all {n : Nat} (hn : n < Nat.pow 2 64) :
    appendDigits 0 (Nat.toDigits 10 n) = (n, 0) := by
  have h := appendDigits_toDigits n [] hn
  rwa [List.append_nil] at h

theorem digitChar_ne_zero : ∀ d < 10, d ≠ 0 → Nat.digitChar d ≠ '0' := by
  decide

theorem head?_toDigits {n : Nat} (hn : n ≠ 0) : (Nat.toDigits 10 n).head? ≠ some '0' := by
  induction n using Nat.base_induction 10 (by decide) with
  | single d hd =>
    rw [Nat.toDigits_of_lt_base hd]
    intro h
    exact digitChar_ne_zero d hd hn (Option.some.inj h)
  | digit m d hd hm ih =>
    have hsplit := Nat.toDigits_append_toDigits (by decide : 1 < 10) hm hd
    have hne : Nat.toDigits 10 m ≠ [] := List.ne_nil_of_length_pos Nat.length_toDigits_pos
    obtain ⟨c, cs, hm'⟩ := List.exists_cons_of_ne_nil hne
    rw [← hsplit, hm']
    rw [hm'] at ih
    exact ih (Nat.pos_iff_ne_zero.mp hm)

/-- A text that a number does not go on with. -/
def Closes (rest : List Char) : Prop := ∀ c ∈ rest.head?, c = ',' ∨ c = ']' ∨ c = '}'

theorem closes_cons {c : Char} (h : c = ',' ∨ c = ']' ∨ c = '}') (rest : List Char) :
    Closes (c :: rest) := by
  rintro d ⟨⟩
  exact h

theorem digits_toDigits (n : Nat) {rest : List Char} (h : Closes rest) :
    Token.digits (Nat.toDigits 10 n ++ rest) = Nat.toDigits 10 n ∧
      Token.afterDigits (Nat.toDigits 10 n ++ rest) = rest := by
  have hdigits : ∀ c ∈ Nat.toDigits 10 n, c.isDigit = true :=
    fun c hc => Nat.isDigit_of_mem_toDigits (by decide) (by decide) hc
  unfold Token.digits Token.afterDigits
  rw [List.takeWhile_append_of_pos hdigits, List.dropWhile_append_of_pos hdigits]
  cases rest with
  | nil => exact ⟨List.append_nil _, rfl⟩
  | cons c rest =>
    have hc : c.isDigit = false := by
      rcases h c rfl with rfl | rfl | rfl <;> rfl
    rw [List.takeWhile_cons_of_neg (by rw [hc]; decide),
      List.dropWhile_cons_of_neg (by rw [hc]; decide), List.append_nil]
    exact ⟨rfl, rfl⟩

theorem fraction?_of_closes {rest : List Char} (h : Closes rest) :
    Token.fraction? rest = some (false, [], rest) := by
  cases rest with
  | nil => rfl
  | cons c rest => rcases h c rfl with rfl | rfl | rfl <;> rfl

theorem exponent?_of_closes {rest : List Char} (h : Closes rest) :
    Token.exponent? rest = some (none, rest) := by
  cases rest with
  | nil => rfl
  | cons c rest => rcases h c rfl with rfl | rfl | rfl <;> rfl

theorem unsigned?_toDigits (negative : Bool) (n : Nat) {rest : List Char} (h : Closes rest) :
    Token.unsigned? negative (Nat.toDigits 10 n ++ rest) =
      some ((NumberText.mk negative (Nat.toDigits 10 n) [] none false).value?, rest) := by
  obtain ⟨hdigits, hafter⟩ := digits_toDigits n h
  have hproper : ¬(Nat.toDigits 10 n = [] ∨
      ((Nat.toDigits 10 n).head? = some '0' ∧ (Nat.toDigits 10 n).length ≠ 1)) := by
    rintro (hnil | ⟨hzero, hlength⟩)
    · exact List.ne_nil_of_length_pos Nat.length_toDigits_pos hnil
    · by_cases hn : n = 0
      · subst hn
        exact hlength rfl
      · exact head?_toDigits hn hzero
  unfold Token.unsigned?
  rw [hdigits, hafter, if_neg hproper]
  simp only [fraction?_of_closes h, exponent?_of_closes h]

theorem value?_natural {n : Nat} (hn : n < Nat.pow 2 64) :
    (NumberText.mk false (Nat.toDigits 10 n) [] none false).value? = some (.integer n) := by
  unfold NumberText.value?
  simp only [appendDigits_all hn]
  rfl

theorem value?_negative {n : Nat} (hpos : 0 < n) (hn : n ≤ Nat.pow 2 63) :
    (NumberText.mk true (Nat.toDigits 10 n) [] none false).value? =
      some (.integer (-(n : Int))) := by
  have hbits : n < Nat.pow 2 64 := Nat.lt_of_le_of_lt hn (by decide)
  unfold NumberText.value?
  simp only [appendDigits_all hbits]
  have hfits : 0 < n ∧ n ≤ Nat.pow 2 63 := ⟨hpos, hn⟩
  rw [if_pos ⟨trivial, trivial, trivial⟩, if_neg (by decide), if_pos hfits]

/-! ## Strings -/

theorem hexCode?_control :
    ∀ n < 0x20,
      Token.hexCode? '0' '0' (Nat.digitChar (n / 16)) (Nat.digitChar (n % 16)) = some n := by
  decide

theorem stringCodes?_letter {e : Char} {n : Nat} (hu : e ≠ 'u')
    (he : Token.escapeCode? e = some n) (s : List Char) :
    Token.stringCodes? ('\\' :: e :: s) =
      (Token.stringCodes? s).map fun (codes, after) => (n :: codes, after) := by
  rw [Token.stringCodes?]
  · rw [he]
    cases Token.stringCodes? s with
    | none => rfl
    | some p => rfl
  · intro a b c d rest h
    exact absurd h hu

theorem stringCodes?_control {n : Nat} (hn : n < 0x20) (s : List Char) :
    Token.stringCodes? ('\\' :: 'u' :: '0' :: '0' :: Nat.digitChar (n / 16) ::
        Nat.digitChar (n % 16) :: s) =
      (Token.stringCodes? s).map fun (codes, after) => (n :: codes, after) := by
  rw [Token.stringCodes?, hexCode?_control n hn]
  cases Token.stringCodes? s with
  | none => rfl
  | some p => rfl

theorem stringCodes?_plain {c : Char} (hquote : c ≠ '"') (hslash : c ≠ '\\')
    (hcontrol : ¬ c.toNat < 0x20) (s : List Char) :
    Token.stringCodes? (c :: s) =
      (Token.stringCodes? s).map fun (codes, after) => (c.toNat :: codes, after) := by
  rw [Token.stringCodes?]
  · rw [if_neg (not_or.mpr ⟨hcontrol, hslash⟩)]
    cases Token.stringCodes? s with
    | none => rfl
    | some p => rfl
  · exact hquote
  · intro a b x d rest h
    exact absurd h hslash
  · intro e rest h
    exact absurd h hslash

theorem stringCodes?_escapeChar (c : Char) (s : List Char) :
    Token.stringCodes? (Doc.escapeChar c ++ s) =
      (Token.stringCodes? s).map fun (codes, after) => (c.toNat :: codes, after) := by
  unfold Doc.escapeChar
  split
  · rename_i h
    subst h
    exact stringCodes?_letter (by decide) rfl s
  split
  · rename_i h
    subst h
    exact stringCodes?_letter (by decide) rfl s
  split
  · rename_i h
    exact stringCodes?_control h s
  · rename_i hquote hslash hcontrol
    exact stringCodes?_plain hquote hslash hcontrol s

theorem stringCodes?_escaped (cs rest : List Char) :
    Token.stringCodes? (cs.flatMap Doc.escapeChar ++ '"' :: rest) =
      some (cs.map Char.toNat, rest) := by
  induction cs with
  | nil => rw [List.flatMap_nil, List.nil_append, Token.stringCodes?]; rfl
  | cons c cs ih =>
    rw [List.flatMap_cons, List.append_assoc, stringCodes?_escapeChar, ih]
    rfl

/-- The code of a character is no surrogate. -/
theorem not_surrogate (c : Char) :
    Token.isHighSurrogate c.toNat = false ∧ Token.isLowSurrogate c.toNat = false := by
  have hvalid : c.toNat.isValidChar := c.valid
  unfold Nat.isValidChar at hvalid
  unfold Token.isHighSurrogate Token.isLowSurrogate
  rw [decide_eq_false_iff_not, decide_eq_false_iff_not]
  omega

theorem charsOfCodes?_toNat (cs : List Char) :
    Token.charsOfCodes? (cs.map Char.toNat) = some cs := by
  induction cs with
  | nil => rfl
  | cons c cs ih =>
    obtain ⟨hhigh, hlow⟩ := not_surrogate c
    cases cs with
    | nil => simp [Token.charsOfCodes?, hhigh, hlow]
    | cons d cs =>
      rw [List.map_cons, List.map_cons, Token.charsOfCodes?, hhigh, hlow, ← List.map_cons, ih]
      simp

/-! ## Tokens -/

namespace Token

def marks : List (Char × Token) :=
  [('[', .openArray), (']', .closeArray), ('{', .openObject), ('}', .closeObject), (',', .comma),
    (':', .colon)]

theorem read?_mark (c : Char) {t : Token} (h : marks.lookup c = some t) (cs : List Char) :
    read? (c :: cs) = (read? cs).map (t :: ·) := by
  obtain ⟨before, after, hmarks, -⟩ := List.lookup_eq_some_iff.mp h
  have hmem : (c, t) ∈ marks := by
    rw [hmarks]
    exact List.mem_append_right before List.mem_cons_self
  simp only [marks, List.mem_cons, Prod.mk.injEq, List.not_mem_nil, or_false] at hmem
  rcases hmem with ⟨rfl, rfl⟩ | ⟨rfl, rfl⟩ | ⟨rfl, rfl⟩ | ⟨rfl, rfl⟩ | ⟨rfl, rfl⟩ | ⟨rfl, rfl⟩ <;>
    (rw [read?.eq_def]; rfl)

theorem read?_string {cs rest : List Char} {codes : List Nat}
    (h : stringCodes? cs = some (codes, rest)) :
    read? ('"' :: cs) =
      (read? rest).map (.string ((charsOfCodes? codes).map String.ofList) :: ·) := by
  rw [read?.eq_def]
  simp only [Char.reduceEq, or_self, ↓reduceIte]
  split
  · rename_i codes' rest' heq
    rw [h] at heq
    cases heq
    rfl
  · rename_i heq
    rw [h] at heq
    cases heq

theorem read?_minus {cs rest : List Char} {n : Option Number}
    (h : unsigned? true cs = some (n, rest)) :
    read? ('-' :: cs) = (read? rest).map (.number n :: ·) := by
  rw [read?.eq_def]
  simp only [Char.reduceEq, or_self, ↓reduceIte]
  split
  · rename_i heq
    rw [h] at heq
    cases heq
    rfl
  · rename_i heq
    rw [h] at heq
    cases heq

/-- The characters that are looked for before a digit is. -/
def beforeDigits : List Char := [' ', '\t', '\n', '\r', '[', ']', '{', '}', ',', ':', '"', '-']

theorem ne_of_isDigit {c : Char} (hc : c.isDigit = true) : ∀ d ∈ beforeDigits, c ≠ d := by
  have hnone : beforeDigits.all (fun d => !d.isDigit) = true := by decide
  intro d hd heq
  have hno := List.all_eq_true.mp hnone d hd
  rw [← heq, hc] at hno
  cases hno

theorem read?_digit {c : Char} (hc : c.isDigit = true) {cs rest : List Char} {n : Option Number}
    (h : unsigned? false (c :: cs) = some (n, rest)) :
    read? (c :: cs) = (read? rest).map (.number n :: ·) := by
  have hne := ne_of_isDigit hc
  simp only [beforeDigits, List.forall_mem_cons] at hne
  rw [read?.eq_def]
  simp only [hne, hc, or_self, ↓reduceIte]
  split
  · rename_i heq
    rw [h] at heq
    cases heq
    rfl
  · rename_i heq
    rw [h] at heq
    cases heq

theorem read?_null (cs : List Char) :
    read? ('n' :: 'u' :: 'l' :: 'l' :: cs) = (read? cs).map (.null :: ·) := by
  rw [read?.eq_def]
  rfl

theorem read?_bool (b : Bool) (cs : List Char) :
    read? ((Doc.bool b).render.toList ++ cs) = (read? cs).map (.bool b :: ·) := by
  cases b with
  | true =>
    show read? ('t' :: 'r' :: 'u' :: 'e' :: cs) = _
    rw [read?.eq_def]
    rfl
  | false =>
    show read? ('f' :: 'a' :: 'l' :: 's' :: 'e' :: cs) = _
    rw [read?.eq_def]
    rfl

theorem read?_renderString (text : String) (rest : List Char) :
    read? ((Doc.renderString (some text)).toList ++ rest) =
      (read? rest).map (.string (some text) :: ·) := by
  have hread := read?_string (stringCodes?_escaped text.toList rest)
  rw [charsOfCodes?_toNat, Option.map_some, String.ofList_toList] at hread
  rw [← hread, Doc.renderString, String.toList_ofList, List.append_assoc]
  rfl

theorem read?_toDigits {n : Nat} (hn : n < Nat.pow 2 64) {rest : List Char} (h : Closes rest) :
    read? (Nat.toDigits 10 n ++ rest) = (read? rest).map (.number (some (.integer n)) :: ·) := by
  have hread := unsigned?_toDigits false n h
  rw [value?_natural hn] at hread
  cases hdigits : Nat.toDigits 10 n with
  | nil => exact absurd hdigits (List.ne_nil_of_length_pos Nat.length_toDigits_pos)
  | cons c cs =>
    rw [hdigits] at hread
    have hmem : c ∈ Nat.toDigits 10 n := hdigits ▸ List.mem_cons_self
    exact read?_digit (Nat.isDigit_of_mem_toDigits (by decide) (by decide) hmem) hread

theorem read?_renderNumber {n : Int} (hn : Fits n) {rest : List Char} (h : Closes rest) :
    read? ((Doc.renderNumber (some (.integer n))).toList ++ rest) =
      (read? rest).map (.number (some (.integer n)) :: ·) := by
  show read? ((Int.repr n).toList ++ rest) = _
  cases n with
  | ofNat m =>
    have hm : m < Nat.pow 2 64 := Int.ofNat_lt.mp hn.greatest
    show read? (m.repr.toList ++ rest) = _
    rw [Nat.toList_repr]
    exact read?_toDigits hm h
  | negSucc m =>
    have hm : m + 1 ≤ Nat.pow 2 63 := Int.ofNat_le.mp (Int.neg_le_neg_iff.mp hn.least)
    have hread := unsigned?_toDigits true (m + 1) h
    rw [value?_negative (Nat.succ_pos m) hm] at hread
    show read? (("-" ++ (m + 1).repr).toList ++ rest) = _
    rw [String.toList_append, Nat.toList_repr]
    exact read?_minus hread

end Token

/-! ## Documents -/

namespace Doc

mutual
/-- The tokens of a document. -/
def tokens : Doc → List Token
  | .null => [.null]
  | .bool b => [.bool b]
  | .number n => [.number n]
  | .string s => [.string s]
  | .array [] => [.openArray, .closeArray]
  | .array (d :: ds) => .openArray :: (tokens d ++ itemTokens ds)
  | .object [] => [.openObject, .closeObject]
  | .object ((name, d) :: ms) =>
    .openObject :: .string name :: .colon :: (tokens d ++ memberTokens ms)

/-- The tokens behind an item of an array. -/
def itemTokens : List Doc → List Token
  | [] => [.closeArray]
  | d :: ds => .comma :: (tokens d ++ itemTokens ds)

/-- The tokens behind a member of an object. -/
def memberTokens : List (Option String × Doc) → List Token
  | [] => [.closeObject]
  | (name, d) :: ms => .comma :: .string name :: .colon :: (tokens d ++ memberTokens ms)
end

/-- A document whose names and strings are text and whose numbers are integers of 64 bits. -/
inductive IsPlain : Doc → Prop
  | null : IsPlain .null
  | bool (b : Bool) : IsPlain (.bool b)
  | integer (n : Int) (h : Fits n) : IsPlain (.number (some (.integer n)))
  | text (s : String) : IsPlain (.text s)
  | array (items : List Doc) (h : ∀ d ∈ items, IsPlain d) : IsPlain (.array items)
  | record (members : List (String × Doc)) (h : ∀ m ∈ members, IsPlain m.2) :
    IsPlain (.record members)

theorem map_prepend (a b : List Token) (x : Option (List Token)) :
    (x.map (b ++ ·)).map (a ++ ·) = x.map (a ++ b ++ ·) := by
  rw [Option.map_map]
  congr 1
  funext tokens
  exact (List.append_assoc a b tokens).symm

/-- The text of a document is cut into its tokens, whatever it is followed by. -/
def ReadsBack (d : Doc) : Prop :=
  ∀ rest, Closes rest →
    Token.read? (d.render.toList ++ rest) = (Token.read? rest).map (d.tokens ++ ·)

theorem read?_renderItems {items : List Doc} (h : ∀ d ∈ items, d.ReadsBack) (rest : List Char) :
    Closes ((renderItems items).toList ++ rest) ∧
      Token.read? ((renderItems items).toList ++ rest) =
        (Token.read? rest).map (itemTokens items ++ ·) := by
  induction items with
  | nil =>
    rw [renderItems]
    exact ⟨closes_cons (by decide) rest, Token.read?_mark ']' rfl rest⟩
  | cons d items ih =>
    obtain ⟨hcloses, hread⟩ := ih fun e he => h e (List.mem_cons_of_mem _ he)
    rw [renderItems, String.toList_append, String.toList_append, List.append_assoc,
      List.append_assoc]
    refine ⟨closes_cons (by decide) _, ?_⟩
    show Token.read? (',' :: (d.render.toList ++ _)) = _
    rw [Token.read?_mark ',' rfl, h d List.mem_cons_self _ hcloses, hread, map_prepend]
    exact map_prepend [.comma] _ _

theorem read?_member (name : String) {d : Doc} (h : d.ReadsBack) {rest : List Char}
    (hrest : Closes rest) :
    Token.read? ((renderString (some name)).toList ++ (':' :: (d.render.toList ++ rest))) =
      (Token.read? rest).map (.string (some name) :: .colon :: d.tokens ++ ·) := by
  rw [Token.read?_renderString, Token.read?_mark ':' rfl, h rest hrest, Option.map_map,
    Option.map_map]
  rfl

theorem read?_renderMembers {members : List (String × Doc)} (h : ∀ m ∈ members, m.2.ReadsBack)
    (rest : List Char) :
    Closes ((renderMembers (members.map fun m => (some m.1, m.2))).toList ++ rest) ∧
      Token.read? ((renderMembers (members.map fun m => (some m.1, m.2))).toList ++ rest) =
        (Token.read? rest).map (memberTokens (members.map fun m => (some m.1, m.2)) ++ ·) := by
  induction members with
  | nil =>
    rw [List.map_nil, renderMembers]
    exact ⟨closes_cons (by decide) rest, Token.read?_mark '}' rfl rest⟩
  | cons m members ih =>
    obtain ⟨hcloses, hread⟩ := ih fun e he => h e (List.mem_cons_of_mem _ he)
    have hmember := read?_member m.1 (h m List.mem_cons_self) hcloses
    rw [hread, map_prepend] at hmember
    rw [List.map_cons, renderMembers]
    simp only [String.toList_append, List.append_assoc, String.reduceToList, List.cons_append,
      List.nil_append]
    refine ⟨closes_cons (by decide) _, ?_⟩
    rw [Token.read?_mark ',' rfl, hmember]
    exact map_prepend [.comma] _ _

theorem readsBack_of_plain {d : Doc} (h : d.IsPlain) : d.ReadsBack := by
  intro rest hrest
  induction h generalizing rest with
  | null => exact Token.read?_null rest
  | bool b =>
    rw [tokens]
    exact Token.read?_bool b rest
  | integer n h =>
    rw [render, tokens]
    exact Token.read?_renderNumber h hrest
  | text s =>
    rw [text, render, tokens]
    exact Token.read?_renderString s rest
  | array items _ ih =>
    cases items with
    | nil =>
      rw [render, tokens]
      show Token.read? ('[' :: ']' :: rest) = _
      rw [Token.read?_mark '[' rfl, Token.read?_mark ']' rfl]
      exact map_prepend [.openArray] [.closeArray] _
    | cons d items =>
      obtain ⟨hcloses, hread⟩ :=
        read?_renderItems (fun e he => ih e (List.mem_cons_of_mem _ he)) rest
      rw [render, tokens, String.toList_append, String.toList_append, List.append_assoc,
        List.append_assoc]
      show Token.read? ('[' :: (d.render.toList ++ _)) = _
      rw [Token.read?_mark '[' rfl, ih d List.mem_cons_self _ hcloses, hread, map_prepend]
      exact map_prepend [.openArray] _ _
  | record members _ ih =>
    cases members with
    | nil =>
      rw [record, List.map_nil, render, tokens]
      show Token.read? ('{' :: '}' :: rest) = _
      rw [Token.read?_mark '{' rfl, Token.read?_mark '}' rfl]
      exact map_prepend [.openObject] [.closeObject] _
    | cons m members =>
      obtain ⟨hcloses, hread⟩ :=
        read?_renderMembers (fun e he => ih e (List.mem_cons_of_mem _ he)) rest
      have hmember := read?_member m.1 (ih m List.mem_cons_self) hcloses
      rw [hread, map_prepend] at hmember
      rw [record, List.map_cons, render]
      simp only [String.toList_append, List.append_assoc, String.reduceToList, List.cons_append,
        List.nil_append]
      rw [Token.read?_mark '{' rfl, hmember, tokens]
      exact map_prepend [.openObject] _ _

end Doc

/-! ## The reader -/

theorem foldlM_step_cons (r : Reading) (t : Token) {r' : Reading} (h : r.step t = some r')
    (ts : List Token) : (t :: ts).foldlM Reading.step r = ts.foldlM Reading.step r' := by
  rw [List.foldlM_cons, h]
  rfl

mutual
/-- The tokens of a document lead from where a value is due to where it is placed. -/
theorem foldlM_tokens (stack : List Frame) (mayClose : Bool) (rest : List Token) :
    ∀ d : Doc, (d.tokens ++ rest).foldlM Reading.step (.value stack mayClose) =
      rest.foldlM Reading.step (Reading.place d stack)
  | .null => rfl
  | .bool _ => rfl
  | .number _ => rfl
  | .string _ => rfl
  | .array [] => rfl
  | .array (d :: ds) => by
    rw [Doc.tokens, List.cons_append, foldlM_step_cons (.value stack mayClose) .openArray rfl,
      List.append_assoc, foldlM_tokens _ _ _ d]
    exact foldlM_itemTokens stack [d] rest ds
  | .object [] => rfl
  | .object ((name, d) :: ms) => by
    rw [Doc.tokens, List.cons_append, foldlM_step_cons (.value stack mayClose) .openObject rfl,
      List.cons_append, foldlM_step_cons (.name stack [] true) (.string name) rfl,
      List.cons_append, foldlM_step_cons (.colon stack [] name) .colon rfl,
      List.append_assoc, foldlM_tokens _ _ _ d]
    exact foldlM_memberTokens stack [(name, d)] rest ms

theorem foldlM_itemTokens (stack : List Frame) (items : List Doc) (rest : List Token) :
    ∀ ds : List Doc, (Doc.itemTokens ds ++ rest).foldlM Reading.step (.afterItem stack items) =
      rest.foldlM Reading.step (Reading.place (.array (items.reverse ++ ds)) stack)
  | [] => by
    rw [Doc.itemTokens, List.append_nil]
    rfl
  | d :: ds => by
    rw [Doc.itemTokens, List.cons_append, foldlM_step_cons (.afterItem stack items) .comma rfl,
      List.append_assoc, foldlM_tokens _ _ _ d]
    have hrest := foldlM_itemTokens stack (d :: items) rest ds
    rwa [List.reverse_cons, List.append_assoc] at hrest

theorem foldlM_memberTokens (stack : List Frame) (members : List (Option String × Doc))
    (rest : List Token) :
    ∀ ms, (Doc.memberTokens ms ++ rest).foldlM Reading.step (.afterMember stack members) =
      rest.foldlM Reading.step (Reading.place (.object (members.reverse ++ ms)) stack)
  | [] => by
    rw [Doc.memberTokens, List.append_nil]
    rfl
  | (name, d) :: ms => by
    rw [Doc.memberTokens, List.cons_append,
      foldlM_step_cons (.afterMember stack members) .comma rfl,
      List.cons_append, foldlM_step_cons (.name stack members false) (.string name) rfl,
      List.cons_append, foldlM_step_cons (.colon stack members name) .colon rfl,
      List.append_assoc, foldlM_tokens _ _ _ d]
    have hrest := foldlM_memberTokens stack ((name, d) :: members) rest ms
    rwa [List.reverse_cons, List.append_assoc] at hrest
end

/-- A plain document that is written is read back. -/
theorem Doc.read?_render {d : Doc} (h : d.IsPlain) : Doc.read? d.render = some d := by
  have htokens : Token.read? d.render.toList = some d.tokens := by
    have hread := Doc.readsBack_of_plain h [] nofun
    rwa [List.append_nil, Token.read?, Option.map_some, List.append_nil] at hread
  have hrun := foldlM_tokens [] false [] d
  rw [List.append_nil] at hrun
  unfold Doc.read?
  rw [htokens]
  show readTokens? d.tokens = some d
  unfold readTokens?
  rw [hrun]
  rfl

end Json
end Facsimile
