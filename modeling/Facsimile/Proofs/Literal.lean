import Facsimile.Text.Quoted

/-!
# Literals are read back

A text that is written as a literal and read as one is the text again, whatever stands behind the
literal.
-/

namespace Facsimile
namespace Text

theorem hexValue?_digitChar : ∀ d < 16, hexValue? (Nat.digitChar d) = some d := by
  decide

theorem digitChar_ne : ∀ d < 16, Nat.digitChar d ≠ '}' ∧ Nat.digitChar d ≠ '_' := by
  decide

theorem charOfCode?_toNat (c : Char) : charOfCode? c.toNat = some c := by
  have hvalid : c.toNat.isValidChar := c.valid
  unfold charOfCode?
  rw [dif_pos hvalid]
  rfl

theorem readCode?_digitChar {d : Nat} (hd : d < 16) {count : Nat} (hc : count < 6) (acc : Nat)
    (s : List Char) :
    readCode? count acc (Nat.digitChar d :: s) = readCode? (count + 1) (16 * acc + d) s := by
  obtain ⟨hbrace, hscore⟩ := digitChar_ne d hd
  rw [readCode?, if_neg hbrace, if_neg hscore, hexValue?_digitChar d hd]
  simp only [hc, if_true]

theorem readCode?_toDigits (n : Nat) :
    ∀ s : List Char, (Nat.toDigits 16 n).length ≤ 6 →
      readCode? 0 0 (Nat.toDigits 16 n ++ s) = readCode? (Nat.toDigits 16 n).length n s := by
  induction n using Nat.base_induction 16 (by decide) with
  | single m hm =>
    intro s _
    rw [Nat.toDigits_of_lt_base hm]
    show readCode? 0 0 (Nat.digitChar m :: s) = readCode? 1 m s
    rw [readCode?_digitChar hm (by decide), Nat.mul_zero, Nat.zero_add, Nat.zero_add]
  | digit m d hd hm ih =>
    intro s hlen
    have hsplit := Nat.toDigits_append_toDigits (by decide : 1 < 16) hm hd
    rw [Nat.toDigits_of_lt_base hd] at hsplit
    rw [← hsplit, List.length_append, List.length_singleton] at hlen ⊢
    -- The digits of `m` are read first, and the last digit shifts them.
    rw [List.append_assoc, ih _ (by omega)]
    show readCode? _ m (Nat.digitChar d :: s) = _
    rw [readCode?_digitChar hd (by omega)]

/-- A code point has six digits at most. -/
theorem length_toDigits_code (c : Char) : (Nat.toDigits 16 c.toNat).length ≤ 6 := by
  rw [Nat.length_toDigits_le_iff (by decide) (by decide)]
  have hvalid : c.toNat.isValidChar := c.valid
  unfold Nat.isValidChar at hvalid
  omega

theorem readBraced?_code (c : Char) (rest : List Char) :
    readBraced? ('{' :: (Nat.toDigits 16 c.toNat ++ '}' :: rest)) = some (c, rest) := by
  have hcode : readCode? 0 0 (Nat.toDigits 16 c.toNat ++ '}' :: rest) = some (c.toNat, rest) := by
    have hpos : (Nat.toDigits 16 c.toNat).length ≠ 0 := Nat.ne_of_gt Nat.length_toDigits_pos
    rw [readCode?_toDigits _ _ (length_toDigits_code c), readCode?, if_pos rfl, if_neg hpos]
  unfold readBraced?
  simp only [hcode, charOfCode?_toNat, bind, Option.bind]

theorem readLiteral?_quote (rest : List Char) : readLiteral? ('"' :: rest) = some ([], rest) := by
  rw [readLiteral?, if_pos rfl]

theorem readLiteral?_escape {s text rest : List Char} (h : readEscape? s = some (text, rest)) :
    readLiteral? ('\\' :: s) =
      (readLiteral? rest).map fun (more, after) => (text ++ more, after) := by
  rw [readLiteral?, if_neg (by decide), if_pos rfl]
  split
  · rename_i t r heq
    rw [h] at heq
    cases heq
    rfl
  · rename_i heq
    rw [h] at heq
    cases heq

theorem readLiteral?_plain {c : Char} (hquote : c ≠ '"') (hslash : c ≠ '\\') (hreturn : c ≠ '\r')
    (s : List Char) :
    readLiteral? (c :: s) = (readLiteral? s).map fun (more, after) => (c :: more, after) := by
  rw [readLiteral?, if_neg hquote, if_neg hslash, if_neg hreturn]

theorem readEscape?_letter {e c : Char} (h : (e, c) ∈ letterEscapes) (s : List Char) :
    readEscape? (e :: s) = some ([c], s) := by
  have hall : ∀ p ∈ letterEscapes, letterEscapes.lookup p.1 = some p.2 ∧
      p.1 ≠ '\n' ∧ p.1 ≠ 'u' ∧ p.1 ≠ 'x' := by
    decide
  obtain ⟨hlookup, hn, hu, hx⟩ := hall (e, c) h
  unfold readEscape?
  simp only [hlookup, if_neg hn, if_neg hu, if_neg hx, Option.map_some]

theorem readLiteral?_escapeChar (c : Char) (s : List Char) :
    readLiteral? (escapeChar c ++ s) =
      (readLiteral? s).map fun (more, after) => (c :: more, after) := by
  have hletter : ∀ e, (e, c) ∈ letterEscapes → readLiteral? ('\\' :: e :: s) =
      (readLiteral? s).map fun (more, after) => (c :: more, after) := by
    intro e he
    exact readLiteral?_escape (readEscape?_letter he s)
  unfold escapeChar
  by_cases hzero : c = '\x00'
  · subst hzero
    exact hletter '0' (by decide)
  by_cases htab : c = '\t'
  · subst htab
    exact hletter 't' (by decide)
  by_cases hreturn : c = '\r'
  · subst hreturn
    exact hletter 'r' (by decide)
  by_cases hfeed : c = '\n'
  · subst hfeed
    exact hletter 'n' (by decide)
  by_cases hslash : c = '\\'
  · subst hslash
    exact hletter '\\' (by decide)
  by_cases hquote : c = '"'
  · subst hquote
    exact hletter '"' (by decide)
  rw [if_neg hzero, if_neg htab, if_neg hreturn, if_neg hfeed, if_neg hslash, if_neg hquote]
  have hplain := readLiteral?_plain hquote hslash hreturn s
  by_cases hseen : 0x20 ≤ c.toNat ∧ c.toNat ≤ 0x7E
  · rw [if_pos hseen]
    exact hplain
  rw [if_neg hseen]
  by_cases hhidden : isHidden c
  · rw [if_pos hhidden]
    have hescape : readEscape? ('u' :: '{' :: (Nat.toDigits 16 c.toNat ++ '}' :: s)) =
        some ([c], s) := by
      have hfeed : 'u' ≠ '\n' := by decide
      unfold readEscape?
      simp only [readBraced?_code, if_neg hfeed, if_true, Option.map_some]
    have hshape : ['\\', 'u', '{'] ++ Nat.toDigits 16 c.toNat ++ ['}'] ++ s =
        '\\' :: 'u' :: '{' :: (Nat.toDigits 16 c.toNat ++ '}' :: s) := by
      simp
    rw [hshape, readLiteral?_escape hescape]
    rfl
  · rw [if_neg hhidden]
    exact hplain

/-- A literal is read up to its closing quote. -/
theorem readLiteral?_escaped (s rest : List Char) :
    readLiteral? (s.flatMap escapeChar ++ '"' :: rest) = some (s, rest) := by
  induction s with
  | nil => exact readLiteral?_quote rest
  | cons c cs ih =>
    rw [List.flatMap_cons, List.append_assoc, readLiteral?_escapeChar, ih]
    rfl

end Text
end Facsimile
