import Facsimile.Json.Number
import Facsimile.Text.Quoted

/-!
# JSON tokens

The text of a document cut into punctuation, words, numbers and strings.
-/

namespace Facsimile
namespace Json

inductive Token where
  | openArray
  | closeArray
  | openObject
  | closeObject
  | comma
  | colon
  | null
  | bool (b : Bool)
  | number (n : Option Number)
  | string (s : Option String)

namespace Token

def hexCode? (a b c d : Char) : Option Nat := do
  let w ← Text.hexValue? a
  let x ← Text.hexValue? b
  let y ← Text.hexValue? c
  let z ← Text.hexValue? d
  return ((w * 16 + x) * 16 + y) * 16 + z

def escapeCode? : Char → Option Nat
  | '"' => some 0x22
  | '\\' => some 0x5C
  | '/' => some 0x2F
  | 'b' => some 0x8
  | 'f' => some 0xC
  | 'n' => some 0xA
  | 'r' => some 0xD
  | 't' => some 0x9
  | _ => none

/-- The codes of a string from after its opening quote, and what follows its closing quote.  An
escape in hexadecimal gives a code that may be a surrogate. -/
def stringCodes? : List Char → Option (List Nat × List Char)
  | '"' :: rest => some ([], rest)
  | '\\' :: 'u' :: a :: b :: c :: d :: rest => do
    let n ← hexCode? a b c d
    let (codes, after) ← stringCodes? rest
    return (n :: codes, after)
  | '\\' :: e :: rest => do
    let n ← escapeCode? e
    let (codes, after) ← stringCodes? rest
    return (n :: codes, after)
  | c :: rest =>
    if c.toNat < 0x20 ∨ c = '\\' then none
    else do
      let (codes, after) ← stringCodes? rest
      return (c.toNat :: codes, after)
  | [] => none

def isHighSurrogate (n : Nat) : Bool := decide (0xD800 ≤ n ∧ n ≤ 0xDBFF)
def isLowSurrogate (n : Nat) : Bool := decide (0xDC00 ≤ n ∧ n ≤ 0xDFFF)

/-- The characters of a list of codes.  A pair of surrogates is one character; a surrogate without
its partner is none. -/
def charsOfCodes? : List Nat → Option (List Char)
  | [] => some []
  | [n] => if isHighSurrogate n ∨ isLowSurrogate n then none else some [Char.ofNat n]
  | n :: m :: rest =>
    if isHighSurrogate n then
      if isLowSurrogate m then
        (charsOfCodes? rest).map (Char.ofNat (0x10000 + (n - 0xD800) * 0x400 + (m - 0xDC00)) :: ·)
      else none
    else if isLowSurrogate n then none
    else (charsOfCodes? (m :: rest)).map (Char.ofNat n :: ·)

theorem stringCodes?_length {s rest : List Char} {codes : List Nat}
    (h : stringCodes? s = some (codes, rest)) : rest.length < s.length := by
  fun_induction stringCodes? s generalizing codes with
  | case1 r => simp_all
  | case2 a b c d r ih =>
    simp only [Option.bind_eq_bind, Option.bind_eq_some_iff, Option.pure_def, Option.some.injEq,
      Prod.mk.injEq, Prod.exists] at h
    obtain ⟨_, _, _, _, h, _, rfl⟩ := h
    have := ih h
    simp only [List.length_cons]
    omega
  | case3 e r _ ih =>
    simp only [Option.bind_eq_bind, Option.bind_eq_some_iff, Option.pure_def, Option.some.injEq,
      Prod.mk.injEq, Prod.exists] at h
    obtain ⟨_, _, _, _, h, _, rfl⟩ := h
    have := ih h
    simp only [List.length_cons]
    omega
  | case4 => simp at h
  | case5 c r _ _ _ _ ih =>
    simp only [Option.bind_eq_bind, Option.bind_eq_some_iff, Option.pure_def, Option.some.injEq,
      Prod.mk.injEq, Prod.exists] at h
    obtain ⟨_, _, h, _, rfl⟩ := h
    have := ih h
    simp only [List.length_cons]
    omega
  | case6 => simp at h

def digits (s : List Char) : List Char := s.takeWhile Char.isDigit
def afterDigits (s : List Char) : List Char := s.dropWhile Char.isDigit

theorem afterDigits_length (s : List Char) : (afterDigits s).length ≤ s.length :=
  (List.dropWhile_sublist _).length_le

/-- A fraction, if the text goes on with a point; none if no digit follows the point. -/
def fraction? : List Char → Option (Bool × List Char × List Char)
  | '.' :: rest => if digits rest = [] then none else some (true, digits rest, afterDigits rest)
  | rest => some (false, [], rest)

def exponentSign : List Char → Bool × List Char
  | '-' :: rest => (true, rest)
  | '+' :: rest => (false, rest)
  | rest => (false, rest)

/-- An exponent, if the text goes on with its letter; none if no digit follows. -/
def exponent? : List Char → Option (Option (Bool × List Char) × List Char)
  | [] => some (none, [])
  | c :: rest =>
    if c = 'e' ∨ c = 'E' then
      let signed := exponentSign rest
      if digits signed.2 = [] then none
      else some (some (signed.1, digits signed.2), afterDigits signed.2)
    else some (none, c :: rest)

/-- A number without its sign.  A zero before other digits is refused. -/
def unsigned? (negative : Bool) (s : List Char) : Option (Option Number × List Char) :=
  if digits s = [] ∨ ((digits s).head? = some '0' ∧ (digits s).length ≠ 1) then none
  else
    match fraction? (afterDigits s) with
    | none => none
    | some (hasFraction, fraction, rest) =>
      match exponent? rest with
      | none => none
      | some (exponent, rest) =>
        some ((NumberText.mk negative (digits s) fraction exponent hasFraction).value?, rest)

theorem fraction?_length {s rest ds : List Char} {b : Bool} (h : fraction? s = some (b, ds, rest)) :
    rest.length ≤ s.length := by
  unfold fraction? at h
  split at h
  · rename_i r
    split at h
    · simp at h
    · simp only [Option.some.injEq, Prod.mk.injEq] at h
      rw [← h.2.2]
      have := afterDigits_length r
      simp only [List.length_cons]
      omega
  · simp only [Option.some.injEq, Prod.mk.injEq] at h
    exact Nat.le_of_eq (by rw [h.2.2])

theorem exponentSign_length (s : List Char) : (exponentSign s).2.length ≤ s.length := by
  unfold exponentSign
  split <;> simp

theorem exponent?_length {s rest : List Char} {e : Option (Bool × List Char)}
    (h : exponent? s = some (e, rest)) : rest.length ≤ s.length := by
  unfold exponent? at h
  split at h
  · simp only [Option.some.injEq, Prod.mk.injEq] at h
    simp [← h.2]
  · rename_i c r
    split at h
    · dsimp only at h
      split at h
      · simp at h
      · simp only [Option.some.injEq, Prod.mk.injEq] at h
        rw [← h.2]
        have h1 := afterDigits_length (exponentSign r).2
        have h2 := exponentSign_length r
        simp only [List.length_cons]
        omega
    · simp only [Option.some.injEq, Prod.mk.injEq] at h
      exact Nat.le_of_eq (by rw [← h.2])

theorem unsigned?_length {s rest : List Char} {negative : Bool} {n : Option Number}
    (h : unsigned? negative s = some (n, rest)) : rest.length < s.length := by
  unfold unsigned? at h
  split at h
  · simp at h
  · rename_i hw
    split at h
    · simp at h
    · rename_i hf
      split at h
      · simp at h
      · rename_i he
        simp only [Option.some.injEq, Prod.mk.injEq] at h
        obtain ⟨_, rfl⟩ := h
        have h1 := fraction?_length hf
        have h2 := exponent?_length he
        have h3 : (afterDigits s).length < s.length := by
          have hsum : digits s ++ afterDigits s = s := List.takeWhile_append_dropWhile
          have hne : digits s ≠ [] := fun e => hw (Or.inl e)
          have := List.length_pos_iff.mpr hne
          have := congrArg List.length hsum
          simp only [List.length_append] at this
          omega
        omega

def read? : List Char → Option (List Token)
  | [] => some []
  | c :: cs =>
    if c = ' ' ∨ c = '\t' ∨ c = '\n' ∨ c = '\r' then read? cs
    else if c = '[' then (read? cs).map (.openArray :: ·)
    else if c = ']' then (read? cs).map (.closeArray :: ·)
    else if c = '{' then (read? cs).map (.openObject :: ·)
    else if c = '}' then (read? cs).map (.closeObject :: ·)
    else if c = ',' then (read? cs).map (.comma :: ·)
    else if c = ':' then (read? cs).map (.colon :: ·)
    else if c = '"' then
      match h : stringCodes? cs with
      | some (codes, rest) =>
        have := stringCodes?_length h
        (read? rest).map (.string ((charsOfCodes? codes).map String.ofList) :: ·)
      | none => none
    else if c = '-' then
      match h : unsigned? true cs with
      | some (n, rest) =>
        have := unsigned?_length h
        (read? rest).map (.number n :: ·)
      | none => none
    else if c.isDigit then
      match h : unsigned? false (c :: cs) with
      | some (n, rest) =>
        have := unsigned?_length h
        (read? rest).map (.number n :: ·)
      | none => none
    else
      match c, cs with
      | 'n', 'u' :: 'l' :: 'l' :: rest => (read? rest).map (.null :: ·)
      | 't', 'r' :: 'u' :: 'e' :: rest => (read? rest).map (.bool true :: ·)
      | 'f', 'a' :: 'l' :: 's' :: 'e' :: rest => (read? rest).map (.bool false :: ·)
      | _, _ => none
termination_by s => s.length
decreasing_by all_goals simp_all <;> omega

end Token
end Json
end Facsimile
