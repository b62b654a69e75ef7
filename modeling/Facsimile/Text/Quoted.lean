import Facsimile.Text.Digits
import Facsimile.Text.Extend
import Facsimile.Text.Unseen

/-!
# String literals

`quote` writes a text as a string literal of the generated code: everything that is not seen on its
own is written as an escape, so that a literal stays on one line and shows what it holds.
`readLiteral?` reads a literal back, with every escape that the generated language knows.
-/

namespace Facsimile
namespace Text

/-- The fillers of the Hangul blocks: letters by category that are drawn as nothing. -/
def fillers : CharRanges := [(0x115F, 0x1160), (0x3164, 0x3164), (0xFFA0, 0xFFA0)]

/-- The half width voicing marks: they extend a grapheme and yet are letters that are seen alone. -/
def voicingMarks : CharRanges := [(0xFF9E, 0xFF9F)]

/-- Characters a literal names by their code point. -/
def isHidden (c : Char) : Bool :=
  unseenCategories.contains c || fillers.contains c ||
    (graphemeExtend.contains c && !voicingMarks.contains c)

/-- The escape of a character, or the character. -/
def escapeChar (c : Char) : List Char :=
  if c = '\x00' then ['\\', '0']
  else if c = '\t' then ['\\', 't']
  else if c = '\r' then ['\\', 'r']
  else if c = '\n' then ['\\', 'n']
  else if c = '\\' then ['\\', '\\']
  else if c = '"' then ['\\', '"']
  else if 0x20 ≤ c.toNat ∧ c.toNat ≤ 0x7E then [c]
  else if isHidden c then ['\\', 'u', '{'] ++ Nat.toDigits 16 c.toNat ++ ['}']
  else [c]

def quoteChars (s : List Char) : List Char := '"' :: s.flatMap escapeChar ++ ['"']

def quote (s : String) : String := String.ofList (quoteChars s.toList)

def charOfCode? (n : Nat) : Option Char :=
  if h : n.isValidChar then some (Char.ofNatAux n h) else none

/-- The hexadecimal digits of a code point up to the closing brace, after `count` digits with the
value `acc`.  There are one to six digits, and underscores may follow them. -/
def readCode? (count acc : Nat) : List Char → Option (Nat × List Char)
  | [] => none
  | c :: cs =>
    if c = '}' then if count = 0 then none else some (acc, cs)
    else if c = '_' then if count = 0 then none else readCode? count acc cs
    else
      match hexValue? c with
      | some d => if count < 6 then readCode? (count + 1) (16 * acc + d) cs else none
      | none => none

/-- Escapes of one letter, each with the character that it stands for. -/
def letterEscapes : List (Char × Char) :=
  [('0', '\x00'), ('t', '\t'), ('r', '\r'), ('n', '\n'), ('\\', '\\'), ('"', '"'), ('\x27', '\x27')]

/-- What a literal skips behind a backslash at the end of a line. -/
def isSkipped (c : Char) : Bool := c == ' ' || c == '\t' || c == '\n' || c == '\r'

def readBraced? : List Char → Option (Char × List Char)
  | '{' :: s => do
    let (code, rest) ← readCode? 0 0 s
    let c ← charOfCode? code
    some (c, rest)
  | _ => none

def readByte? : List Char → Option (Char × List Char)
  | high :: low :: rest => do
    let h ← hexValue? high
    let l ← hexValue? low
    if h < 8 then some (Char.ofNat (16 * h + l), rest) else none
  | _ => none

/-- The text that an escape stands for, read from after its backslash, and what follows it. -/
def readEscape? : List Char → Option (List Char × List Char)
  | [] => none
  | e :: s =>
    if e = '\n' then some ([], s.dropWhile isSkipped)
    else if e = 'u' then (readBraced? s).map fun (c, rest) => ([c], rest)
    else if e = 'x' then (readByte? s).map fun (c, rest) => ([c], rest)
    else (letterEscapes.lookup e).map fun c => ([c], s)

theorem readCode?_length {count acc code : Nat} {s rest : List Char}
    (h : readCode? count acc s = some (code, rest)) : rest.length < s.length := by
  induction s generalizing count acc with
  | nil => simp [readCode?] at h
  | cons c cs ih =>
    have hstep : rest = cs ∨ rest.length < cs.length := by
      unfold readCode? at h
      split at h
      · split at h
        · cases h
        · simp only [Option.some.injEq, Prod.mk.injEq] at h
          exact Or.inl h.2.symm
      split at h
      · split at h
        · cases h
        · exact Or.inr (ih h)
      split at h
      · split at h
        · exact Or.inr (ih h)
        · cases h
      · cases h
    rw [List.length_cons]
    rcases hstep with rfl | hlt <;> omega

theorem readBraced?_length {s rest : List Char} {c : Char}
    (h : readBraced? s = some (c, rest)) : rest.length < s.length := by
  unfold readBraced? at h
  split at h
  · rename_i s
    obtain ⟨⟨code, after⟩, hcode, h⟩ := Option.bind_eq_some_iff.mp h
    obtain ⟨d, -, h⟩ := Option.bind_eq_some_iff.mp h
    cases h
    have hlt := readCode?_length hcode
    rw [List.length_cons]
    omega
  · cases h

theorem readByte?_length {s rest : List Char} {c : Char} (h : readByte? s = some (c, rest)) :
    rest.length < s.length := by
  unfold readByte? at h
  split at h
  · obtain ⟨x, -, h⟩ := Option.bind_eq_some_iff.mp h
    obtain ⟨y, -, h⟩ := Option.bind_eq_some_iff.mp h
    split at h
    · cases h
      simp only [List.length_cons]
      omega
    · cases h
  · cases h

theorem readEscape?_length {s text rest : List Char} (h : readEscape? s = some (text, rest)) :
    rest.length < s.length := by
  cases s with
  | nil => cases h
  | cons e s =>
    have hle : rest.length ≤ s.length := by
      simp only [readEscape?] at h
      split at h
      · cases h
        exact (List.dropWhile_sublist isSkipped).length_le
      split at h
      · obtain ⟨⟨c, after⟩, hc, heq⟩ := Option.map_eq_some_iff.mp h
        cases heq
        exact Nat.le_of_lt (readBraced?_length hc)
      split at h
      · obtain ⟨⟨c, after⟩, hc, heq⟩ := Option.map_eq_some_iff.mp h
        cases heq
        exact Nat.le_of_lt (readByte?_length hc)
      · obtain ⟨c, -, heq⟩ := Option.map_eq_some_iff.mp h
        cases heq
        exact Nat.le_refl _
    rw [List.length_cons]
    omega

/-- The text of a literal from after its opening quote, and what follows its closing quote. -/
def readLiteral? : List Char → Option (List Char × List Char)
  | [] => none
  | c :: cs =>
    if c = '"' then some ([], cs)
    else if c = '\\' then
      match h : readEscape? cs with
      | some (text, rest) =>
        have := readEscape?_length h
        (readLiteral? rest).map fun (more, after) => (text ++ more, after)
      | none => none
    else if c = '\r' then none
    else (readLiteral? cs).map fun (more, after) => (c :: more, after)
termination_by s => s.length
decreasing_by all_goals simp_all <;> omega

end Text
end Facsimile
