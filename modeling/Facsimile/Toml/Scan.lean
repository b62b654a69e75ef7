import Facsimile.Text.Quoted

/-!
# Scanning TOML

The small parts of a document: blanks, comments and line ends, and the texts of strings.  A scanner
takes what it reads off the front of a text.
-/

namespace Facsimile
namespace Toml

/-- Reads a value and gives what follows it. -/
abbrev Scan (α : Type) := List Char → Option (α × List Char)

/-- Characters that may stand for themselves. -/
def isPlain (c : Char) : Bool := c == '\t' || (decide (0x20 ≤ c.toNat) && c.toNat != 0x7F)

def isBlank (c : Char) : Bool := c == ' ' || c == '\t'

def skipBlanks (s : List Char) : List Char := s.dropWhile isBlank

def skipNewline? : List Char → Option (List Char)
  | '\n' :: rest => some rest
  | '\r' :: '\n' :: rest => some rest
  | _ => none

def skipComment : List Char → List Char
  | '#' :: rest => rest.dropWhile isPlain
  | s => s

/-- The rest of a line: blanks, a comment, and the line end or the end of the text. -/
def skipLineEnd? (s : List Char) : Option (List Char) :=
  match skipComment (skipBlanks s) with
  | [] => some []
  | rest => skipNewline? rest

def skipGaps? (inComment : Bool) : List Char → Option (List Char)
  | [] => if inComment then none else some []
  | '\n' :: rest => skipGaps? false rest
  | '\r' :: '\n' :: rest => skipGaps? false rest
  | c :: rest =>
    if inComment then if isPlain c then skipGaps? true rest else none
    else if isBlank c then skipGaps? false rest
    else if c = '#' then skipGaps? true rest
    else if c = '\r' then none
    else some (c :: rest)

/-- Items with a separator between them.  A separator that no item follows is left. -/
def separated {α : Type} (sep : Char) (item : Scan α) (s : List Char) :
    Option (List α × List Char) :=
  match item s with
  | none => none
  | some (a, []) => some ([a], [])
  | some (a, c :: rest) =>
    if c = sep ∧ rest.length < s.length then
      match separated sep item rest with
      | some (more, after) => some (a :: more, after)
      | none => some ([a], c :: rest)
    else some ([a], c :: rest)
termination_by s.length

/-! ## Strings -/

def quoteMark : Char := '"'
def apostrophe : Char := '\x27'

def hexChar? (digits : List Char) : Option Char := do
  let values ← digits.mapM Text.hexValue?
  Text.charOfCode? (values.foldl (fun n d => 16 * n + d) 0)

def escaped? : Char → Option Char
  | 'b' => some '\x08'
  | 'f' => some '\x0c'
  | 'n' => some '\n'
  | 'r' => some '\r'
  | 't' => some '\t'
  | '"' => some '"'
  | '\\' => some '\\'
  | _ => none

/-- A string with escapes, from after its opening quote. -/
def basicString : Scan (List Char)
  | '"' :: rest => some ([], rest)
  | '\\' :: 'u' :: a :: b :: c :: d :: rest => do
    let x ← hexChar? [a, b, c, d]
    let (text, after) ← basicString rest
    return (x :: text, after)
  | '\\' :: 'U' :: a :: b :: c :: d :: e :: f :: g :: h :: rest => do
    let x ← hexChar? [a, b, c, d, e, f, g, h]
    let (text, after) ← basicString rest
    return (x :: text, after)
  | '\\' :: c :: rest => do
    let x ← escaped? c
    let (text, after) ← basicString rest
    return (x :: text, after)
  | c :: rest =>
    if isPlain c ∧ c ≠ '\\' then do
      let (text, after) ← basicString rest
      return (c :: text, after)
    else none
  | [] => none

/-- A string without escapes, from after its opening apostrophe. -/
def literalString : Scan (List Char)
  | [] => none
  | c :: rest =>
    if c = apostrophe then some ([], rest)
    else if isPlain c then do
      let (text, after) ← literalString rest
      return (c :: text, after)
    else none

/-- Whether a backslash before the text joins lines: only blanks are left of its line. -/
def joinsLines (s : List Char) : Bool := (skipNewline? (skipBlanks s)).isSome

/-- A string of several lines, from after its opening.  Up to two of the marks `mark` may stand in
it side by side, also before the three that end it; `seen` counts those just passed.  A backslash at
the end of a line joins it with what follows the `gap` of blanks and line ends. -/
def blockString (mark : Char) (escapes : Bool) (gap : Bool) (seen : Nat) : Scan (List Char)
  | [] => if 3 ≤ seen ∧ seen ≤ 5 then some (List.replicate (seen - 3) mark, []) else none
  | c :: rest =>
    if c = mark then blockString mark escapes false (seen + 1) rest
    else if 3 ≤ seen then
      if seen ≤ 5 then some (List.replicate (seen - 3) mark, c :: rest) else none
    else if gap && (isBlank c || c == '\n') then blockString mark escapes true 0 rest
    else do
      let (text, after) ←
        match c, rest with
        | '\n', rest => (blockString mark escapes false 0 rest).map fun (t, a) => ('\n' :: t, a)
        | '\r', '\n' :: rest =>
          if gap then blockString mark escapes true 0 rest
          else (blockString mark escapes false 0 rest).map fun (t, a) => ('\n' :: t, a)
        | '\\', rest =>
          if !escapes then (blockString mark escapes false 0 rest).map fun (t, a) => ('\\' :: t, a)
          else if joinsLines rest then blockString mark escapes true 0 rest
          else
            match rest with
            | 'u' :: x₁ :: x₂ :: x₃ :: x₄ :: rest => do
              let x ← hexChar? [x₁, x₂, x₃, x₄]
              let (t, a) ← blockString mark escapes false 0 rest
              return (x :: t, a)
            | 'U' :: x₁ :: x₂ :: x₃ :: x₄ :: x₅ :: x₆ :: x₇ :: x₈ :: rest => do
              let x ← hexChar? [x₁, x₂, x₃, x₄, x₅, x₆, x₇, x₈]
              let (t, a) ← blockString mark escapes false 0 rest
              return (x :: t, a)
            | e :: rest => do
              let x ← escaped? e
              let (t, a) ← blockString mark escapes false 0 rest
              return (x :: t, a)
            | [] => none
        | c, rest =>
          if isPlain c then (blockString mark escapes false 0 rest).map fun (t, a) => (c :: t, a)
          else none
      return (List.replicate seen mark ++ text, after)

/-- The body of a string of several lines: a line end right after the opening is not part of it. -/
def blockBody (mark : Char) (escapes : Bool) (s : List Char) : Option (List Char × List Char) :=
  blockString mark escapes false 0 ((skipNewline? s).getD s)

def anyString (s : List Char) : Option (List Char × List Char) :=
  match s with
  | '"' :: '"' :: '"' :: rest => blockBody quoteMark true rest
  | '"' :: rest => basicString rest
  | '\x27' :: '\x27' :: '\x27' :: rest => blockBody apostrophe false rest
  | '\x27' :: rest => literalString rest
  | _ => none

end Toml
end Facsimile
