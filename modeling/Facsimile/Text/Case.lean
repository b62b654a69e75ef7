import Facsimile.Text.Case.Table

/-!
# Case mapping of text

Full case mapping: a character may become several, and a capital sigma at the end of a word becomes
the final form.  On ASCII the maps are those of `Char`.
-/

namespace Facsimile
namespace Text

def CaseRun.image? (r : CaseRun) (n : Nat) : Option Nat :=
  if r.first ≤ n ∧ n ≤ r.last ∧ (n - r.first) % r.step = 0 then some (r.target + (n - r.first))
  else none

def mapCase (expansions : List (Nat × List Nat)) (runs : List CaseRun) (c : Char) : List Char :=
  match expansions.lookup c.toNat with
  | some ns => ns.map Char.ofNat
  | none =>
    match runs.findSome? (·.image? c.toNat) with
    | some n => [Char.ofNat n]
    | none => [c]

def isAscii (c : Char) : Bool := decide (c.toNat < 0x80)

def upper (c : Char) : List Char :=
  if isAscii c then [c.toUpper] else mapCase upperExpansions upperRuns c

/-- The full lower case of a character that stands alone. -/
def lower (c : Char) : List Char :=
  if isAscii c then [c.toLower] else mapCase lowerExpansions lowerRuns c

/-- Whether the first character that is not case-ignorable is cased. -/
def meetsCased (s : List Char) : Bool :=
  match s.find? fun c => !caseIgnorableRanges.contains c with
  | some c => casedRanges.contains c
  | none => false

def capitalSigma : Char := Char.ofNat 0x3A3
def finalSigma : Char := Char.ofNat 0x3C2

/-- Lower case of the text `s` behind the text whose reverse is `before`.  A capital sigma that ends
a word, with a cased character before it and none after it, takes the final form. -/
def lowerAfter (before : List Char) : List Char → List Char
  | [] => []
  | c :: cs =>
    (if c = capitalSigma ∧ meetsCased before = true ∧ meetsCased cs = false then [finalSigma]
      else lower c) ++ lowerAfter (c :: before) cs

def lowercase (s : List Char) : List Char := lowerAfter [] s

def upperFirst : List Char → List Char
  | [] => []
  | c :: cs => upper c ++ cs

theorem upper_of_ascii {c : Char} (h : isAscii c = true) : upper c = [c.toUpper] := by
  simp [upper, h]

theorem lower_of_ascii {c : Char} (h : isAscii c = true) : lower c = [c.toLower] := by
  simp [lower, h]

theorem lowerAfter_of_ascii {s : List Char} (h : ∀ c ∈ s, isAscii c = true) (before : List Char) :
    lowerAfter before s = s.map Char.toLower := by
  induction s generalizing before with
  | nil => rfl
  | cons c cs ih =>
    have hc := h c List.mem_cons_self
    have hne : c ≠ capitalSigma := by
      intro h
      subst h
      revert hc
      decide
    simp [lowerAfter, hne, lower_of_ascii hc, ih (fun x hx => h x (List.mem_cons_of_mem _ hx))]

theorem lowercase_of_ascii {s : List Char} (h : ∀ c ∈ s, isAscii c = true) :
    lowercase s = s.map Char.toLower :=
  lowerAfter_of_ascii h []

end Text
end Facsimile
