import Facsimile.Text.CharRange
import Facsimile.Text.Split

/-!
# White space

The Unicode property `White_Space`, trimming by it, and the lines of a documentation text.
-/

namespace Facsimile
namespace Text

/-- Code points with `White_Space`. -/
def whiteSpace : CharRanges := [
  (0x9, 0xD), (0x20, 0x20), (0x85, 0x85), (0xA0, 0xA0), (0x1680, 0x1680), (0x2000, 0x200A),
  (0x2028, 0x2029), (0x202F, 0x202F), (0x205F, 0x205F), (0x3000, 0x3000)]

def isBlank (c : Char) : Bool := whiteSpace.contains c

def trim (s : List Char) : List Char := stripEnds isBlank s

/-- The lines of a documentation text: each trimmed, without blank lines at the start and at the
end.  A carriage return before a line feed is blank, so trimming removes it. -/
def docLines (docs : String) : List String :=
  (stripEnds List.isEmpty ((docs.toList.splitOn '\n').map trim)).map String.ofList

theorem lineFeed_not_mem_docLines {docs line : String} (h : line ∈ docLines docs) :
    '\n' ∉ line.toList := by
  obtain ⟨trimmed, htrimmed, rfl⟩ := List.mem_map.mp h
  have hmem := (stripEnds_sublist List.isEmpty _).mem htrimmed
  obtain ⟨part, hpart, rfl⟩ := List.mem_map.mp hmem
  rw [String.toList_ofList]
  intro hfeed
  exact not_mem_of_mem_splitOn hpart ((stripEnds_sublist isBlank part).mem hfeed)

end Text
end Facsimile
