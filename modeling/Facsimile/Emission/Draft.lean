import Facsimile.Emission.Block

/-!
# Drafts

The text of a file while it is written.  An empty line stands between two blocks and between the
header and the first block.
-/

namespace Facsimile

structure Draft where
  text : String
  blocks : Nat
  deriving DecidableEq, Repr

namespace Draft

def empty : Draft := ⟨"", 0⟩

/-- The first lines of the file of a source unit. -/
def header (unit : String) : String :=
  "// Code generated by typemirror from `" ++ unit ++ "`. DO NOT EDIT.\n\n" ++
    "use serde::\x7bDeserialize, Serialize\x7d;\n#[allow(unused_imports)]\n" ++
    "use std::collections::\x7bHashMap, HashSet\x7d;\n"

def addHeader (d : Draft) (unit : String) : Draft := { d with text := d.text ++ header unit }

def addBlock (d : Draft) (b : Block) : Draft :=
  ⟨d.text ++ (if d.text.isEmpty then "" else "\n") ++ b.text, d.blocks + 1⟩

def addBlocks (d : Draft) (bs : List Block) : Draft := bs.foldl addBlock d

theorem addBlocks_append (d : Draft) (bs cs : List Block) :
    d.addBlocks (bs ++ cs) = (d.addBlocks bs).addBlocks cs := by
  simp [addBlocks, List.foldl_append]

theorem blocks_addBlocks (d : Draft) (bs : List Block) :
    (d.addBlocks bs).blocks = d.blocks + bs.length := by
  induction bs generalizing d with
  | nil => rfl
  | cons b bs ih =>
    have := ih (d.addBlock b)
    simp only [addBlocks, List.foldl_cons, List.length_cons] at this ⊢
    rw [this]
    simp only [addBlock]
    omega

end Draft
end Facsimile
