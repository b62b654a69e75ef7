import Facsimile.Text.Quoted

/-!
# Blocks

A block is one type definition of the generated code, with all that is written about it.  Its text
is a list of lines, each ended by a line feed.
-/

namespace Facsimile

/-- What the serializer is told about a member. -/
structure Attributes where
  /-- The name on the wire, if the identifier is not that name. -/
  rename : Option String
  /-- Whether an absent value is left out. -/
  skipAbsent : Bool
  deriving DecidableEq, Repr

inductive Content where
  | field (type : String)
  | entry
  /-- A variant that holds the record of the same identifier. -/
  | variant
  deriving DecidableEq, Repr

structure Member where
  docs : List String
  attributes : Attributes
  ident : String
  content : Content
  deriving DecidableEq, Repr

inductive Shape where
  | record
  | enumeration
  /-- A union whose variants are told apart by the value under a key. -/
  | union (key : String)
  deriving DecidableEq, Repr

structure Block where
  docs : List String
  shape : Shape
  ident : String
  members : List Member
  deriving DecidableEq, Repr

def indent : String := "    "

def docLine (line : String) : String := if line.isEmpty then "///" else "/// " ++ line

namespace Attributes

def parts (a : Attributes) : List String :=
  (a.rename.map fun wire => "rename = " ++ Text.quote wire).toList ++
    if a.skipAbsent then ["skip_serializing_if = \"Option::is_none\""] else []

def lines (a : Attributes) : List String :=
  if a.parts.isEmpty then [] else [indent ++ "#[serde(" ++ ", ".intercalate a.parts ++ ")]"]

end Attributes

namespace Member

def declaration (m : Member) : String :=
  match m.content with
  | .field type => indent ++ "pub " ++ m.ident ++ ": " ++ type ++ ","
  | .entry => indent ++ m.ident ++ ","
  | .variant => indent ++ m.ident ++ "(" ++ m.ident ++ "),"

def lines (m : Member) : List String :=
  m.docs.map (fun line => indent ++ docLine line) ++ m.attributes.lines ++ [m.declaration]

end Member

namespace Shape

/-- The lines between the documentation of a block and its identifier. -/
def attributes : Shape → List String
  | .record => ["#[derive(Debug, Clone, PartialEq, Serialize, Deserialize)]"]
  | .enumeration => ["#[derive(Debug, Clone, Copy, PartialEq, Eq, Hash, Serialize, Deserialize)]"]
  | .union key =>
    ["#[derive(Debug, Clone, PartialEq, Serialize, Deserialize)]",
      "#[serde(tag = " ++ Text.quote key ++ ")]"]

def keyword : Shape → String
  | .record => "struct"
  | .enumeration | .union _ => "enum"

end Shape

namespace Block

/-- A record without fields stands on one line. -/
def body (b : Block) : List String :=
  let opening := "pub " ++ b.shape.keyword ++ " " ++ b.ident ++ " \x7b"
  if b.shape = .record ∧ b.members = [] then [opening ++ "\x7d"]
  else opening :: b.members.flatMap Member.lines ++ ["\x7d"]

theorem body_of_short {b : Block} (h : b.shape = .record ∧ b.members = []) :
    b.body = ["pub " ++ b.shape.keyword ++ " " ++ b.ident ++ " \x7b" ++ "\x7d"] := if_pos h

theorem body_of_long {b : Block} (h : ¬(b.shape = .record ∧ b.members = [])) :
    b.body = ("pub " ++ b.shape.keyword ++ " " ++ b.ident ++ " \x7b") ::
      b.members.flatMap Member.lines ++ ["\x7d"] := if_neg h

def lines (b : Block) : List String :=
  b.docs.map docLine ++ b.shape.attributes ++ b.body

end Block

def linesText (lines : List String) : String := String.join (lines.map (· ++ "\n"))

def Block.text (b : Block) : String := linesText b.lines

end Facsimile
