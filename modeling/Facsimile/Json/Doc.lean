import Facsimile.Json.Number

/-!
# JSON documents

A document as it is written: the members of an object keep their order and may repeat a name.  A
string whose escapes name no text, because of a surrogate without its partner, and a number out of
range are kept as such, since a reader that passes over them accepts the document.
-/

namespace Facsimile
namespace Json

inductive Doc where
  | null
  | bool (b : Bool)
  | number (n : Option Number)
  | string (s : Option String)
  | array (items : List Doc)
  | object (members : List (Option String × Doc))

namespace Doc

def text (s : String) : Doc := .string (some s)

/-- An object whose names are all text. -/
def record (members : List (String × Doc)) : Doc :=
  .object (members.map fun (name, d) => (some name, d))

def ofOption (s : Option String) : Doc :=
  match s with
  | some s => text s
  | none => .null

def ofNat (n : Nat) : Doc := .number (some (.integer n))

/-- A character inside a string: quotes, backslashes and control characters are escaped. -/
def escapeChar (c : Char) : List Char :=
  if c = '"' then ['\\', '"']
  else if c = '\\' then ['\\', '\\']
  else if c.toNat < 0x20 then
    '\\' :: 'u' :: '0' :: '0' :: Nat.digitChar (c.toNat / 16) :: [Nat.digitChar (c.toNat % 16)]
  else [c]

/-- A string that is no text is written as a surrogate without its partner. -/
def renderString : Option String → String
  | some s => String.ofList ('"' :: s.toList.flatMap escapeChar ++ ['"'])
  | none => "\"\\ud800\""

/-- A number out of range is written as one. -/
def renderNumber : Option Number → String
  | some n => n.text
  | none => "1e999"

mutual
def render : Doc → String
  | .null => "null"
  | .bool true => "true"
  | .bool false => "false"
  | .number n => renderNumber n
  | .string s => renderString s
  | .array [] => "[]"
  | .array (d :: ds) => "[" ++ render d ++ renderItems ds
  | .object [] => "\x7b\x7d"
  | .object ((name, d) :: ms) => "\x7b" ++ renderString name ++ ":" ++ render d ++ renderMembers ms

def renderItems : List Doc → String
  | [] => "]"
  | d :: ds => "," ++ render d ++ renderItems ds

def renderMembers : List (Option String × Doc) → String
  | [] => "\x7d"
  | (name, d) :: ms => "," ++ renderString name ++ ":" ++ render d ++ renderMembers ms
end

end Doc
end Json
end Facsimile
