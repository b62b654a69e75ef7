/-!
# Reserved words and their escape

A converted name that is a keyword of the generated language is put into an escape template, a text
that holds the placeholder.  The template `r#` + placeholder gives a raw identifier, which keeps the
name on the wire, but the path keywords have no raw form.
-/

namespace Facsimile
namespace Naming

/-- Keywords that stay keywords as raw identifiers. -/
def pathKeywords : List String := ["crate", "self", "super", "Self"]

/-- The keywords of the generated language, those kept for later use included. -/
def reservedWords : List String :=
  ["break", "continue", "else", "for", "if", "in", "loop", "match", "return", "while",
    "as", "const", "enum", "extern", "false", "fn", "impl", "let", "mod", "move", "mut", "pub",
    "ref", "static", "struct", "trait", "true", "type", "unsafe", "use", "where", "async",
    "await", "dyn",
    "crate", "self", "super", "Self",
    "abstract", "become", "box", "do", "final", "gen", "macro", "override", "priv", "try",
    "typeof", "unsized", "virtual", "yield"]

def isReserved (name : String) : Bool := reservedWords.contains name

def placeholder : String := "\x7bfield\x7d"

def rawTemplate : String := "r#\x7bfield\x7d"

def isRawTemplate (template : String) : Bool := template == rawTemplate

def holdsPlaceholder : List Char → Bool
  | [] => false
  | c :: cs => placeholder.toList.isPrefixOf (c :: cs) || holdsPlaceholder cs

/-- The template with `name` for every placeholder, found from left to right. -/
def substitute (name : List Char) : List Char → List Char
  | '{' :: 'f' :: 'i' :: 'e' :: 'l' :: 'd' :: '}' :: rest => name ++ substitute name rest
  | c :: rest => c :: substitute name rest
  | [] => []

def fillTemplate (template name : String) : String :=
  String.ofList (substitute name.toList template.toList)

/-- A reserved name is put into the template, any other is kept. -/
def escapeReserved (template name : String) : String :=
  if isReserved name then fillTemplate template name else name

/-- The name that an identifier has on the wire: the mark of a raw identifier is not part of it. -/
def unraw (ident : String) : String :=
  match ident.toList with
  | 'r' :: '#' :: rest => String.ofList rest
  | _ => ident

theorem escapeReserved_of_not_reserved {template name : String} (h : isReserved name = false) :
    escapeReserved template name = name := by
  simp [escapeReserved, h]

theorem pathKeywords_reserved : ∀ k ∈ pathKeywords, isReserved k = true := by
  decide

end Naming
end Facsimile
