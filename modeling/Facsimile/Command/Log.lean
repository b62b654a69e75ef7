import Facsimile.Command.Arguments
import Facsimile.Event

/-!
# The log

The lines of events, and which events are shown.
-/

namespace Facsimile

/-- The least important level that is shown; none if nothing is. -/
abbrev Threshold := Option Level

namespace Threshold

def shows (t : Threshold) (e : Event) : Bool :=
  t.any fun level => decide (e.level.detail ≤ level.detail)

def ofVerbosity (v : Verbosity) : Threshold :=
  if v.quiet then some .error else if v.verbose then some .debug else some .info

def names : List (String × Threshold) :=
  [("", some .error), ("off", none), ("error", some .error), ("warn", some .warn),
    ("info", some .info), ("debug", some .debug), ("trace", some .trace), ("0", none),
    ("1", some .error), ("2", some .warn), ("3", some .info), ("4", some .debug),
    ("5", some .trace)]

/-- The threshold that a text names, in letters of any case. -/
def ofName? (text : String) : Option Threshold :=
  names.lookup (String.ofList (text.toList.map Char.toLower))

/-- The threshold of a run: what the environment says goes before the options. -/
def choose (environment : Option String) (v : Verbosity) : Threshold :=
  (environment.bind ofName?).getD (ofVerbosity v)

end Threshold

namespace Log

/-- A character of a message.  Those that steer a terminal are shown by their code. -/
def visible (c : Char) : List Char :=
  let hex (n : Nat) : List Char := [Nat.digitChar (n / 16), Nat.digitChar (n % 16)]
  if c.toNat = 0x1B ∨ c.toNat = 0x07 ∨ c.toNat = 0x08 ∨ c.toNat = 0x0C ∨ c.toNat = 0x7F then
    '\\' :: 'x' :: hex c.toNat
  else if 0x80 ≤ c.toNat ∧ c.toNat ≤ 0x9F then ['\\', 'u', '{'] ++ hex c.toNat ++ ['}']
  else [c]

def line (e : Event) : String :=
  e.level.name ++ " " ++ e.target ++ ": " ++ String.ofList (e.message.toList.flatMap visible)

def lines (t : Threshold) (events : List Event) : List String := (events.filter t.shows).map line

end Log
end Facsimile
