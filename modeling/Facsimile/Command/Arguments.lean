import Facsimile.Text.Split

/-!
# Command lines

A command line is a list of words.  Options may stand before the name of a command, where they
concern all commands, and behind it.  `Invocation.read?` gives nothing for a command line that is
not used properly.
-/

namespace Facsimile

inductive Switch where
  | verbose
  | quiet
  | version
  | config
  | output
  | dryRun
  deriving DecidableEq, Repr

namespace Switch

def long : Switch → String
  | .verbose => "verbose"
  | .quiet => "quiet"
  | .version => "version"
  | .config => "config"
  | .output => "output"
  | .dryRun => "dry-run"

def short? : Switch → Option Char
  | .verbose => some 'v'
  | .quiet => some 'q'
  | .version => some 'V'
  | .config => some 'c'
  | .output => some 'o'
  | .dryRun => none

def takesValue : Switch → Bool
  | .config | .output => true
  | .verbose | .quiet | .version | .dryRun => false

end Switch

inductive Item where
  | switch (s : Switch)
  | setting (s : Switch) (value : String)
  | operand (text : String)
  /-- Two dashes: what follows is operands. -/
  | endOfOptions
  | fault
  deriving DecidableEq, Repr

namespace Item

def joined (s : Switch) (value : List Char) : Item := .setting s (String.ofList value)

/-- The items of a word of short options, and the last switch if its value is the next word. -/
def ofShorts (known : List Switch) : List Char → List Item × Option Switch
  | [] => ([], none)
  | c :: cs =>
    match known.find? fun s => s.short? == some c with
    | none => ([.fault], none)
    | some s =>
      if s.takesValue then
        match cs with
        | [] => ([], some s)
        | '=' :: value => ([joined s value], none)
        | value => ([joined s value], none)
      else
        let (items, pending) := ofShorts known cs
        (.switch s :: items, pending)

/-- The item of a long option, or the switch if its value is the next word. -/
def ofLong (known : List Switch) (text : List Char) : List Item × Option Switch :=
  let (name, value) :=
    match text.splitOn '=' with
    | [] => ([], none)
    | [name] => (name, none)
    | name :: _ => (name, some (text.drop (name.length + 1)))
  match known.find? fun s => s.long.toList == name with
  | none => ([.fault], none)
  | some s =>
    match s.takesValue, value with
    | true, some value => ([joined s value], none)
    | true, none => ([], some s)
    | false, some _ => ([.fault], none)
    | false, none => ([.switch s], none)

/-- Whether a word is an option and no operand: a dash alone is an operand. -/
def isOption (word : String) : Bool :=
  match word.toList with
  | '-' :: _ :: _ => true
  | _ => false

def ofWord (known : List Switch) (word : String) : List Item × Option Switch :=
  match word.toList with
  | '-' :: '-' :: name => ofLong known name
  | '-' :: c :: cs => ofShorts known (c :: cs)
  | _ => ([.operand word], none)

/-- The items of a list of words, each with the words behind it.  `pending` waits for its value.
Behind two dashes all words are operands. -/
def ofWords (known : List Switch) (operandsOnly : Bool) (pending : Option Switch) :
    List String → List (Item × List String)
  | [] => if pending.isSome then [(.fault, [])] else []
  | word :: rest =>
    if operandsOnly then (.operand word, rest) :: ofWords known true none rest
    else
      match pending with
      | some s =>
        if isOption word then [(.fault, rest)]
        else (.setting s word, rest) :: ofWords known false none rest
      | none =>
        if word = "--" then (.endOfOptions, rest) :: ofWords known true none rest
        else
          let (items, pending) := ofWord known word
          items.map (·, rest) ++ ofWords known false pending rest

end Item

/-- How much is logged, as the options of one level say. -/
structure Verbosity where
  verbose : Bool
  quiet : Bool
  deriving DecidableEq, Repr

namespace Verbosity

def unset : Verbosity := ⟨false, false⟩

/-- A level may not say both. -/
def isConsistent (v : Verbosity) : Bool := !(v.verbose && v.quiet)

def join (v w : Verbosity) : Verbosity := ⟨v.verbose || w.verbose, v.quiet || w.quiet⟩

end Verbosity

/-- What is known of a command behind its name. -/
structure CommandOptions where
  verbosity : Verbosity
  model : Option String
  config : Option String
  output : Option String
  dryRun : Bool
  deriving DecidableEq, Repr

namespace CommandOptions

def empty : CommandOptions := ⟨.unset, none, none, none, false⟩

/-- Sets what may be set once. -/
def assign? {α : Type} (seen : Option α) (value : α) : Option (Option α) :=
  if seen.isSome then none else some (some value)

/-- Turns on what may be turned on once. -/
def turnOn? (seen : Bool) : Option Bool := if seen then none else some true

def path? (text : String) : Option String := if text.isEmpty then none else some text

def take? (takesModel : Bool) (o : CommandOptions) : Item → Option CommandOptions
  | .switch .verbose => do
    return { o with verbosity := { o.verbosity with verbose := ← turnOn? o.verbosity.verbose } }
  | .switch .quiet => do
    return { o with verbosity := { o.verbosity with quiet := ← turnOn? o.verbosity.quiet } }
  | .switch .dryRun => do return { o with dryRun := ← turnOn? o.dryRun }
  | .setting .config value => do return { o with config := ← assign? o.config (← path? value) }
  | .setting .output value => do return { o with output := ← assign? o.output (← path? value) }
  | .operand text => do
    if takesModel then return { o with model := ← assign? o.model (← path? text) } else none
  | .endOfOptions => some o
  | _ => none

def read? (known : List Switch) (takesModel : Bool) (words : List String) :
    Option CommandOptions := do
  let items := (Item.ofWords known false none words).map Prod.fst
  let o ← items.foldlM (take? takesModel) empty
  if o.verbosity.isConsistent then return o else none

end CommandOptions

inductive Task where
  | generate (model : String) (config output : Option String) (dryRun : Bool)
  | check (config : Option String)
  deriving DecidableEq, Repr

inductive Invocation where
  | version
  | run (verbosity : Verbosity) (task : Task)
  deriving DecidableEq, Repr

namespace Invocation

def generateSwitches : List Switch := [.verbose, .quiet, .config, .output, .dryRun]
def checkSwitches : List Switch := [.verbose, .quiet, .config]
def commonSwitches : List Switch := [.verbose, .quiet, .version]

def readCommand? (v : Verbosity) (name : String) (words : List String) : Option Invocation :=
  match name with
  | "generate" => do
    let o ← CommandOptions.read? generateSwitches true words
    return .run (v.join o.verbosity) (.generate (← o.model) o.config o.output o.dryRun)
  | "check" => do
    let o ← CommandOptions.read? checkSwitches false words
    return .run (v.join o.verbosity) (.check o.config)
  | _ => none

/-- The items before the name of a command, which may not stand behind two dashes.  The version is
told as soon as it is asked for. -/
def readItems? (v : Verbosity) : List (Item × List String) → Option Invocation
  | (.switch .verbose, _) :: rest =>
    if v.verbose then none else readItems? { v with verbose := true } rest
  | (.switch .quiet, _) :: rest =>
    if v.quiet then none else readItems? { v with quiet := true } rest
  | (.switch .version, _) :: _ => some .version
  | (.operand name, words) :: _ => if v.isConsistent then readCommand? v name words else none
  | _ => none

def read? (words : List String) : Option Invocation :=
  readItems? .unset (Item.ofWords commonSwitches false none words)

end Invocation
end Facsimile
