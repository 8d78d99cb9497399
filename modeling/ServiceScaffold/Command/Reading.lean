/-
Reading command lines.

The words of a command line are read from left to right, first in the scope of the program and,
from the name of a command on, in the scope of that command.  A value is checked only when the next
flag or word is taken up, or at the end, so an unknown flag after a bad value is what is reported.
After two dashes every word is a plain word.

Each scope is checked on its own when its words are read: the scope of the command before that of
the program.  A global flag given in both scopes has the value of the command's scope; a value from
the environment stands in where a scope does not give the flag, and loses against a given one.

* `Reading.scan` — reads words in one scope.
* `Reading.check` — the demands on a scope that has been read.
* `Invocation.parse` — what a command line asks for.
-/
import ServiceScaffold.Command.Arguments

namespace ServiceScaffold

/-- The values of environment variables. -/
abbrev Environment := List (String × String)

/-- A value that has been read and not been checked. -/
inductive PendingValue where
  /-- The value of a flag; none as long as it has not been given. -/
  | flag (flag : Flag) (value : Option String)
  /-- The name of a shell. -/
  | shell (text : String)
deriving DecidableEq, Repr, Inhabited

/-- What has been read in a scope. -/
structure Reading where
  scope : Scope
  /-- The flags given, with their values, in order. -/
  given : List (Flag × String) := []
  /-- The plain words of a `generate` command. -/
  words : List String := []
  /-- The shell of a `completions` command. -/
  shell : Option Shell := none
  /-- Whether a shell has been named, valid or not. -/
  shellNamed : Bool := false
  /-- The value to be checked next. -/
  pending : Option PendingValue := none
  /-- Whether the next word is the value of a flag. -/
  awaiting : Bool := false
  /-- Whether two dashes have been read. -/
  afterDashes : Bool := false
deriving DecidableEq, Repr, Inhabited

namespace Reading

/-- Whether a flag was given. -/
def has (r : Reading) (flag : Flag) : Bool :=
  r.given.any fun entry => entry.1 == flag

/-- The value that was given to a flag. -/
def value? (r : Reading) (flag : Flag) : Option String :=
  r.given.lookup flag

/-- How often a flag was given. -/
def count (r : Reading) (flag : Flag) : Nat :=
  (r.given.filter fun entry => entry.1 == flag).length

/-- The number that decimal digits write; none for anything else. -/
def decimal? : List Char → Option Nat
  | [] => none
  | digits =>
    if digits.all Char.isDigit then
      some (digits.foldl (fun n c => n * 10 + (c.toNat - 48)) 0)
    else none

/-- The number of workers that a text names: from 1 to 65535, with or without a plus sign. -/
def jobs? (text : String) : Option Nat :=
  let digits :=
    match text.toList with
    | '+' :: rest => rest
    | s => s
  match decimal? digits with
  | none => none
  | some n => if 1 ≤ n ∧ n ≤ 65535 then some n else none

/-- The demand on the value of a flag: a path is not empty, and a number of workers is one. -/
def checkValue (flag : Flag) (value : String) : Except UsageError Unit :=
  match flag with
  | .config | .output => if value = "" then .error (.missingValue flag) else .ok ()
  | .jobs => if (jobs? value).isSome then .ok () else .error .valueValidation
  | _ => .ok ()

/-- Takes down a flag with a value; a flag with a value is given once. -/
def giveValue (r : Reading) (flag : Flag) (value : String) : Except UsageError Reading :=
  if r.has flag then .error .argumentConflict
  else
    match checkValue flag value with
    | .error e => .error e
    | .ok () => .ok { r with given := r.given ++ [(flag, value)] }

/-- Checks the pending value. -/
def settle (r : Reading) : Except UsageError Reading :=
  match r.pending with
  | none => .ok r
  | some (.flag flag none) => .error (.missingValue flag)
  | some (.flag flag (some value)) => { r with pending := none }.giveValue flag value
  | some (.shell text) =>
    match Shell.ofName? text with
    | none => .error .invalidValue
    | some shell => .ok { r with pending := none, shell := some shell }

/-- Takes down a flag without a value.  Only the flag for more detail may be repeated. -/
def giveSwitch (r : Reading) (flag : Flag) : Except UsageError Reading :=
  match flag with
  | .help => .error .help
  | .version => .error .version
  | .verbose => .ok { r with given := r.given ++ [(flag, "")] }
  | _ =>
    if r.has flag then .error .argumentConflict
    else .ok { r with given := r.given ++ [(flag, "")] }

/-- Takes up a flag without a value. -/
def takeSwitch (r : Reading) (flag : Flag) : Except UsageError Reading := do
  (← r.settle).giveSwitch flag

/-- Takes up a flag whose value is attached to it. -/
def takeAttached (r : Reading) (flag : Flag) (value : String) : Except UsageError Reading := do
  let r ← (← r.settle).giveValue flag value
  return { r with awaiting := false }

/-- Takes up a flag whose value is the next word. -/
def takeOpen (r : Reading) (flag : Flag) : Except UsageError Reading := do
  let r ← r.settle
  return { r with pending := some (.flag flag none), awaiting := true }

/-- A text cut at its first equals sign. -/
def cutAtEquals : List Char → List Char × Option (List Char)
  | [] => ([], none)
  | c :: rest =>
    if c = '=' then ([], some rest)
    else
      let (name, value) := cutAtEquals rest
      (c :: name, value)

/-- Reads what follows two dashes: a flag's name, perhaps with a value after an equals sign. -/
def readLong (r : Reading) (text : List Char) : Except UsageError Reading :=
  let (name, value) := cutAtEquals text
  match r.scope.flagOfLong? (String.ofList name) with
  | none => .error .unknownArgument
  | some flag =>
    match flag.takesValue, value with
    | true, some value => r.takeAttached flag (String.ofList value)
    | true, none => r.takeOpen flag
    | false, some _ => .error .tooManyValues
    | false, none => do
      let r ← r.takeSwitch flag
      return { r with awaiting := false }

/-- Reads what follows one dash: letters of flags, the last perhaps with its value. -/
def readShort : Reading → List Char → Except UsageError Reading
  | r, [] => .ok { r with awaiting := false }
  | r, letter :: rest =>
    match r.scope.flagOfShort? letter with
    | none => .error .unknownArgument
    | some flag =>
      if flag.takesValue then
        match rest with
        | [] => r.takeOpen flag
        | '=' :: value => r.takeAttached flag (String.ofList value)
        | value => r.takeAttached flag (String.ofList value)
      else
        match r.takeSwitch flag with
        | .error e => .error e
        | .ok r => readShort r rest

/-- Whether a word names a command, help included. -/
def isCommandWord (word : String) : Bool :=
  word == "help" || (CommandName.ofWord? word).isSome

/-- Reads a plain word. -/
def readWord (r : Reading) (word : String) : Except UsageError Reading :=
  match r.scope with
  | .program =>
    if r.afterDashes && isCommandWord word then .error .unknownArgument
    else .error .invalidSubcommand
  | .command .generate => do
    let r ← r.settle
    return { r with words := r.words ++ [word], awaiting := false }
  | .command .init => .error .unknownArgument
  | .command .completions =>
    if r.shellNamed then .error .unknownArgument
    else do
      let r ← r.settle
      return { r with pending := some (.shell word), shellNamed := true, awaiting := false }

/-- Takes a word as the value that a flag awaits. -/
def readAwaited (r : Reading) (word : String) : Reading :=
  match r.pending with
  | some (.flag flag none) =>
    { r with pending := some (.flag flag (some word)), awaiting := false }
  | _ => { r with awaiting := false }

/-- What asking for help about a command gives: help, if every word of the request names a
command below the last. -/
def helpRequest : List String → UsageError
  | [] => .help
  | [word] => if isCommandWord word then .help else .invalidSubcommand
  | _ :: _ :: _ => .invalidSubcommand

/-- Reads one word before two dashes that is no command name. -/
def readArgument (r : Reading) (word : String) : Except UsageError Reading :=
  match word.toList with
  | ['-', '-'] => .ok { r with afterDashes := true }
  | '-' :: '-' :: text => r.readLong text
  | '-' :: letter :: letters => r.readShort (letter :: letters)
  | _ => if r.awaiting then .ok (r.readAwaited word) else r.readWord word

/-- Reads words in one scope, up to the name of a command if the scope is the program's. -/
def scan : Reading → List String → Except UsageError (Reading × Option (CommandName × List String))
  | r, [] => .ok (r, none)
  | r, word :: rest =>
    if r.afterDashes then
      match r.readWord word with
      | .error e => .error e
      | .ok r => scan r rest
    else if r.scope = .program ∧ ¬ r.awaiting ∧ word = "help" then .error (helpRequest rest)
    else
      match if r.scope = .program ∧ ¬ r.awaiting then CommandName.ofWord? word else none with
      | some name => .ok (r, some (name, rest))
      | none =>
        match r.readArgument word with
        | .error e => .error e
        | .ok r => scan r rest

/-- The variable that stands in for the flag of a config document. -/
def configVariable : String := "DIGEN_CONFIG"

/-- The variable that turns colours off. -/
def noColorVariable : String := "NO_COLOR"

/-- Whether a text means no: it is empty, or one of a few words in letters of either case. -/
def isFalsey (text : String) : Bool :=
  ["", "n", "no", "f", "false", "off", "0"].any fun word =>
    word.toList == text.toList.map Char.toLower

/-- Checks the last pending value, and the values that the environment stands in with. -/
def complete (r : Reading) (environment : Environment) : Except UsageError Reading := do
  let r ← r.settle
  if !r.has .config && environment.lookup configVariable = some "" then
    throw (.missingValue .config)
  return r

/-- The demands on a scope that has been read. -/
def check (r : Reading) : Except UsageError Unit :=
  if r.has .quiet && r.has .verbose then .error .argumentConflict
  else if r.scope = .command .completions && r.shell.isNone then .error .missingRequired
  else .ok ()

/-- Where the value of a flag comes from, the weakest first. -/
inductive Origin where
  | fallback
  | environment
  | commandLine
deriving DecidableEq, Repr

/-- The strength of an origin. -/
def Origin.rank : Origin → Nat
  | .fallback => 0
  | .environment => 1
  | .commandLine => 2

/-- The value of the stronger origin; the inner scope's if they are equal. -/
def strongest {α : Type} (outer inner : α × Origin) : α :=
  if inner.2.rank < outer.2.rank then outer.1 else inner.1

/-- How much detail a scope asks for; the count stops at 255. -/
def verbosity (r : Reading) : Nat × Origin :=
  if r.has .verbose then (min (r.count .verbose) 255, .commandLine) else (0, .fallback)

/-- Whether a scope asks for quiet. -/
def quietness (r : Reading) : Bool × Origin :=
  if r.has .quiet then (true, .commandLine) else (false, .fallback)

/-- Whether a scope asks for no colours. -/
def colorless (r : Reading) (environment : Environment) : Bool × Origin :=
  if r.has .noColor then (true, .commandLine)
  else
    match environment.lookup noColorVariable with
    | some text => (!isFalsey text, .environment)
    | none => (false, .fallback)

/-- The config document that a scope asks for. -/
def configPath (r : Reading) (environment : Environment) : Option Path × Origin :=
  match r.value? .config with
  | some text => (some ⟨text⟩, .commandLine)
  | none =>
    match environment.lookup configVariable with
    | some text => (some ⟨text⟩, .environment)
    | none => (none, .fallback)

/-- The global options of a program's scope and a command's scope together. -/
def globals (outer inner : Reading) (environment : Environment) : GlobalOptions where
  verbose := strongest outer.verbosity inner.verbosity
  quiet := strongest outer.quietness inner.quietness
  noColor := strongest (outer.colorless environment) (inner.colorless environment)
  config := strongest (outer.configPath environment) (inner.configPath environment)

/-- The options of a `generate` command. -/
def generateOptions (r : Reading) : GenerateOptions where
  services := r.words
  output := (r.value? .output).map Path.mk
  jobs := (r.value? .jobs).bind jobs?
  library := r.value? .library
  containerType := r.value? .containerType
  contextType := r.value? .contextType
  typesModule := r.value? .typesModule
  dryRun := r.has .dryRun

/-- The command that a scope asks for. -/
def command (r : Reading) (name : CommandName) : Command :=
  match name with
  | .generate => .generate r.generateOptions
  | .init => .init (r.has .force)
  | .completions => .completions (r.shell.getD .bash)

/-- Whether nothing at all is given, on the command line or by the environment. -/
def isBlank (r : Reading) (environment : Environment) : Bool :=
  r.given.isEmpty && (environment.lookup noColorVariable).isNone &&
    (environment.lookup configVariable).isNone

end Reading

/-- What a command line asks for. -/
def Invocation.parse (environment : Environment) (words : List String) :
    Except UsageError Invocation := do
  let (outer, next) ← Reading.scan { scope := .program } words
  match next with
  | none =>
    let outer ← outer.complete environment
    throw (if outer.isBlank environment then .helpForMissing else .missingSubcommand)
  | some (name, rest) =>
    let (inner, _) ← Reading.scan { scope := .command name } rest
    let inner ← inner.complete environment
    inner.check
    let outer ← outer.complete environment
    outer.check
    return { globals := outer.globals inner environment, command := inner.command name }

end ServiceScaffold
