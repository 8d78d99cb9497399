/-
The command line.

The program takes global flags, one of three commands, and the flags and words of that command.
This module says which flags there are and what a command line asks for.

* `Flag`, `Scope` — the flags, and the flags of the program and of each command.
* `Invocation` — what a command line asks for.
* `UsageError` — the ways in which a command line is refused or asks for help.
-/
import ServiceScaffold.Path

namespace ServiceScaffold

/-- The flags of the command line. -/
inductive Flag where
  | verbose
  | quiet
  | noColor
  | config
  | help
  | version
  | output
  | jobs
  | library
  | containerType
  | contextType
  | typesModule
  | dryRun
  | force
deriving DecidableEq, Repr, Inhabited

namespace Flag

/-- The name after two dashes. -/
def long : Flag → String
  | .verbose => "verbose"
  | .quiet => "quiet"
  | .noColor => "no-color"
  | .config => "config"
  | .help => "help"
  | .version => "version"
  | .output => "output"
  | .jobs => "jobs"
  | .library => "library"
  | .containerType => "container-type"
  | .contextType => "context-type"
  | .typesModule => "types-module"
  | .dryRun => "dry-run"
  | .force => "force"

/-- The letter after one dash, if there is one. -/
def short? : Flag → Option Char
  | .verbose => some 'v'
  | .quiet => some 'q'
  | .config => some 'c'
  | .help => some 'h'
  | .version => some 'V'
  | .output => some 'o'
  | .jobs => some 'j'
  | .force => some 'f'
  | _ => none

/-- What the value after the flag is called; none follows a flag that is only given. -/
def valueName? : Flag → Option String
  | .config => some "FILE"
  | .output => some "DIR"
  | .jobs => some "N"
  | .library | .typesModule => some "PATH"
  | .containerType | .contextType => some "TYPE"
  | _ => none

/-- Whether a value follows the flag. -/
def takesValue (flag : Flag) : Bool :=
  flag.valueName?.isSome

end Flag

/-- The shells that a completion script can be written for. -/
inductive Shell where
  | bash
  | zsh
  | fish
  | powerShell
  | elvish
deriving DecidableEq, Repr, Inhabited

namespace Shell

/-- Every shell. -/
def all : List Shell :=
  [.bash, .zsh, .fish, .powerShell, .elvish]

/-- The name of a shell. -/
def name : Shell → String
  | .bash => "bash"
  | .zsh => "zsh"
  | .fish => "fish"
  | .powerShell => "power-shell"
  | .elvish => "elvish"

/-- The shell with exactly that name. -/
def ofName? (text : String) : Option Shell :=
  all.find? fun shell => shell.name == text

end Shell

/-- The commands. -/
inductive CommandName where
  | generate
  | init
  | completions
deriving DecidableEq, Repr, Inhabited

/-- The command of that name; `g` is short for `generate`. -/
def CommandName.ofWord? (word : String) : Option CommandName :=
  if word = "generate" ∨ word = "g" then some .generate
  else if word = "init" then some .init
  else if word = "completions" then some .completions
  else none

/-- The part of a command line that flags belong to: what stands before the command, or what
follows it. -/
inductive Scope where
  | program
  | command (name : CommandName)
deriving DecidableEq, Repr, Inhabited

namespace Scope

/-- The flags that may stand before or after the command. -/
def globalFlags : List Flag :=
  [.verbose, .quiet, .noColor, .config, .help]

/-- The flags of a scope. -/
def flags : Scope → List Flag
  | .program => globalFlags ++ [.version]
  | .command .generate =>
    globalFlags ++
      [.output, .jobs, .library, .containerType, .contextType, .typesModule, .dryRun]
  | .command .init => globalFlags ++ [.force]
  | .command .completions => globalFlags

/-- The flag of a scope with that name. -/
def flagOfLong? (scope : Scope) (name : String) : Option Flag :=
  scope.flags.find? fun flag => flag.long == name

/-- The flag of a scope with that letter. -/
def flagOfShort? (scope : Scope) (letter : Char) : Option Flag :=
  scope.flags.find? fun flag => flag.short? == some letter

end Scope

/-- What the global flags ask for. -/
structure GlobalOptions where
  /-- How often more detail was asked for. -/
  verbose : Nat := 0
  quiet : Bool := false
  noColor : Bool := false
  config : Option Path := none
deriving DecidableEq, Repr, Inhabited

/-- What a `generate` command asks for. -/
structure GenerateOptions where
  /-- The specifications of services. -/
  services : List String := []
  output : Option Path := none
  jobs : Option Nat := none
  library : Option String := none
  containerType : Option String := none
  contextType : Option String := none
  typesModule : Option String := none
  dryRun : Bool := false
deriving DecidableEq, Repr, Inhabited

/-- What a command asks for. -/
inductive Command where
  | generate (options : GenerateOptions)
  | init (force : Bool)
  | completions (shell : Shell)
deriving DecidableEq, Repr, Inhabited

/-- What a command line asks for. -/
structure Invocation where
  globals : GlobalOptions
  command : Command
deriving DecidableEq, Repr, Inhabited

/-- Why a command line is not carried out. -/
inductive UsageError where
  /-- Help was asked for. -/
  | help
  /-- The version was asked for. -/
  | version
  /-- Nothing was asked for. -/
  | helpForMissing
  | missingSubcommand
  | invalidSubcommand
  | unknownArgument
  /-- The value of a flag is missing or empty. -/
  | missingValue (flag : Flag)
  | invalidValue
  | valueValidation
  | tooManyValues
  | argumentConflict
  | missingRequired
deriving DecidableEq, Repr, Inhabited

/-- The exit code of a command line that is not carried out. -/
def UsageError.exitCode : UsageError → Nat
  | .help | .version => 0
  | _ => 2

end ServiceScaffold
