/-
Texts about the command line itself.

They are shown in place of a command's own output: help and the version to whoever asks for them,
a short reason and a pointer to the help to whoever mistypes, and the completion scripts that
shells take to offer the words of the command line.

* `UsageError.text` — what is shown for a command line that is not carried out.
* `Environment.wantsColor` — whether it is shown in colours.
* `Shell.script` — the completion script of a shell.
-/
import ServiceScaffold.Command.Console
import ServiceScaffold.Command.Reading

namespace ServiceScaffold

/-- The name of the program. -/
def programName : String := "digen"

/-- The version of the program. -/
def programVersion : String := "0.1.0"

/-- A flag by its long name, with the name of its value. -/
def Flag.form (flag : Flag) : String :=
  "--" ++ flag.long ++
    match flag.valueName? with
    | some name => " <" ++ name ++ ">"
    | none => ""

/-- A flag as it is listed in the help. -/
def Flag.usage (flag : Flag) : String :=
  let short :=
    match flag.short? with
    | some letter => "-" ++ letter.toString ++ ", "
    | none => "    "
  short ++ flag.form

/-- The lines of the help. -/
def helpLines : List String :=
  [ "Dependency-injection boilerplate generator", "",
    "Usage: " ++ programName ++ " [FLAGS] <COMMAND>", "",
    "Commands:",
    "  generate [SERVICE]...  Write the types and registration files (also: g)",
    "  init                   Write a starter config document",
    "  completions <SHELL>    Write a completion script",
    "  help                   Show this help", "",
    "Flags:" ] ++
    (Scope.flags .program).map (fun flag => "  " ++ flag.usage) ++
    ["", "Flags of generate:"] ++
    ((Scope.flags (.command .generate)).filter fun flag => !Scope.globalFlags.contains flag).map
      (fun flag => "  " ++ flag.usage) ++
    ["", "Flags of init:", "  " ++ Flag.force.usage]

/-- Why a command line is not carried out, in a few words; `mark` is put on what is at fault. -/
def UsageError.reason (mark : String → String) : UsageError → String
  | .help | .version | .helpForMissing => ""
  | .missingSubcommand => "a command is required"
  | .invalidSubcommand => "there is no such command"
  | .unknownArgument => "unexpected argument"
  | .missingValue flag => "a value is required for '" ++ mark flag.form ++ "' but none was supplied"
  | .invalidValue => "a value is not one of the possible values"
  | .valueValidation => "a value is out of range"
  | .tooManyValues => "a flag without a value was given one"
  | .argumentConflict => "flags exclude one another or were repeated"
  | .missingRequired => "a required argument is missing"

/-- Where it is shown: what was asked for is output, all else an error. -/
def UsageError.stream : UsageError → Stream
  | .help | .version => .output
  | _ => .error

/-- What is shown for a command line that is not carried out. -/
def UsageError.text (color : Bool) (e : UsageError) : String :=
  let lines (ls : List String) : String := String.join (ls.map (· ++ "\n"))
  let mark (codes : List String) (text : String) : String :=
    if color then Style.marked codes text else text
  match e with
  | .help | .helpForMissing => lines helpLines
  | .version => lines [programName ++ " " ++ programVersion]
  | _ =>
    lines
      [ mark ["1", Color.red.code] "error:" ++ " " ++ e.reason (mark [Color.yellow.code]), "",
        "For more information, try '" ++ mark ["1"] "--help" ++ "'." ]

/-- Whether a variable is there and not empty. -/
def Environment.isFilled (environment : Environment) (name : String) : Bool :=
  (environment.lookup name).any (· != "")

/-- Whether texts about the command line are in colours.  A variable can forbid them, another can
force them whatever its value says, and a third can give them up; otherwise they are for terminals
that are known to have colours. -/
def Environment.wantsColor (environment : Environment) (isTerminal : Bool) : Bool :=
  let wish := environment.lookup "CLICOLOR"
  if environment.isFilled Reading.noColorVariable then false
  else if environment.isFilled "CLICOLOR_FORCE" then true
  else if wish = some "0" then false
  else
    isTerminal && (wish.isSome || (environment.lookup "TERM").any (· != "dumb") ||
      (environment.lookup "CI").isSome)

/-- The words that completion offers. -/
def completionWords : List String :=
  ["generate", "init", "completions", "help"] ++
    (Scope.flags .program ++ Scope.flags (.command .generate) ++ [Flag.force]).eraseDups.map
      fun flag => "--" ++ flag.long

/-- The completion script of a shell. -/
def Shell.script (shell : Shell) : String :=
  let words := " ".intercalate completionWords
  let lines (ls : List String) : String := String.join (ls.map (· ++ "\n"))
  match shell with
  | .bash => lines ["complete -o default -W '" ++ words ++ "' " ++ programName]
  | .zsh =>
    lines ["#compdef " ++ programName, "_arguments '*: :(" ++ words ++ ")'"]
  | .fish => lines ["complete -c " ++ programName ++ " -a '" ++ words ++ "'"]
  | .powerShell =>
    lines
      [ "Register-ArgumentCompleter -Native -CommandName " ++ programName ++ " -ScriptBlock \x7b",
        "  param($word)",
        "  -split '" ++ words ++ "' | Where-Object \x7b $_ -like \"$word*\" \x7d",
        "\x7d" ]
  | .elvish =>
    lines ["set edit:completion:arg-completer[" ++ programName ++ "] = \x7b |@args| put " ++
      words ++ " \x7d"]

end ServiceScaffold
