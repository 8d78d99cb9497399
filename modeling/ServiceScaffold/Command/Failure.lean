/-
How a command fails.

A `CommandError` is why a command ended early.  Its category decides the exit code, and `render`
is the text that is shown: the message, the causes below it when more detail is asked for, and the
suggestions.

* `CommandError.exitCode` — 2 for a mistake of the user, 3 for a missing file, 4 for an unusable
  config document, 1 for everything else.
* `CommandError.render` — the text for the error stream.
-/
import ServiceScaffold.Command.Style
import ServiceScaffold.Config.Error

namespace ServiceScaffold

/-- Why a command ended early. -/
inductive CommandError where
  /-- A config document is there already. -/
  | configExists (path : Path)
  /-- The config document cannot be used. -/
  | config (error : ConfigError)
  /-- The config document could not be written as JSON. -/
  | serialize (text : String)
  /-- A service or the run itself failed. -/
  | core (error : Error)
  /-- The system refused; `context` says what was tried. -/
  | io (context : String) (failure : IoFailure)
deriving DecidableEq, Repr, Inhabited

/-- The kind of a failure. -/
inductive CommandError.Category where
  | userError
  | notFound
  | configuration
  | internal
deriving DecidableEq, Repr, Inhabited

namespace CommandError

/-- Every category, with the gravest last. -/
def Category.all : List Category :=
  [.internal, .userError, .notFound, .configuration]

/-- The exit code of a category. -/
def Category.exitCode : Category → Nat
  | .internal => 1
  | .userError => 2
  | .notFound => 3
  | .configuration => 4

/-- A refusal of the system without further context. -/
def ofIo (failure : IoFailure) : CommandError :=
  .io failure.text failure

/-- The sentence shown for an error. -/
def message : CommandError → String
  | .configExists path => "Config file already exists at " ++ path.text
  | .config error => error.message
  | .serialize text => "Failed to serialize config: " ++ text
  | .core error => "Generation failed: " ++ error.message
  | .io context _ => "I/O error: " ++ context

/-- The category of an error. -/
def category : CommandError → Category
  | .configExists _ => .userError
  | .config (.read _ failure) =>
    if failure.kind = .notFound then .notFound else .configuration
  | .config _ => .configuration
  | .serialize _ => .internal
  | .core error =>
    match error.category with
    | .validation | .template => .userError
    | .io | .internal => .internal
  | .io _ _ => .internal

/-- The exit code of an error. -/
def exitCode (e : CommandError) : Nat :=
  e.category.exitCode

/-- What the user can try next. -/
def suggestions : CommandError → List String
  | .configExists path =>
    [ "'" ++ path.text ++ "' is already present",
      "Use --force to overwrite it",
      "Edit the existing file instead" ]
  | .config error => error.suggestions
  | .serialize _ => ["This is a bug, please report it"]
  | .core error => error.suggestions
  | .io context _ =>
    [ "I/O operation failed: " ++ context,
      "Check file permissions",
      "Check available disk space" ]

/-- The causes below an error, the nearest first.  An error of the generator is told twice: as
the cause of the command's failure and as the cause of that. -/
def causes : CommandError → List String
  | .configExists _ => []
  | .config error => error.cause?.toList
  | .serialize text => [text]
  | .core error => [error.message, error.message]
  | .io _ failure => [failure.text]

/-- The text of an error, with its causes if `verbose` and with colours if `color`. -/
def render (e : CommandError) (verbose color : Bool) : String :=
  let styled (style : String → String) (text : String) : String :=
    if color then style text else text
  let head :=
    "\n" ++ styled (fun t => Style.bold (Style.paint .red t)) "✗ Error:" ++ " " ++
      styled (Style.paint .red) e.message ++ "\n"
  let causeLines :=
    if verbose then
      e.causes.map fun cause => "  " ++ styled Style.dimmed "caused by:" ++ " " ++ cause ++ "\n"
    else []
  let suggestionLines :=
    ("\n" ++ styled (fun t => Style.bold (Style.paint .yellow t)) "Suggestions:" ++ "\n") ::
      e.suggestions.map fun suggestion => "  - " ++ suggestion ++ "\n"
  let more :=
    if verbose then ""
    else "\n" ++ styled Style.dimmed "Use -v / --verbose for more details." ++ "\n"
  head ++ String.join causeLines ++ String.join suggestionLines ++ more

end CommandError

end ServiceScaffold
