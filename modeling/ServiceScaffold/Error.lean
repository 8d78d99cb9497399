/-
What can go wrong.

An `Error` is a cause: a template that does not parse or lacks a value, a service that cannot be
built, a place on disk that refuses, or a run that finished with some services missing.  Its
wording, its category and the hints for the reader are functions of the cause, each written once.

* `Error.message` — the sentence shown to the user.
* `Error.category` — the coarse kind, from which a front end picks an exit code.
* `Error.suggestions` — what to try next, most specific first; never empty.
-/
import ServiceScaffold.Path

namespace ServiceScaffold

/-- A reason why templates, services or a run fail. -/
inductive Error where
  /-- An opening brace, at that byte of the template, without a closing one after it. -/
  | unclosedParameter (position : Nat)
  /-- A placeholder without a value. -/
  | missingParameter (name : String)
  /-- A service without a name. -/
  | emptyServiceName
  /-- A service text that is not a name or a name and an interface. -/
  | invalidServiceSpec (spec : String) (reason : String)
  /-- A path that could not be created or written. -/
  | filesystem (path : Path) (reason : String)
  /-- No worker could be started. -/
  | workerPool (reason : String)
  /-- A run after which `failed` of `total` services are missing files. -/
  | generationIncomplete (failed total : Nat)
  /-- The memory store was left in an unusable state. -/
  | lockPoisoned
deriving DecidableEq, Repr, Inhabited

/-- The coarse kind of an error. -/
inductive Error.Category where
  | validation
  | template
  | io
  | internal
deriving DecidableEq, Repr, Inhabited

namespace Error

/-- The sentence shown for an error. -/
def message : Error → String
  | .unclosedParameter position =>
    "Unclosed parameter starting at byte " ++ toString position ++ ": missing '\x7d'"
  | .missingParameter name => "Missing value for template parameter '" ++ name ++ "'"
  | .emptyServiceName => "Service name cannot be empty"
  | .invalidServiceSpec spec reason =>
    "Invalid service specification '" ++ spec ++ "': " ++ reason
  | .filesystem path reason => "Filesystem error at " ++ path.text ++ ": " ++ reason
  | .workerPool reason => "Failed to start worker pool: " ++ reason
  | .generationIncomplete failed total =>
    "Generation incomplete: " ++ toString failed ++ " of " ++ toString total ++ " services failed"
  | .lockPoisoned => "Filesystem lock poisoned"

/-- The category of an error. -/
def category : Error → Category
  | .unclosedParameter _ | .missingParameter _ => .template
  | .emptyServiceName | .invalidServiceSpec _ _ => .validation
  | .filesystem _ _ | .workerPool _ | .lockPoisoned => .io
  | .generationIncomplete _ _ => .internal

/-- What the user can try next. -/
def suggestions : Error → List String
  | .unclosedParameter position =>
    [ "A '\x7b' at byte " ++ toString position ++ " is never closed",
      "Every placeholder must look like \x7bname\x7d" ]
  | .missingParameter name =>
    [ "Bind a value for '" ++ name ++ "' before rendering",
      "Name patterns receive 'Name' and 'name' automatically" ]
  | .emptyServiceName =>
    [ "Every service needs a non-empty name", "Example: digen generate userService" ]
  | .invalidServiceSpec _ _ =>
    [ "Service specs look like NAME or NAME:Interface",
      "Example: digen generate userService:IUserService" ]
  | .filesystem path _ =>
    [ "Failed to access: " ++ path.text,
      "Check that you have write permissions",
      "Re-running overwrites any partially written output" ]
  | .workerPool _ =>
    [ "Try a smaller --jobs value", "Use --jobs 1 to generate sequentially" ]
  | .generationIncomplete _ _ =>
    [ "Fix the errors listed above and run the command again",
      "Files of successful services are already on disk" ]
  | .lockPoisoned => [ "A worker panicked while writing" ]

theorem suggestions_ne_nil (e : Error) : e.suggestions ≠ [] := by
  cases e <;> simp [suggestions]

end Error

end ServiceScaffold
