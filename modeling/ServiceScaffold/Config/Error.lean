/-
Why a config document cannot be used.

A `ConfigError` is a cause: the file cannot be read, its text is not JSON, or the value breaks the
format at one place.  The place is a `ConfigField`, written as a JSON path.

* `ConfigError.message` — the sentence shown for an error.
* `ConfigError.suggestions` — what to try next.
-/
import ServiceScaffold.Error
import ServiceScaffold.Filesystem.Failure

namespace ServiceScaffold

/-- A place in a config document. -/
inductive ConfigField where
  | root
  | output
  | services
  | service (index : Nat)
  | serviceName (index : Nat)
  | serviceInterface (index : Nat)
  | types
  | register
deriving DecidableEq, Repr, Inhabited

/-- The JSON path of a place. -/
def ConfigField.text : ConfigField → String
  | .root => "<root>"
  | .output => "output"
  | .services => "services"
  | .service index => "services[" ++ toString index ++ "]"
  | .serviceName index => "services[" ++ toString index ++ "].name"
  | .serviceInterface index => "services[" ++ toString index ++ "].interface"
  | .types => "types"
  | .register => "register"

/-- What a place has to hold. -/
inductive Expected where
  | object
  | string
  | array
  | stringOptions
deriving DecidableEq, Repr, Inhabited

/-- What a place has to hold, in words. -/
def Expected.text : Expected → String
  | .object => "an object"
  | .string => "a string"
  | .array => "an array"
  | .stringOptions => "an object of string options"

/-- A text that is not JSON: the file it came from, and what is said of it. -/
structure SyntaxFault where
  path : Path
  reason : String
deriving DecidableEq, Repr, Inhabited

/-- Why a config document cannot be used; `path` is the file it came from. -/
inductive ConfigError where
  /-- The file cannot be read. -/
  | read (path : Path) (failure : IoFailure)
  /-- The text is not JSON. -/
  | malformed (fault : SyntaxFault)
  /-- A required key is missing. -/
  | missingField (path : Path) (field : ConfigField)
  /-- A value has the wrong type. -/
  | invalidField (path : Path) (field : ConfigField) (expected : Expected)
  /-- A service is well-formed but not valid. -/
  | invalidService (path : Path) (field : ConfigField) (error : Error)
deriving DecidableEq, Repr, Inhabited

namespace ConfigError

/-- The file that an error is about. -/
def path : ConfigError → Path
  | .read path _ | .malformed ⟨path, _⟩ | .missingField path _ | .invalidField path _ _
  | .invalidService path _ _ => path

/-- The sentence shown for an error. -/
def message : ConfigError → String
  | .read path failure =>
    "Failed to read config file '" ++ path.text ++ "': " ++ failure.text
  | .malformed fault =>
    "Config file '" ++ fault.path.text ++ "' is not valid JSON: " ++ fault.reason
  | .missingField path field =>
    "Config file '" ++ path.text ++ "' is missing required field '" ++ field.text ++ "'"
  | .invalidField path field expected =>
    "Config file '" ++ path.text ++ "': field '" ++ field.text ++ "' must be " ++ expected.text
  | .invalidService path field error =>
    "Config file '" ++ path.text ++ "': service at '" ++ field.text ++ "' is invalid: " ++
      error.message

/-- The text of the cause below an error, if there is one. -/
def cause? : ConfigError → Option String
  | .read _ failure => some failure.text
  | .malformed fault => some fault.reason
  | .missingField _ _ | .invalidField _ _ _ => none
  | .invalidService _ _ error => some error.message

/-- What the user can try next. -/
def suggestions (e : ConfigError) : List String :=
  let file := e.path.text
  match e with
  | .read _ _ =>
    [ "Check that '" ++ file ++ "' exists and is readable",
      "Run 'digen init' to create a starter config" ]
  | .malformed _ =>
    [ "Fix the JSON syntax in '" ++ file ++ "'",
      "Run 'digen init --force' to start over from the example" ]
  | .missingField _ field =>
    [ "Add '" ++ field.text ++ "' to '" ++ file ++ "'",
      "Every service needs both \"name\" and \"interface\"" ]
  | .invalidField _ field expected =>
    [ "Change '" ++ field.text ++ "' in '" ++ file ++ "' to " ++ expected.text ]
  | .invalidService _ _ error => error.suggestions

end ConfigError

end ServiceScaffold
