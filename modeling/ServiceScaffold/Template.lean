/-
Templates: literal text with placeholders in braces.

Every opening brace starts a placeholder, which runs to the next closing brace; what stands between
them, even another opening brace, is its name.  A closing brace outside a placeholder is literal
text, and there is no escape.

* `parse` — cuts a template into its parts; it fails only on a brace that is never closed, and
  then with the byte at which that brace stands.
* `unparse` — writes parts back.
* `render` — replaces each placeholder by its value, which is copied and never read again.
-/
import ServiceScaffold.Bindings
import ServiceScaffold.Error

namespace ServiceScaffold.Template

/-- A stretch of a template. -/
inductive Part where
  /-- Text copied as it stands. -/
  | literal (text : String)
  /-- A placeholder, by the name between its braces. -/
  | parameter (name : String)
deriving DecidableEq, Repr, Inhabited

/-- What the reader is inside of, with the characters read so far, last one first. -/
inductive Pending where
  | literal (read : List Char)
  | parameter (opened : Nat) (read : List Char)

/-- The part that pending literal text makes: none when it is empty. -/
def literalPart (read : List Char) : List Part :=
  if read.isEmpty then [] else [.literal (String.ofList read.reverse)]

/-- Reads on at byte `position` of a template. -/
def scan (position : Nat) : Pending → List Char → Except Error (List Part)
  | .literal read, [] => .ok (literalPart read)
  | .parameter opened _, [] => .error (.unclosedParameter opened)
  | .literal read, c :: rest =>
    if c = '{' then
      match scan (position + c.utf8Size) (.parameter position []) rest with
      | .ok parts => .ok (literalPart read ++ parts)
      | .error e => .error e
    else scan (position + c.utf8Size) (.literal (c :: read)) rest
  | .parameter opened read, c :: rest =>
    if c = '}' then
      match scan (position + c.utf8Size) (.literal []) rest with
      | .ok parts => .ok (.parameter (String.ofList read.reverse) :: parts)
      | .error e => .error e
    else scan (position + c.utf8Size) (.parameter opened (c :: read)) rest

/-- The parts of a template, in order. -/
def parse (template : String) : Except Error (List Part) :=
  scan 0 (.literal []) template.toList

/-- The template text of one part. -/
def Part.unparse : Part → String
  | .literal text => text
  | .parameter name => "\x7b" ++ name ++ "\x7d"

/-- The template text of a list of parts. -/
def unparse (parts : List Part) : String :=
  String.join (parts.map Part.unparse)

/-- The names of the placeholders in order of appearance, repeated ones included. -/
def parameters (parts : List Part) : List String :=
  parts.filterMap fun
    | .parameter name => some name
    | .literal _ => none

/-- The text of one part, with placeholders replaced. -/
def Part.render (bindings : Bindings) : Part → Except Error String
  | .literal text => .ok text
  | .parameter name =>
    match bindings.get? name with
    | some value => .ok value
    | none => .error (.missingParameter name)

/-- The text of a list of parts; the first placeholder without a value makes it fail. -/
def render (bindings : Bindings) : List Part → Except Error String
  | [] => .ok ""
  | part :: rest =>
    match part.render bindings with
    | .error e => .error e
    | .ok text =>
      match render bindings rest with
      | .error e => .error e
      | .ok more => .ok (text ++ more)

/-- Reads a template and renders it. -/
def fill (template : String) (bindings : Bindings) : Except Error String :=
  match parse template with
  | .error e => .error e
  | .ok parts => render bindings parts

/-- A template that parses is filled by rendering its parts. -/
theorem fill_of_parse {template : String} {parts : List Part} (h : parse template = .ok parts)
    (bindings : Bindings) : fill template bindings = render bindings parts := by
  simp only [fill, h]

theorem fill_of_parse_error {template : String} {e : Error} (h : parse template = .error e)
    (bindings : Bindings) : fill template bindings = .error e := by
  simp only [fill, h]

/-- Writes `items` one after another with `separator` between each two. -/
def join (separator : String) : List String → String
  | [] => ""
  | [only] => only
  | first :: rest => first ++ String.join (rest.map (separator ++ ·))

end ServiceScaffold.Template
