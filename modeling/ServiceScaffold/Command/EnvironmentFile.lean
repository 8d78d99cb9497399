/-
Environment files.

An environment file holds one assignment to a line, `NAME=value`, perhaps after the word `export`.
A value may be quoted: between single quotes every character stands for itself, between double
quotes and outside quotes a backslash escapes the next character and `$NAME` or `${NAME}` stands
for the value of a variable.  A quoted value may go on over several lines, and `#` after a blank
starts a comment.  Variables that are set already keep their values, and everything from the first
line that cannot be read on is ignored.  No variable can hold a zero byte: a file that would set one
to such a value is an error.

The name of an assigned variable is made of ASCII letters, digits, `_` and `.`; after a dollar sign
without braces a name is made of letters and digits of any script.

* `EnvironmentFile.lines` — the lines of a file, quoted line breaks not counting.
* `EnvironmentFile.assignment` — the assignment on a line.
* `EnvironmentFile.load` — the environment after a file.
* `EnvironmentFile.AssignmentError` — why the assignments of a file cannot be carried out.
-/
import ServiceScaffold.Blank
import ServiceScaffold.Command.Reading
import ServiceScaffold.Letter.Alphanumeric

namespace ServiceScaffold.EnvironmentFile

/-- Where in a line the search for its end is. -/
inductive Quoting where
  | plain
  | blank
  | escape
  | single
  | singleEscape
  | double
  | doubleEscape
deriving DecidableEq, Repr

/-- Where the search is after one more character; `none` at the start of a comment. -/
def Quoting.next? (q : Quoting) (c : Char) : Option Quoting :=
  match q with
  | .blank =>
    if c = '#' then none
    else some (if c = '\\' then .escape else if c = '"' then .double
      else if c = '\'' then .single else .plain)
  | .plain =>
    some (if isBlank c && c != '\n' && c != '\r' then .blank else if c = '\\' then .escape
      else if c = '"' then .double else if c = '\'' then .single else .plain)
  | .escape => some .plain
  | .double => some (if c = '\\' then .doubleEscape else if c = '"' then .plain else .double)
  | .doubleEscape => some .double
  | .single => some (if c = '\\' then .singleEscape else if c = '\'' then .plain else .single)
  | .singleEscape => some .single

/-- Reads a piece of a line up to a comment: what stands before the comment, and where the search
is at the end; `none` when a comment ends the line. -/
def readPiece : Quoting → List Char → List Char × Option Quoting
  | q, [] => ([], some q)
  | q, c :: rest =>
    match q.next? c with
    | none => ([], none)
    | some q =>
      let (kept, final) := readPiece q rest
      (c :: kept, final)

/-- Drops a line break at the end. -/
def dropLineBreak (s : List Char) : List Char :=
  match s.reverse with
  | '\n' :: '\r' :: rest => rest.reverse
  | '\n' :: rest => rest.reverse
  | _ => s

/-- The lines of a file, from its physical lines with their line breaks, each of them `none` when
it is not text.  `begun` is the part of a line whose quotes are still open. -/
def joinLines (begun : List Char) (q : Quoting) :
    List (Option (List Char)) → List (Option (List Char))
  | [] => if q = .plain then [] else [none]
  | none :: _ => [none]
  | some piece :: rest =>
    let all := begun ++ piece
    if (trimStart all).head? = some '#' then some [] :: joinLines [] .plain rest
    else
      match readPiece q piece with
      | (kept, none) => some (begun ++ kept) :: joinLines [] .plain rest
      | (_, some .plain) => some (dropLineBreak all) :: joinLines [] .plain rest
      | (_, some q) => joinLines all q rest

/-- Cuts bytes after each line break. -/
def cutBytes : List UInt8 → List (List UInt8)
  | [] => []
  | b :: rest =>
    if b = 10 then [b] :: cutBytes rest
    else
      match cutBytes rest with
      | [] => [[b]]
      | line :: lines => (b :: line) :: lines

/-- Drops a byte order mark. -/
def dropMark : List UInt8 → List UInt8
  | 0xEF :: 0xBB :: 0xBF :: rest => rest
  | bytes => bytes

/-- The lines of a file. -/
def lines (bytes : ByteArray) : List (Option (List Char)) :=
  joinLines [] .plain <| (cutBytes (dropMark bytes.toList)).map fun line =>
    (String.fromUTF8? ⟨line.toArray⟩).map String.toList

/-- The values of variables assigned so far in the file, over those of the environment. -/
structure Known where
  environment : Environment
  assigned : Environment
deriving Repr

/-- What follows a name and an equals sign in the environment, seen as a list of `NAME=value` texts.
A name with an equals sign of its own reaches into a value: of `A=B=c`, the name `A=B` gives `c`. -/
def textAfter? (environment : Environment) (name : List Char) : Option (List Char) :=
  environment.findSome? fun (key, value) =>
    (name ++ ['=']).isPrefixOf? (key.toList ++ '=' :: value.toList)

/-- The value that a name stands for after a dollar sign; nothing if it has none. -/
def Known.expand (known : Known) (name : List Char) : List Char :=
  match textAfter? known.environment name with
  | some value => value
  | none => ((known.assigned.lookup (String.ofList name)).getD "").toList

/-- Where in a value the reader is. -/
inductive ValueState where
  /-- In plain text, or between double quotes. -/
  | text (double : Bool)
  /-- After a backslash. -/
  | escape (double : Bool)
  /-- Between single quotes. -/
  | single
  /-- After a dollar sign and a part of a name. -/
  | name (double : Bool) (read : List Char)
  /-- After a dollar sign, a brace and a part of a name. -/
  | bracedName (double : Bool) (read : List Char)
  /-- After the end of the value. -/
  | done
deriving DecidableEq, Repr

/-- Puts text in front of a value. -/
def addText (text : List Char) : Option (List Char) → Option (List Char)
  | some value => some (text ++ value)
  | none => none

/-- Reads a value. -/
def readValue (known : Known) : ValueState → List Char → Option (List Char)
  | .text false, [] => some []
  | .text true, [] => none
  | .escape double, [] => if double then none else some []
  | .single, [] => none
  | .name double read, [] => if double then none else some (known.expand read)
  | .bracedName _ _, [] => none
  | .done, [] => some []
  | .done, c :: rest =>
    if c = ' ' ∨ c = '\t' then readValue known .done rest
    else if c = '#' then some []
    else none
  | .escape double, c :: rest =>
    if c ∈ ['\\', '\'', '"', '$', ' '] then addText [c] (readValue known (.text double) rest)
    else if c = 'n' then addText ['\n'] (readValue known (.text double) rest)
    else none
  | .single, c :: rest =>
    if c = '\'' then readValue known (.text false) rest
    else addText [c] (readValue known .single rest)
  | .name double read, c :: rest =>
    if Letter.isAlphanumeric c then readValue known (.name double (read ++ [c])) rest
    else if c = '{' ∧ read = [] then readValue known (.bracedName double []) rest
    else if c = '$' then addText (known.expand read) (readValue known (.name double []) rest)
    else addText (known.expand read ++ [c]) (readValue known (.text double) rest)
  | .bracedName double read, c :: rest =>
    if c = '}' then addText (known.expand read) (readValue known (.text double) rest)
    else readValue known (.bracedName double (read ++ [c])) rest
  | .text double, c :: rest =>
    if c = '$' then readValue known (.name double []) rest
    else if c = '\\' then readValue known (.escape double) rest
    else if c = '"' then readValue known (.text (!double)) rest
    else if double then addText [c] (readValue known (.text true) rest)
    else if c = '\'' then readValue known .single rest
    else if c = ' ' ∨ c = '\t' then readValue known .done rest
    else addText [c] (readValue known (.text false) rest)

/-- A character of a name after its first one. -/
def isNameChar (c : Char) : Bool :=
  c.isAlphanum || c == '_' || c == '.'

/-- Reads a name at the start of a text. -/
def readName? (s : List Char) : Option (List Char × List Char) :=
  match s with
  | c :: _ => if c.isAlpha || c == '_' then some (s.takeWhile isNameChar, s.dropWhile isNameChar)
    else none
  | [] => none

/-- Reads an equals sign, and blanks before it. -/
def readEquals? (s : List Char) : Option (List Char) :=
  match trimStart s with
  | '=' :: rest => some rest
  | _ => none

/-- Reads the name of an assignment up to its equals sign. -/
def readTarget? (s : List Char) : Option (List Char × List Char) := do
  let (name, rest) ← readName? s
  match readEquals? rest with
  | some rest => return (name, rest)
  | none =>
    if name = "export".toList then
      let (name, rest) ← readName? (trimStart rest)
      return (name, ← readEquals? rest)
    else none

/-- The assignment on a line: `none` when the line cannot be read, and no assignment for an
empty line or a comment. -/
def assignment (known : Known) (line : List Char) : Option (Option (String × String)) :=
  let s := trimStart (trimEnd line)
  if s = [] ∨ s.head? = some '#' then some none
  else
    match readTarget? s with
    | none => none
    | some (name, rest) =>
      let rest := trimStart rest
      if rest = [] ∨ rest.head? = some '#' then some (some (String.ofList name, ""))
      else
        (readValue known (.text false) rest).map fun value =>
          some (String.ofList name, String.ofList value)

/-- Why the assignments of a file cannot be carried out. -/
inductive AssignmentError where
  /-- The value for a variable has a zero byte in it. -/
  | zeroByte (name : String)
deriving DecidableEq, Repr, Inhabited

/-- What is said when assignments cannot be carried out. -/
def AssignmentError.message : AssignmentError → String
  | .zeroByte name =>
    "failed to set environment variable '" ++ name ++ "': its value has a zero byte in it"

/-- Notes an assignment: a variable that is set keeps its value, and no other can be set to a
value with a zero byte. -/
def Known.assign (known : Known) (name value : String) : Except AssignmentError Known :=
  let assigned := (name, value) :: known.assigned
  if (known.environment.lookup name).isSome then .ok ⟨known.environment, assigned⟩
  else if '\x00' ∈ value.toList then .error (.zeroByte name)
  else .ok ⟨known.environment ++ [(name, value)], assigned⟩

/-- Carries out the assignments of lines, up to the first that cannot be read. -/
def loadLines (known : Known) :
    List (Option (List Char)) → Except AssignmentError Environment
  | [] => .ok known.environment
  | none :: _ => .ok known.environment
  | some line :: rest =>
    match assignment known line with
    | none => .ok known.environment
    | some none => loadLines known rest
    | some (some (name, value)) =>
      match known.assign name value with
      | .error e => .error e
      | .ok known => loadLines known rest

/-- The variables in a block of `NAME=value` texts, each ended by a zero byte. -/
def ofBlock (bytes : ByteArray) : Environment :=
  let texts := ((String.fromUTF8? bytes).getD "").splitOn "\x00"
  texts.filterMap fun text =>
    match Reading.cutAtEquals text.toList with
    | (name, some value) => some (String.ofList name, String.ofList value)
    | (_, none) => none

/-- The environment after a file. -/
def load (environment : Environment) (bytes : ByteArray) : Except AssignmentError Environment :=
  loadLines ⟨environment, []⟩ (lines bytes)

end ServiceScaffold.EnvironmentFile
