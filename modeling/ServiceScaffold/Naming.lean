/-
Identifier case.

A name is a row of words, and `_`, `-` and the space are interchangeable boundaries between them.
The two joined forms (`camelCase`, `PascalCase`) look at those boundaries only: the first letter of
a word is raised and the rest of it is kept.  The two separated forms (`snake_case`, `kebab-case`)
also begin a new word before every uppercase letter, and lower that letter.

* `camel`, `pascal`, `snake`, `kebab`, `screamingSnake` — the five conversions.
* `NamingCase` — their names, and `NamingCase.convert`, which applies the one that is named.
* `NamingCase.ofName?_name` — every case is found under its own name.
-/
import ServiceScaffold.Letter.Mapping

namespace ServiceScaffold

namespace Naming

/-- The characters that stand between words. -/
def isBoundary (c : Char) : Bool :=
  c == '_' || c == '-' || c == ' '

/-- Joins words: boundaries are dropped, and the character that opens a word is raised.
`raise` says whether the next character opens one. -/
def joinWords : Bool → List Char → List Char
  | _, [] => []
  | raise, c :: rest =>
    if isBoundary c then joinWords true rest
    else (if raise then Letter.toUpper c else [c]) ++ joinWords false rest

/-- `helloWorld`: words joined, the first one opening with a small letter. -/
def camelChars (s : List Char) : List Char :=
  match s.dropWhile isBoundary with
  | [] => []
  | c :: rest => Letter.toLower c ++ joinWords false rest

/-- `HelloWorld`: words joined, each opening with a capital. -/
def pascalChars (s : List Char) : List Char :=
  joinWords true s

/-- What was written last: nothing yet, a separator, or a character of a word. -/
inductive Seam where
  | start
  | separator
  | word
deriving DecidableEq, Repr

/-- Separates words by `sep`, which is never written twice in a row; a capital that follows a
character of a word is preceded by `sep`, and every capital is lowered. -/
def separateWords (sep : Char) : Seam → List Char → List Char
  | _, [] => []
  | seam, c :: rest =>
    if isBoundary c then
      if seam = .separator then separateWords sep .separator rest
      else sep :: separateWords sep .separator rest
    else if Letter.isUppercase c then
      (if seam = .word then [sep] else []) ++ Letter.toLower c ++ separateWords sep .word rest
    else c :: separateWords sep .word rest

/-- `helloWorld`. -/
def camel (s : String) : String :=
  String.ofList (camelChars s.toList)

/-- `HelloWorld`. -/
def pascal (s : String) : String :=
  String.ofList (pascalChars s.toList)

/-- `hello_world`. -/
def snake (s : String) : String :=
  String.ofList (separateWords '_' .start s.toList)

/-- `hello-world`. -/
def kebab (s : String) : String :=
  String.ofList (separateWords '-' .start s.toList)

/-- `HELLO_WORLD`: the snake form with every character raised. -/
def screamingSnake (s : String) : String :=
  String.ofList ((snake s).toList.flatMap Letter.toUpper)

end Naming

/-- The identifier conventions. -/
inductive NamingCase where
  | camel
  | pascal
  | snake
  | kebab
  | screamingSnake
deriving DecidableEq, Repr, Inhabited

namespace NamingCase

/-- Every convention. -/
def all : List NamingCase :=
  [.camel, .pascal, .snake, .kebab, .screamingSnake]

/-- The name of a convention. -/
def name : NamingCase → String
  | .camel => "camel"
  | .pascal => "pascal"
  | .snake => "snake"
  | .kebab => "kebab"
  | .screamingSnake => "screaming-snake"

/-- Converts a text to a convention. -/
def convert : NamingCase → String → String
  | .camel => Naming.camel
  | .pascal => Naming.pascal
  | .snake => Naming.snake
  | .kebab => Naming.kebab
  | .screamingSnake => Naming.screamingSnake

/-- The convention with exactly that name. -/
def ofExactName? (text : String) : Option NamingCase :=
  all.find? fun c => c.name == text

/-- The convention with that name, ASCII letters of either case counting as one. -/
def ofName? (text : String) : Option NamingCase :=
  all.find? fun c => c.name.toList == text.toList.map Char.toLower

/-- What is said of a text that names no convention. -/
def unknownMessage (text : String) : String :=
  "unknown naming case '" ++ text ++ "'"

theorem ofExactName?_name (c : NamingCase) : ofExactName? c.name = some c := by
  cases c <;> decide

theorem ofName?_name (c : NamingCase) : ofName? c.name = some c := by
  cases c <;> decide

end NamingCase

end ServiceScaffold
