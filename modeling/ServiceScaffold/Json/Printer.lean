/-
Writing JSON.

Strings are written with the short escapes where JSON has one and `\u00xx` for the other control
characters; every other character stands for itself.  Values are written in two layouts: without
any blank, or with one item to a line, two blanks deeper than what holds it.

* `Json.quote` — a text as a JSON string.
* `Json.compact`, `Json.pretty` — the two layouts.
-/
import ServiceScaffold.Json

namespace ServiceScaffold.Json

/-- The lowercase hexadecimal digit of a number below 16. -/
def hexChar (n : Nat) : Char :=
  if n < 10 then Char.ofNat (48 + n) else Char.ofNat (87 + n)

/-- A character inside a string. -/
def quoteChar (c : Char) : List Char :=
  if c = '"' then ['\\', '"']
  else if c = '\\' then ['\\', '\\']
  else if c = '\x08' then ['\\', 'b']
  else if c = '\x0c' then ['\\', 'f']
  else if c = '\n' then ['\\', 'n']
  else if c = '\r' then ['\\', 'r']
  else if c = '\t' then ['\\', 't']
  else if c.toNat < 0x20 then
    ['\\', 'u', '0', '0', hexChar (c.toNat / 16), hexChar (c.toNat % 16)]
  else [c]

/-- A text as a JSON string. -/
def quote (text : String) : List Char :=
  '"' :: (text.toList.flatMap quoteChar ++ ['"'])

/-- Writes texts with `separator` between each two. -/
def separated (separator : List Char) : List (List Char) → List Char
  | [] => []
  | [only] => only
  | first :: rest => first ++ separator ++ separated separator rest

mutual

/-- A value without blanks. -/
def compactChars : Json → List Char
  | .null => "null".toList
  | .bool true => "true".toList
  | .bool false => "false".toList
  | .number text => text.toList
  | .string text => quote text
  | .array items => '[' :: (separated [','] (compactItems items) ++ [']'])
  | .object members => '{' :: (separated [','] (compactMembers members) ++ ['}'])

/-- The items of an array, without blanks. -/
def compactItems : List Json → List (List Char)
  | [] => []
  | item :: rest => compactChars item :: compactItems rest

/-- The members of an object, without blanks. -/
def compactMembers : List (String × Json) → List (List Char)
  | [] => []
  | (key, value) :: rest => (quote key ++ ':' :: compactChars value) :: compactMembers rest

end

/-- A line break and the blanks of a level. -/
def newline (level : Nat) : List Char :=
  '\n' :: List.replicate (2 * level) ' '

mutual

/-- A value that stands at `level`, with one item to a line. -/
def prettyChars (level : Nat) : Json → List Char
  | .null => "null".toList
  | .bool true => "true".toList
  | .bool false => "false".toList
  | .number text => text.toList
  | .string text => quote text
  | .array [] => ['[', ']']
  | .array (item :: rest) =>
    '[' :: (newline (level + 1) ++
      separated (',' :: newline (level + 1)) (prettyItems (level + 1) (item :: rest)) ++
      newline level ++ [']'])
  | .object [] => ['{', '}']
  | .object (member :: rest) =>
    '{' :: (newline (level + 1) ++
      separated (',' :: newline (level + 1)) (prettyMembers (level + 1) (member :: rest)) ++
      newline level ++ ['}'])

/-- The items of an array. -/
def prettyItems (level : Nat) : List Json → List (List Char)
  | [] => []
  | item :: rest => prettyChars level item :: prettyItems level rest

/-- The members of an object. -/
def prettyMembers (level : Nat) : List (String × Json) → List (List Char)
  | [] => []
  | (key, value) :: rest =>
    (quote key ++ ':' :: ' ' :: prettyChars level value) :: prettyMembers level rest

end

/-- A value without blanks. -/
def compact (json : Json) : String :=
  String.ofList (compactChars json)

/-- A value with one item to a line. -/
def pretty (json : Json) : String :=
  String.ofList (prettyChars 0 json)

end ServiceScaffold.Json
