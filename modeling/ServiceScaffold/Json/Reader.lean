/-
Reading JSON.

The reader accepts the texts of RFC 8259 with three limits: at most 127 containers inside one
another, numbers within the range of a double, and no escape that names half of a surrogate pair.
It starts at the first character, so a byte order mark is refused.

* `Json.parse?` — the value of a text, if it is JSON.
-/
import ServiceScaffold.Json
import ServiceScaffold.Json.Number

namespace ServiceScaffold.Json

/-- The blanks that may stand between tokens. -/
def isSpace (c : Char) : Bool :=
  c == ' ' || c == '\n' || c == '\t' || c == '\r'

/-- Skips blanks. -/
def skipSpace (s : List Char) : List Char :=
  s.dropWhile isSpace

/-- The value of a hexadecimal digit. -/
def hexDigit? (c : Char) : Option Nat :=
  if '0' ≤ c ∧ c ≤ '9' then some (c.toNat - 48)
  else if 'a' ≤ c ∧ c ≤ 'f' then some (c.toNat - 87)
  else if 'A' ≤ c ∧ c ≤ 'F' then some (c.toNat - 55)
  else none

/-- The value of four hexadecimal digits. -/
def hexUnit? (a b c d : Char) : Option Nat := do
  return (((← hexDigit? a) * 16 + (← hexDigit? b)) * 16 + (← hexDigit? c)) * 16 + (← hexDigit? d)

/-- The character that a one-letter escape stands for. -/
def simpleEscape? (c : Char) : Option Char :=
  match c with
  | '"' => some '"'
  | '\\' => some '\\'
  | '/' => some '/'
  | 'b' => some '\x08'
  | 'f' => some '\x0c'
  | 'n' => some '\n'
  | 'r' => some '\r'
  | 't' => some '\t'
  | _ => none

/-- A unit that opens a surrogate pair. -/
def isHighSurrogate (n : Nat) : Bool :=
  0xD800 ≤ n && n < 0xDC00

/-- A unit that closes a surrogate pair. -/
def isLowSurrogate (n : Nat) : Bool :=
  0xDC00 ≤ n && n < 0xE000

/-- Puts a character in front of what was read. -/
def addChar (c : Char) : Option (List Char × List Char) → Option (List Char × List Char)
  | some (text, rest) => some (c :: text, rest)
  | none => none

/-- Reads a string after its opening quote: its text, and what follows the closing quote. -/
def readString? : List Char → Option (List Char × List Char)
  | [] => none
  | '"' :: rest => some ([], rest)
  | '\\' :: 'u' :: a :: b :: c :: d :: rest =>
    match hexUnit? a b c d with
    | none => none
    | some unit =>
      if isLowSurrogate unit then none
      else if isHighSurrogate unit then
        match rest with
        | '\\' :: 'u' :: e :: f :: g :: h :: rest =>
          match hexUnit? e f g h with
          | none => none
          | some low =>
            if isLowSurrogate low then
              addChar (Char.ofNat ((unit - 0xD800) * 0x400 + (low - 0xDC00) + 0x10000))
                (readString? rest)
            else none
        | _ => none
      else addChar (Char.ofNat unit) (readString? rest)
  | '\\' :: c :: rest =>
    match simpleEscape? c with
    | none => none
    | some escaped => addChar escaped (readString? rest)
  | c :: rest => if c.toNat < 0x20 then none else addChar c (readString? rest)

/-- A decimal digit. -/
def isDigit (c : Char) : Bool :=
  '0' ≤ c && c ≤ '9'

/-- The values of the digits at the start of a text, and what follows them. -/
def readDigits (s : List Char) : List Nat × List Char :=
  ((s.takeWhile isDigit).map (fun c => c.toNat - 48), s.dropWhile isDigit)

/-- The number that digits write. -/
def digitsValue (digits : List Nat) : Nat :=
  digits.foldl (fun n d => n * 10 + d) 0

/-- Reads the integer part of a number: a lone zero, or digits that do not start with one. -/
def readInteger? (s : List Char) : Option (List Nat × List Char) :=
  match readDigits s with
  | ([], _) => none
  | ([0], rest) => some ([0], rest)
  | (0 :: _, _) => none
  | (digits, rest) => some (digits, rest)

/-- Reads the fraction of a number, if there is one: a point and at least one digit. -/
def readFraction? : List Char → Option (List Nat × List Char)
  | '.' :: rest =>
    match readDigits rest with
    | ([], _) => none
    | (digits, rest) => some (digits, rest)
  | s => some ([], s)

/-- Reads the digits of an exponent. -/
def readExponentDigits? (s : List Char) : Option (Nat × List Char) :=
  match readDigits s with
  | ([], _) => none
  | (digits, rest) => some (digitsValue digits, rest)

/-- Reads the exponent of a number, if there is one. -/
def readExponent? : List Char → Option (Int × List Char)
  | c :: rest =>
    if c = 'e' ∨ c = 'E' then
      match rest with
      | '-' :: rest => (readExponentDigits? rest).map fun (n, rest) => (-(n : Int), rest)
      | '+' :: rest => (readExponentDigits? rest).map fun (n, rest) => ((n : Int), rest)
      | _ => (readExponentDigits? rest).map fun (n, rest) => ((n : Int), rest)
    else some (0, c :: rest)
  | [] => some (0, [])

/-- Reads a number without its sign. -/
def readDecimal? (s : List Char) : Option (Decimal × List Char) := do
  let (integer, rest) ← readInteger? s
  let (fraction, rest) ← readFraction? rest
  let (exponent, rest) ← readExponent? rest
  return (⟨integer, fraction, exponent⟩, rest)

/-- Reads a number, which has to be in range. -/
def readNumber? (s : List Char) : Option (Json × List Char) :=
  let unsigned :=
    match s with
    | '-' :: rest => rest
    | _ => s
  match readDecimal? unsigned with
  | none => none
  | some (decimal, rest) =>
    if decimal.isFinite then
      some (.number (String.ofList (s.take (s.length - rest.length))), rest)
    else none

mutual

/-- Reads a value at the start of a text, with at most `depth` containers inside one another.
`fuel` bounds the number of nested steps. -/
def readValue? : Nat → Nat → List Char → Option (Json × List Char)
  | 0, _, _ => none
  | fuel + 1, depth, s =>
    match s with
    | 'n' :: 'u' :: 'l' :: 'l' :: rest => some (.null, rest)
    | 't' :: 'r' :: 'u' :: 'e' :: rest => some (.bool true, rest)
    | 'f' :: 'a' :: 'l' :: 's' :: 'e' :: rest => some (.bool false, rest)
    | '"' :: rest => (readString? rest).map fun (text, rest) => (.string (String.ofList text), rest)
    | '[' :: rest =>
      match depth with
      | 0 => none
      | depth + 1 =>
        match skipSpace rest with
        | ']' :: rest => some (.array [], rest)
        | rest => (readItems? fuel depth rest).map fun (items, rest) => (.array items, rest)
    | '{' :: rest =>
      match depth with
      | 0 => none
      | depth + 1 =>
        match skipSpace rest with
        | '}' :: rest => some (.object [], rest)
        | rest => (readMembers? fuel depth rest).map fun (members, rest) => (.object members, rest)
    | _ => readNumber? s

/-- Reads the items of an array, at least one, up to and including the closing bracket. -/
def readItems? : Nat → Nat → List Char → Option (List Json × List Char)
  | 0, _, _ => none
  | fuel + 1, depth, s =>
    match readValue? fuel depth s with
    | none => none
    | some (item, rest) =>
      match skipSpace rest with
      | ',' :: rest => (readItems? fuel depth (skipSpace rest)).map fun (items, rest) =>
          (item :: items, rest)
      | ']' :: rest => some ([item], rest)
      | _ => none

/-- Reads the members of an object, at least one, up to and including the closing brace. -/
def readMembers? : Nat → Nat → List Char → Option (List (String × Json) × List Char)
  | 0, _, _ => none
  | fuel + 1, depth, s =>
    match s with
    | '"' :: rest =>
      match readString? rest with
      | none => none
      | some (key, rest) =>
        match skipSpace rest with
        | ':' :: rest =>
          match readValue? fuel depth (skipSpace rest) with
          | none => none
          | some (value, rest) =>
            match skipSpace rest with
            | ',' :: rest => (readMembers? fuel depth (skipSpace rest)).map fun (members, rest) =>
                ((String.ofList key, value) :: members, rest)
            | '}' :: rest => some ([(String.ofList key, value)], rest)
            | _ => none
        | _ => none
    | _ => none

end

/-- The number of containers that may be inside one another. -/
def maxDepth : Nat := 127

/-- The value of a text. -/
def parse? (text : String) : Option Json :=
  let s := text.toList
  match readValue? (s.length + 1) maxDepth (skipSpace s) with
  | none => none
  | some (value, rest) => if skipSpace rest = [] then some value else none

end ServiceScaffold.Json
