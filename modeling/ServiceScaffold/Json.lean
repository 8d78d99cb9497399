/-
JSON values.

A value is what a JSON text says, up to the blanks between its tokens.  Numbers keep their text,
since nothing here computes with them.  An object keeps its members in order of appearance, and a
repeated key means its last member.

* `Json.member?` — the value of a key.
-/

namespace ServiceScaffold

/-- A JSON value. -/
inductive Json where
  | null
  | bool (value : Bool)
  | number (text : String)
  | string (text : String)
  | array (items : List Json)
  | object (members : List (String × Json))
deriving Repr, Inhabited

namespace Json

/-- The value of the last member with that key. -/
def lastMember? (key : String) : List (String × Json) → Option Json
  | [] => none
  | (k, v) :: rest =>
    match lastMember? key rest with
    | some later => some later
    | none => if k = key then some v else none

/-- The members of an object. -/
def members? : Json → Option (List (String × Json))
  | .object members => some members
  | _ => none

/-- The value of a key of an object. -/
def member? (key : String) (json : Json) : Option Json :=
  json.members?.bind (lastMember? key)

/-- The text of a string. -/
def text? : Json → Option String
  | .string text => some text
  | _ => none

end Json

end ServiceScaffold
