/-
Colours on a terminal.

A text is coloured, made bold or dimmed by writing a control sequence before it and one after it.
Where bold and a colour go together, bold is outside.

* `Style.paint`, `Style.bold`, `Style.dimmed` — a text in one style, which ends with it.
* `Style.marked` — a text in several styles, which all end at once.
-/

namespace ServiceScaffold

/-- The colours in use. -/
inductive Color where
  | red
  | green
  | yellow
  | blue
  | cyan
deriving DecidableEq, Repr, Inhabited

/-- The number that selects a colour. -/
def Color.code : Color → String
  | .red => "31"
  | .green => "32"
  | .yellow => "33"
  | .blue => "34"
  | .cyan => "36"

namespace Style

/-- The control sequence of a number. -/
def sequence (code : String) : String :=
  "\x1b[" ++ code ++ "m"

/-- A text in a colour. -/
def paint (color : Color) (text : String) : String :=
  sequence color.code ++ text ++ sequence "39"

/-- A text in bold. -/
def bold (text : String) : String :=
  sequence "1" ++ text ++ sequence "0"

/-- A dimmed text. -/
def dimmed (text : String) : String :=
  sequence "2" ++ text ++ sequence "0"

/-- A text after the control sequences of several numbers; one sequence ends them all. -/
def marked (codes : List String) (text : String) : String :=
  String.join (codes.map sequence) ++ text ++ sequence "0"

end Style

end ServiceScaffold
