/-
Messages to the user.

Errors go to the error stream and are always shown; all other messages go to the output stream and
are left out by a quiet console.  A message of one of the four tones opens with the symbol of its
tone.

* `Console.write` — the lines that a message makes.
-/
import ServiceScaffold.Command.Style

namespace ServiceScaffold

/-- Where a text is written to. -/
inductive Stream where
  | output
  | error
deriving DecidableEq, Repr, Inhabited

/-- A text written to a stream. -/
structure Chunk where
  stream : Stream
  text : String
deriving DecidableEq, Repr, Inhabited

/-- Everything that was written to a stream. -/
def Chunk.textOn (stream : Stream) (chunks : List Chunk) : String :=
  String.join ((chunks.filter (·.stream == stream)).map (·.text))

/-- The tones of a message that has a symbol. -/
inductive Tone where
  | success
  | error
  | warning
  | info
deriving DecidableEq, Repr, Inhabited

/-- The symbol that opens a message of a tone. -/
def Tone.symbol : Tone → String
  | .success => "✓"
  | .error => "✗"
  | .warning => "⚠"
  | .info => "ℹ"

/-- The colour of a tone. -/
def Tone.color : Tone → Color
  | .success => .green
  | .error => .red
  | .warning => .yellow
  | .info => .blue

/-- A message, by the way it is shown. -/
inductive Message where
  /-- Text as it stands. -/
  | plain (text : String)
  /-- Text after the symbol of a tone. -/
  | toned (tone : Tone) (text : String)
  /-- The line that opens a run. -/
  | header (text : String)
deriving DecidableEq, Repr, Inhabited

/-- The stream that a message goes to. -/
def Message.stream : Message → Stream
  | .toned .error _ => .error
  | _ => .output

/-- The line of a message. -/
def Message.line (color : Bool) : Message → String
  | .plain text => text
  | .toned tone text =>
    if color then
      Style.bold (Style.paint tone.color tone.symbol) ++ " " ++ Style.paint tone.color text
    else tone.symbol ++ " " ++ text
  | .header text => if color then Style.bold (Style.paint .cyan text) else text

/-- How messages are shown. -/
structure Console where
  /-- Whether only errors are shown. -/
  quiet : Bool
  /-- Whether colours are used. -/
  color : Bool
deriving DecidableEq, Repr, Inhabited

namespace Console

/-- The console that flags ask for: there are no colours away from a terminal. -/
def ofFlags (quiet noColor isTerminal : Bool) : Console where
  quiet := quiet
  color := !noColor && isTerminal

/-- What a message writes. -/
def write (console : Console) (message : Message) : List Chunk :=
  if console.quiet && message.stream == .output then []
  else [⟨message.stream, message.line console.color ++ "\n"⟩]

/-- What messages write, one after another. -/
def writeAll (console : Console) (messages : List Message) : List Chunk :=
  messages.flatMap console.write

end Console

end ServiceScaffold
