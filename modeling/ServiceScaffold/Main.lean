/-
The program on the machine itself.

Only here the machine is touched: its files, its environment and its terminal, each by the
simplest call there is.  What the calls are for is decided by `Program.run`.
-/
import ServiceScaffold.Command.Program

namespace ServiceScaffold.Machine

/-- A refusal of the machine. -/
def failureOf : IO.Error → IoFailure
  | .noFileOrDirectory _ _ _ => .notFound
  | .alreadyExists _ _ _ => .alreadyExists
  | .permissionDenied _ _ _ => .permissionDenied
  | .inappropriateType _ code _ => if code = 20 then .notADirectory else .isADirectory
  | e => ⟨.other, toString e⟩

/-- Makes a call, which may be refused. -/
def attempt {α : Type} (call : IO α) : IO (Except IoFailure α) := do
  match ← call.toBaseIO with
  | .ok value => return .ok value
  | .error e => return .error (failureOf e)

/-- Opens the file at a path and reads one byte of it. -/
def touch (p : Path) : IO (Except IoFailure Unit) :=
  attempt do
    let handle ← IO.FS.Handle.mk ⟨p.text⟩ .read
    let _ ← handle.read 1

/-- The machine as a host. -/
def host (workingDirectory : Path) : Host IO where
  workingDirectory := workingDirectory
  makeDirectory p := attempt (IO.FS.createDir ⟨p.text⟩)
  writeBytes p content := attempt (IO.FS.writeBinFile ⟨p.text⟩ content)
  readBytes p := attempt (IO.FS.readBinFile ⟨p.text⟩)
  isFile p := return (← touch p).toOption.isSome
  isDirectory p := do
    match ← touch p with
    | .ok () => return false
    | .error failure => return failure = .isADirectory
  pathExists p := do
    match ← touch p with
    | .ok () => return true
    | .error failure => return failure = .isADirectory || failure = .permissionDenied

/-- The variables of the environment, as far as the machine tells them. -/
def environment : IO Environment := do
  match ← attempt (IO.FS.readBinFile ⟨"/proc/self/environ"⟩) with
  | .ok bytes => return EnvironmentFile.ofBlock bytes
  | .error _ => return []

/-- Writes a text to its stream. -/
def put (chunk : Chunk) : IO Unit := do
  let stream ←
    match chunk.stream with
    | .output => IO.getStdout
    | .error => IO.getStderr
  stream.putStr chunk.text
  stream.flush

end ServiceScaffold.Machine

open ServiceScaffold

/-- Runs the program on the machine. -/
def main (words : List String) : IO UInt32 := do
  let workingDirectory : Path := ⟨(← IO.currentDir).toString⟩
  let start : Program.Start := {
    words := words
    environment := ← Machine.environment
    outputTerminal := ← (← IO.getStdout).isTty
    errorTerminal := ← (← IO.getStderr).isTty }
  let ending ← Program.run (Machine.host workingDirectory) .inOrder start
  ending.written.forM Machine.put
  return ending.exitCode.toUInt32
