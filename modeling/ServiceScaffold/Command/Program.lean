/-
The program.

The program first takes the variables of an environment file into its environment, then reads its
command line, and then carries out the command.  A command says what it does in messages and ends
well or with an error, which is shown last and decides the exit code.  An environment file whose
assignments cannot be carried out ends the program before it has read its command line.

* `Program.generate`, `Program.create` — the commands that work on files.
* `Program.run` — what becomes of a command line.
* `Program.Ending` — how the program ends, with its exit code and what it has written.
-/
import ServiceScaffold.Command.Console
import ServiceScaffold.Command.EnvironmentFile
import ServiceScaffold.Command.Help
import ServiceScaffold.Command.Resolution
import ServiceScaffold.Generation.Run
import ServiceScaffold.Host

namespace ServiceScaffold.Program

variable {m : Type → Type} [Monad m]

/-- What a command did: the messages it gave, and how it ended. -/
structure Performed where
  messages : List Message
  result : Except CommandError Unit

/-- The messages on the source of the services; a file is told as seen from `directory`. -/
def sourceMessages (directory : Path) : ServiceSource → List Message
  | .configFile file =>
    [.toned .info ("Using services from " ++ ((file.stripBase? directory).getD file).text)]
  | .commandLine | .nothing => []

/-- What is said when there are no services. -/
def nothingToGenerate : Message :=
  .toned .warning
    "No services to generate: pass SERVICE arguments or create one with 'digen init'"

/-- What is said of a plan that is only shown. -/
def planMessages (config : RunConfig) (files : List PlannedFile) : List Message :=
  .toned .info ("Dry run: would write " ++ toString files.length ++ " files for " ++
      toString config.services.length ++ " services") ::
    files.map fun file => .plain ("  " ++ file.path.text)

/-- What is said before a run. -/
def runHeader (config : RunConfig) : Message :=
  .header ("Generating " ++ toString config.services.length ++ " services into " ++
    config.output.text)

/-- What is said of a run. -/
def reportMessages (report : Report) : List Message :=
  let failures : List Message :=
    report.failures.map fun f => .toned .error (f.service ++ ": " ++ f.error.message)
  let written := toString report.written.length
  let total := toString report.services
  let summary : Message :=
    if report.isComplete then
      .toned .success ("Generated " ++ written ++ " files for " ++ total ++ " services")
    else
      .toned .warning ("Generated " ++ written ++ " files; " ++
        toString report.failures.length ++ " of " ++ total ++ " services failed")
  failures ++ [summary]

/-- Shows what a run would write. -/
def showPlan (config : RunConfig) : Performed :=
  match config.plan with
  | .error e => ⟨[], .error (.core e)⟩
  | .ok files => ⟨planMessages config files, .ok ()⟩

/-- Carries out a run and tells of it. -/
def perform (host : Host m) (schedule : Schedule) (config : RunConfig) : m Performed := do
  let outcome ← Generation.run host.filesystem schedule config
  match outcome.result with
  | .error e => return ⟨[runHeader config], .error (.core e)⟩
  | .ok report =>
    return ⟨runHeader config :: reportMessages report, report.result.mapError .core⟩

/-- The command `generate`. -/
def generate (host : Host m) (schedule : Schedule) (globals : GlobalOptions)
    (options : GenerateOptions) : m Performed := do
  match ← resolve host.configSource options globals.config host.workingDirectory with
  | .error e => return ⟨[], .error e⟩
  | .ok resolved =>
    let opening := sourceMessages host.workingDirectory resolved.source
    if resolved.config.services.isEmpty then
      return ⟨opening ++ [nothingToGenerate], .ok ()⟩
    else
      let performed ←
        if options.dryRun then pure (showPlan resolved.config)
        else perform host schedule resolved.config
      return { performed with messages := opening ++ performed.messages }

/-- The command `init`: writes the starter document, which replaces another one only by force. -/
def create (host : Host m) (force : Bool) : m Performed := do
  let file := host.workingDirectory.child starterFileName
  if (← host.pathExists file) && !force then
    return ⟨[], .error (.configExists file)⟩
  else
    match ← host.writeBytes file (ConfigDocument.starter.text ++ "\n").toUTF8 with
    | .error failure =>
      return ⟨[], .error (.io ("Failed to write config to '" ++ file.text ++ "'") failure)⟩
    | .ok () =>
      return ⟨[.toned .success ("Created " ++ starterFileName),
        .plain "Edit the services list, then run: digen generate"], .ok ()⟩

/-- The name of environment files. -/
def environmentFileName : String := ".env"

/-- The environment with the variables of the environment file that is nearest above the working
directory; without a file that can be read it is as it was. -/
def loadEnvironment (host : Host m) (environment : Environment) :
    m (Except EnvironmentFile.AssignmentError Environment) := do
  let candidates := host.workingDirectory.ancestors.map (·.child environmentFileName)
  match ← host.configSource.firstFile? candidates with
  | none => return .ok environment
  | some file =>
    match ← host.readBytes file with
    | .error _ => return .ok environment
    | .ok bytes => return EnvironmentFile.load environment bytes

/-- What the program is started with. -/
structure Start where
  words : List String
  environment : Environment
  /-- Whether the output stream is a terminal. -/
  outputTerminal : Bool := false
  /-- Whether the error stream is a terminal. -/
  errorTerminal : Bool := false
deriving DecidableEq, Repr, Inhabited

/-- How the program ends. -/
inductive Ending where
  /-- The environment file cannot be carried out. -/
  | unprepared (error : EnvironmentFile.AssignmentError)
  /-- The command line is not carried out; `color` says whether that is told in colours. -/
  | refused (error : UsageError) (color : Bool)
  /-- The completion script of a shell is asked for. -/
  | script (shell : Shell)
  /-- A command ran. -/
  | ran (exitCode : Nat) (written : List Chunk)
deriving DecidableEq, Repr, Inhabited

/-- The end of a program that does not carry out its command line. -/
def refuse (start : Start) (environment : Environment) (error : UsageError) : Ending :=
  .refused error <| environment.wantsColor <|
    match error.stream with
    | .output => start.outputTerminal
    | .error => start.errorTerminal

/-- The exit code; 101 stands for an environment that could not be prepared. -/
def Ending.exitCode : Ending → Nat
  | .unprepared _ => 101
  | .refused error _ => error.exitCode
  | .script _ => 0
  | .ran exitCode _ => exitCode

/-- All that the program has written. -/
def Ending.written : Ending → List Chunk
  | .unprepared error => [⟨.error, error.message ++ "\n"⟩]
  | .refused error color => [⟨error.stream, error.text color⟩]
  | .script shell => [⟨.output, shell.script⟩]
  | .ran _ written => written

/-- The end of a command: its messages, then its error. -/
def finish (start : Start) (globals : GlobalOptions) (performed : Performed) : Ending :=
  let console := Console.ofFlags globals.quiet globals.noColor start.outputTerminal
  let written := console.writeAll performed.messages
  match performed.result with
  | .ok () => .ran 0 written
  | .error e =>
    let shown := e.render (0 < globals.verbose) (!globals.noColor && start.errorTerminal)
    .ran e.exitCode (written ++ [⟨.error, shown⟩])

/-- What becomes of a command line. -/
def run (host : Host m) (schedule : Schedule) (start : Start) : m Ending := do
  match ← loadEnvironment host start.environment with
  | .error e => return .unprepared e
  | .ok environment =>
    match Invocation.parse environment start.words with
    | .error e => return refuse start environment e
    | .ok ⟨_, .completions shell⟩ => return .script shell
    | .ok ⟨globals, .generate options⟩ =>
      return finish start globals (← generate host schedule globals options)
    | .ok ⟨globals, .init force⟩ =>
      return finish start globals (← create host force)

end ServiceScaffold.Program
