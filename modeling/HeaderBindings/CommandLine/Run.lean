/-
  A run of the command: the arguments are checked, and then the bindings of the headers are
  generated, one header after another until one fails.  Each is a step from what the header before
  it left behind.
-/
import HeaderBindings.CommandLine.Help
import HeaderBindings.Module.Delivery
import HeaderBindings.Generation

namespace HeaderBindings.CommandLine

/-- Where the command runs. -/
structure Environment where
  /-- The name that the command is called by. -/
  program : String
  /-- The path of an executable, if it can be found. -/
  locate : String → Option String

/-- What a run has done so far. -/
structure Progress where
  files : FileTree
  registry : Registry := {}
  preprocessor : Preprocessor := {}
  /-- The text printed as output. -/
  output : String := ""
  /-- The text printed as messages. -/
  messages : String := ""

namespace Progress

def print (s : Progress) (text : String) : Progress := { s with output := s.output ++ text }

def report (s : Progress) (text : String) : Progress := { s with messages := s.messages ++ text }

/-- Where the files of a header can go: they are printed as output. -/
def sinks (s : Progress) : Sinks := { tree := s.files, stream := s.output }

def setSinks (s : Progress) (sinks : Sinks) : Progress :=
  { s with files := sinks.tree, output := sinks.stream }

end Progress

/-- How a run ends. -/
inductive Ending where
  | exit (status : Nat)
  /-- The run is broken off by a failure that it does not report. -/
  | broken (failure : Failure)
  deriving DecidableEq, Repr

/-! ## One header -/

/-- What is asked for of every header. -/
structure Job where
  modulePrefix : String
  backend : Option String
  options : PreprocessorOptions
  /-- The path of the preprocessor, as it is reported. -/
  compiler : String
  outputDirectory : String
  useStdout : Bool
  isVerbose : Bool
  isDebug : Bool

namespace Job

/-- Where the files of every header go. -/
def destination (job : Job) : Destination :=
  if job.useStdout then .stream else .directory job.outputDirectory

/-- Writes the files of the header at `path`, whose own text is `source`, and names each one that was
not printed. -/
def deliver (job : Job) (path source : String) (out : Output) (s : Progress) :
    Progress × Option Ending :=
  match out.write job.modulePrefix path source job.destination s.sinks with
  | (sinks, .error fault) => (s.setSinks sinks, some (.broken (.file fault)))
  | (sinks, .ok names) =>
    (if job.useStdout then s.setSinks sinks
      else (s.setSinks sinks).print (String.join (names.map fun name => "Wrote " ++ name ++ "\n")),
      none)

/-- What is asked for of the header at `path`. -/
def request (job : Job) (path : String) : Request :=
  { source := .file path, backend := job.backend, options := job.options, isDebug := job.isDebug }

/-- Says which header comes next. -/
def announce (job : Job) (path : String) (s : Progress) : Progress :=
  if job.isVerbose then s.report ("Translating " ++ path ++ " with " ++ job.compiler ++ "\n")
  else s

/-- Generates the bindings of the header at `path`, and reports what the generation says. -/
def translate (job : Job) (path : String) (s : Progress) : Progress × Except Failure Output :=
  let start := job.announce path s
  let t := (job.request path).generate start.registry start.preprocessor
  ({ start with registry := t.registry, preprocessor := t.preprocessor }.report
    (String.join (t.notes.map (· ++ "\n"))), t.result)

/-- Translates the header at `path` and delivers its files; an ending means that no header follows. -/
def bindHeader (job : Job) (path : String) (s : Progress) : Progress × Option Ending :=
  match job.translate path s with
  | (next, .error failure) =>
    if failure.isReported then
      (next.report ("Error: " ++ failure.message ++ "\n"), some (.exit 1))
    else (next, some (.broken failure))
  | (next, .ok out) =>
    match next.files.read path with
    | .error fault => (next, some (.broken (.file fault)))
    | .ok source => job.deliver path (Text.unifyNewlines source) out next

/-- Generates the bindings of headers in order until one ends the run. -/
def bindHeaders (job : Job) : List String → Progress → Progress × Ending
  | [], s => (s, .exit 0)
  | path :: rest, s =>
    match job.bindHeader path s with
    | (next, none) => job.bindHeaders rest next
    | (next, some ending) => (next, ending)

end Job

/-! ## The whole command -/

/-- The first thing wrong with the paths: the directory for output has to be no file, and each header
has to be one. -/
def pathFault? (a : Arguments) (tree : FileTree) : Option UsageFault :=
  let outputFault := match tree.find a.outputDirectory with
    | .file _ => some (UsageFault.outputIsFile a.outputDirectory)
    | _ => none
  outputFault.orElse fun _ => a.files.findSome? fun path =>
    match tree.find path with
    | .file _ => none
    | .directory _ => some (.fileIsDirectory path)
    | _ => some (.noSuchFile path)

/-- Reports a wrong call. -/
def refuse (env : Environment) (s : Progress) (fault : UsageFault) : Progress × Ending :=
  (s.report (fault.report env.program), .exit 2)

/-- Lists the backends of a loaded registry and marks the default one. -/
def backendList (r : Registry) : String :=
  String.join (r.names.map fun name =>
    (if r.default = some name then name ++ " (default)" else name) ++ "\n")

/-- Lists the backends. -/
def listBackends (s : Progress) : Progress × Ending :=
  let r := s.registry.load
  ({ s with registry := r }.print (backendList r), .exit 0)

/-- What the arguments ask for of every header, with the preprocessor that was found and the words of
its options. -/
def Arguments.job (a : Arguments) (compiler : String) (words : List String) : Job where
  modulePrefix := a.modulePrefix
  backend := a.value? .backend
  options := {
    executable := some compiler
    includeDirectories := a.values .includeDirectory
    extraArguments := words ++ (a.values .definition).map ("-D" ++ ·) }
  compiler
  outputDirectory := a.outputDirectory
  useStdout := a.has .stdout
  isVerbose := a.has .verbose
  isDebug := a.isDebug

/-- The words of the options for the preprocessor. -/
def Arguments.preprocessorWords (a : Arguments) : Except Text.ShellWords.Fault (List String) :=
  Text.ShellWords.split ((a.value? .preprocessorWords).getD "")

/-- Generates the bindings of every header of arguments whose paths have been checked. -/
def bindAll (env : Environment) (a : Arguments) (s : Progress) : Progress × Ending :=
  let complain (text : String) : Progress × Ending :=
    (s.report ("Error: " ++ text ++ "\n"), .exit 1)
  if a.modulePrefix = "" then complain "Please specify a module prefix to use with --prefix"
  else
    match env.locate a.compiler with
    | none => complain (Failure.noExecutable a.compiler).message
    | some compiler =>
      match a.preprocessorWords with
      | .error fault => (s, .broken (.words fault))
      | .ok words => (a.job compiler words).bindHeaders a.files s

/-- Does what the arguments ask for: of several requests for information the first one listed here is
answered. -/
def runArguments (env : Environment) (a : Arguments) (s : Progress) : Progress × Ending :=
  if a.has .help then (s.print (helpText env.program), .exit 0)
  else
    match pathFault? a s.files with
    | some fault => refuse env s fault
    | none =>
      if a.has .version then (s.print (version ++ "\n"), .exit 0)
      else if a.has .listBackends then listBackends s
      else if a.files.isEmpty then refuse env s .noFiles
      else bindAll env a s

/-- Runs the command on words.  Without any the help text is given as a message. -/
def run (env : Environment) (words : List String) (s : Progress) : Progress × Ending :=
  if words.isEmpty then (s.report (helpText env.program), .exit 2)
  else
    match Arguments.read words with
    | .error fault => refuse env s (.argument fault)
    | .ok a => runArguments env a s

end HeaderBindings.CommandLine
