/-
  What the command says about its use: the help text, and the reports of wrong arguments, as click
  8.5.1 words them and lays them out in 80 columns.
-/
import HeaderBindings.CommandLine.Arguments
import HeaderBindings.Text.Quoted

namespace HeaderBindings.CommandLine

/-- The version of the command. -/
def version : String := "0.8.0"

/-- The first line of the help text. -/
def usageLine (program : String) : String := "Usage: " ++ program ++ " [OPTIONS] [FILES]...\n"

/-- The options as the help text lists them: how an option is written, and what it does, broken into
lines. -/
def optionRows : List (String × List String) := [
  ("--version", ["Print version and exit."]),
  ("--prefix <prefix>", ["Use PREFIX when naming modules."]),
  ("--gcc <path>", ["Specify explicit path to gcc or cpp."]),
  ("--cppopts <opts>", ["Pass OPTS to the preprocessor."]),
  ("-I, --include-dir <dir>", ["Add include search path."]),
  ("-D, --define <macro>", ["Define preprocessor macro."]),
  ("-o, --output-dir DIRECTORY",
    ["Directory to write generated files to (default:", "current directory)."]),
  ("--stdout", ["Send all output to stdout (for testing)."]),
  ("-b, --backend <name>", ["Parser backend (default: pycparser)."]),
  ("--list-backends", ["List available backends and exit."]),
  ("-v, --verbose", ["Report progress verbosely."]),
  ("--debug / --no-debug", ["Print debug info to stderr."]),
  ("-h, --help", ["Show this message and exit."])
]

/-- The column at which the explanations start. -/
def explanationColumn : Nat := 30

def blanks (n : Nat) : String := String.ofList (List.replicate n ' ')

/-- The lines of one option. -/
def optionText (row : String × List String) : String :=
  let start := "  " ++ row.1
  start ++ blanks (explanationColumn - start.length)
    ++ ("\n" ++ blanks explanationColumn).intercalate row.2 ++ "\n"

def helpText (program : String) : String :=
  usageLine program
    ++ "\n  Create a .hsc Bindings-DSL file from a C API header file.\n\nOptions:\n"
    ++ String.join (optionRows.map optionText)

/-! ## Reports -/

/-- What is wrong with the way the command is called. -/
inductive UsageFault where
  | argument (fault : ArgumentFault)
  | noSuchFile (path : String)
  | fileIsDirectory (path : String)
  | outputIsFile (path : String)
  | noFiles
  deriving DecidableEq, Repr

namespace UsageFault

def message : UsageFault → String
  | argument (.noSuchOption name) => "No such option " ++ Text.quoted name ++ "."
  | argument (.missingValue name) => "Option '" ++ name ++ "' requires an argument."
  | argument (.unwantedValue name) => "Option '" ++ name ++ "' does not take a value."
  | noSuchFile path =>
    "Invalid value for '[FILES]...': File " ++ Text.quoted path ++ " does not exist."
  | fileIsDirectory path =>
    "Invalid value for '[FILES]...': File " ++ Text.quoted path ++ " is a directory."
  | outputIsFile path =>
    "Invalid value for '--output-dir' / '-o': Directory " ++ Text.quoted path ++ " is a file."
  | noFiles => "Missing argument 'FILES...'."

/-- The report reminds of the usage. -/
def showsUsage : UsageFault → Bool
  | argument (.noSuchOption _) | noSuchFile _ | fileIsDirectory _ | outputIsFile _ => true
  | argument _ | noFiles => false

def report (program : String) (fault : UsageFault) : String :=
  (if fault.showsUsage then
    usageLine program ++ "Try '" ++ program ++ " --help' for help.\n\n"
  else "") ++ "Error: " ++ fault.message ++ "\n"

end UsageFault

end HeaderBindings.CommandLine
