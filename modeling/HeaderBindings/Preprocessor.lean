/-
  Running the preprocessor: the command line it is called with, and what becomes of what it prints.
  The preprocessor itself is a list of replies, one for each call to come.
-/
import HeaderBindings.Failure
import HeaderBindings.Text.Lines

namespace HeaderBindings

/-- What the user says about the preprocessor. -/
structure PreprocessorOptions where
  /-- The executable, if it is not the usual one. -/
  executable : Option String := none
  includeDirectories : List String := []
  extraArguments : List String := []
  deriving DecidableEq, Repr

/-- What is to be read: a text under the name of a file, or a file. -/
inductive Source where
  | text (code filename : String)
  | file (path : String)
  deriving DecidableEq, Repr

namespace Source

/-- The name that the declarations are found under. -/
def path : Source → String
  | text _ filename => filename
  | file path => path

/-- The last argument of the preprocessor; a dash stands for its input. -/
def argument : Source → String
  | text .. => "-"
  | file path => path

/-- What is fed to the preprocessor.  A line marker gives the text its name. -/
def input : Source → Option String
  | text code filename => some ("#line 1 \"" ++ filename ++ "\"\n" ++ code)
  | file _ => none

end Source

/-- What a call of the preprocessor comes to. -/
inductive Reply where
  /-- There is no such executable. -/
  | missing
  | finished (status : Int) (output errors : List UInt8)
  deriving DecidableEq, Repr

/-- A call of the preprocessor; no input is recorded where none was taken. -/
structure PreprocessorCall where
  command : List String
  input : Option String
  deriving DecidableEq, Repr

structure Preprocessor where
  /-- The name of the operating system. -/
  platform : String := "Linux"
  replies : List Reply := []
  calls : List PreprocessorCall := []
  deriving DecidableEq, Repr

namespace Preprocessor

/-- Definitions that take the words of the GNU dialect out of a text. -/
def dialectDefinitions : List String := [
  "-D__attribute__(x)=",
  "-D__extension__=",
  "-D__inline=",
  "-D__inline__=",
  "-D__asm(x)=",
  "-D__asm__(x)=",
  "-D__restrict=",
  "-D__restrict__=",
  "-D__builtin_va_list=int"
]

/-- The executable with the flag that makes a compiler stop after preprocessing. -/
def program (platform : String) : Option String → String × List String
  | none => if platform = "Darwin" then ("clang", ["-E"]) else ("cpp", [])
  | some executable =>
    if "cpp".toList.isPrefixOf (Path.baseNameChars executable.toList) then (executable, [])
    else (executable, ["-E"])

def arguments (options : PreprocessorOptions) (source : Source) : List String :=
  dialectDefinitions ++ options.includeDirectories.map ("-I" ++ ·) ++ options.extraArguments
    ++ [source.argument]

/-- Calls the preprocessor.  After the last reply the executable counts as missing. -/
def call (p : Preprocessor) (command : List String) (input : Option String) :
    Reply × Preprocessor :=
  let reply := p.replies.head?.getD .missing
  let taken := if reply = .missing then none else input
  (reply, { p with replies := p.replies.tail, calls := p.calls ++ [⟨command, taken⟩] })

/-- The text that a reply holds. -/
def textOf (executable : String) : Reply → Except Failure (List Char)
  | .missing => .error (.noExecutable executable)
  | .finished status output errors =>
    if status = 0 then
      match Text.Utf8.decode output with
      | .ok text => .ok (Text.dropReturns text)
      | .error fault => .error (.encoding fault)
    else .error (.preprocessor status (String.ofList (Text.Utf8.decodeLenient errors)))

/-- The preprocessed text of a source. -/
def preprocess (options : PreprocessorOptions) (source : Source) (p : Preprocessor) :
    Except Failure (List Char) × Preprocessor :=
  let (executable, flags) := program p.platform options.executable
  let (reply, after) := p.call (executable :: flags ++ arguments options source) source.input
  (textOf executable reply, after)

end Preprocessor

end HeaderBindings
