/-
  Why no bindings come of a header, and how that is said.
-/
import HeaderBindings.C.Fault
import HeaderBindings.FileTree
import HeaderBindings.Text.ShellWords
import HeaderBindings.Text.Utf8

namespace HeaderBindings

inductive Failure where
  /-- The preprocessor's executable does not exist. -/
  | noExecutable (command : String)
  /-- The preprocessor ended with a status other than zero. -/
  | preprocessor (status : Int) (errors : String)
  /-- The preprocessor printed what is no UTF-8. -/
  | encoding (fault : Text.Utf8.Fault)
  | text (fault : C.Fault)
  | noBackend
  | unknownBackend (name : String) (available : List String)
  /-- The options for the preprocessor are no words of a shell. -/
  | words (fault : Text.ShellWords.Fault)
  | file (fault : FileFault)
  deriving DecidableEq, Repr

namespace Failure

/-- The faults of a text that are reported as such; the others escape as they are. -/
def isSyntactic : C.Fault → Bool
  | .complaint .. | .endOfInput _ => true
  | _ => false

def message : Failure → String
  | noExecutable command => "Cannot find executable '" ++ command ++ "'"
  | preprocessor status errors =>
    "C preprocessor failed (exit " ++ toString status ++ "): " ++ errors
  | encoding fault => fault.message
  | text fault => if isSyntactic fault then "Failed to compile: " ++ fault.message else fault.message
  | noBackend => "No backends available"
  | unknownBackend name available =>
    "Unknown backend: " ++ Text.quoted name ++ ". Available: "
      ++ (if available.isEmpty then "(none)" else ", ".intercalate available)
  | words fault => fault.message
  | file fault => fault.message

/-- A failure of a generation that the user can do something about is reported; the others end the
run at once. -/
def isReported : Failure → Bool
  | noExecutable _ | preprocessor .. | encoding _ | noBackend | unknownBackend .. => true
  | text fault => match fault with
    | .lineNumber _ | .longLineNumber _ | .repeatedSuffix => true
    | fault => isSyntactic fault
  | words _ | file _ => false

end Failure

end HeaderBindings
