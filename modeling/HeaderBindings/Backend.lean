/-
  Backends: what turns a source into a header.  The one that is always available preprocesses the
  source and reads it as C.
-/
import HeaderBindings.C.Reading
import HeaderBindings.Preprocessor

namespace HeaderBindings

/-- What a backend is asked for. -/
structure ReadRequest where
  source : Source
  options : PreprocessorOptions := {}
  /-- A text may be read as it is; a file is always preprocessed. -/
  usePreprocessor : Bool := true
  deriving DecidableEq, Repr

/-- A backend under the name it gives itself. -/
structure Backend where
  name : String
  read : ReadRequest → Preprocessor → Except Failure Header × Preprocessor

namespace Backend

/-- Reads a text as C. -/
def readText (text : List Char) (path : String) : Except Failure Header :=
  (C.read text path).mapError Failure.text

/-- Preprocesses a source unless it is to be read as it is, and reads it as C. -/
def readSource (request : ReadRequest) (p : Preprocessor) : Except Failure Header × Preprocessor :=
  match request.source, request.usePreprocessor with
  | .text code filename, false => (readText code.toList filename, p)
  | source, _ =>
    let (text, after) := p.preprocess request.options source
    (text.bind (readText · source.path), after)

/-- The name of the backend that is always available. -/
def builtinName : String := "pycparser"

def builtin : Backend := { name := builtinName, read := readSource }

/-- A backend that gives the same header for every source. -/
def fixed (name : String) (header : Header) : Backend :=
  { name, read := fun _ p => (.ok header, p) }

end Backend

end HeaderBindings
