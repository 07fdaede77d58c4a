/-
  The output of a run: lines of both kinds in order, and the typedef table.  Lines are only ever
  added at the end.
-/
import HeaderBindings.Bindings.Line
import HeaderBindings.TypeTable

namespace HeaderBindings

structure Output where
  lines : List Line := []
  helpers : List HelperLine := []
  types : TypeTable := {}
  deriving DecidableEq, Repr

namespace Output

def addLines (out : Output) (lines : List Line) : Output := { out with lines := out.lines ++ lines }

def addLine (out : Output) (line : Line) : Output := out.addLines [line]

def addHelper (out : Output) (line : HelperLine) : Output :=
  { out with helpers := out.helpers ++ [line] }

def define (out : Output) (name signature : String) : Output :=
  { out with types := out.types.define name signature }

/-- The binding lines as text. -/
def bindingText (out : Output) : List String := out.lines.map Line.render

/-- The helper lines as text. -/
def helperText (out : Output) : List String := out.helpers.map HelperLine.render

end Output

end HeaderBindings
