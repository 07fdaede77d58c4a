/-
  One-line accounts of nodes and of a whole emission, as they are reported to a user who asks for
  them.
-/
import HeaderBindings.Bindings.Emission

namespace HeaderBindings

namespace Specifier

/-- The tag of a record or an enumeration; `none` for every other specifier. -/
def tag? : Specifier → Option (Option String)
  | .record _ tag _ | .recordRef _ tag | .enumeration tag _ | .enumerationRef tag => some tag
  | _ => none

end Specifier

namespace Node

/-- The name a node is known by: of a declaration its first declared name, else the tag of its first
record or enumeration.  The name may be empty. -/
def name? : Node → Option String
  | declaration d =>
    (d.declarators.findSome? fun x => x.name.filter (· ≠ "")).orElse fun _ =>
      (d.specifiers.findSome? Specifier.tag?).join
  | definition f => f.declarator.name
  | assembly .. => none

def kind : Node → String
  | declaration _ => "Declaration"
  | definition _ => "FunctionDefinition"
  | assembly .. => "AsmBlock"

/-- The kind, the name and the place of a node. -/
def describe (node : Node) : String :=
  let place := node.location.elim "" fun l => " (" ++ l.file ++ ":" ++ toString l.line ++ ")"
  node.kind ++ ": " ++ (node.name?.filter (· ≠ "")).getD "(anonymous)" ++ place

end Node

/-- How a message to the user is marked. -/
def note (text : String) : String := "[c2hsc] " ++ text

/-- What is reported before the emission of a header. -/
def Header.findings (header : Header) : List String :=
  ("Found " ++ toString header.nodes.length ++ " declarations")
    :: (header.nodes.filter (!·.isAssembly)).map fun node => "  " ++ node.describe

/-- What is reported after the emission of a header. -/
def Output.totals (out : Output) : String :=
  "Emitted " ++ toString out.lines.length ++ " binding lines, "
    ++ toString out.helpers.length ++ " helper lines, "
    ++ toString out.types.size ++ " typedefs"

end HeaderBindings
