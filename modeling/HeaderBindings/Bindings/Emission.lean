/-
  Emission: what each node of a header adds to the output.

  Only nodes from the header itself are emitted, those of included headers are skipped; typedefs
  are recorded wherever they come from, so that later declarations can use them.  A declaration
  gives a comment and the introduction of the records and enumerations in its specifiers, a
  function `#ccall`, a function with a body `#cinline` and a helper line.
-/
import HeaderBindings.Bindings.Output
import HeaderBindings.Path
import HeaderBindings.Signature

namespace HeaderBindings

/-- A node stands in the file if their base names agree; one without a location stands in none. -/
def Node.inFile (filename : String) (node : Node) : Bool :=
  node.location.any fun place => Path.baseName place.file == Path.baseName filename

/-! ## Records and enumerations -/

/-- The line of a member.  A member without a name, such as a nested anonymous record, has none. -/
def Declaration.fieldLine (types : TypeTable) (member : Declaration) : Option Line :=
  match member.declarators with
  | [] => none
  | d :: _ =>
    d.name.map fun name =>
      match d.chain with
      | .array _ :: rest => .arrayField name (chainSignature .binding types member.specifiers rest)
      | _ => .field name (member.signature .binding types)

/-- The lines that introduce a record or an enumeration; `fallback` names one without a tag. -/
def Specifier.introduction (types : TypeTable) (fallback : String) : Specifier → List Line
  | .record _ tag members =>
    .startType (nameOr tag) :: members.filterMap (Declaration.fieldLine types) ++ [.stopType]
  | .recordRef _ tag => [.opaqueType (nameOr tag)]
  | .enumeration tag enumerators => .integral (nameOr tag) :: enumerators.map .number
  | .enumerationRef tag => [.integral (nameOr tag)]
  | _ => []
where
  /-- An empty tag counts as none. -/
  nameOr (tag : Option String) : String := (tag.filter (· ≠ "")).getD fallback

/-- The introductions of every record and enumeration in a specifier sequence. -/
def introductions (types : TypeTable) (fallback : String) (specifiers : List Specifier) :
    List Line :=
  specifiers.flatMap (Specifier.introduction types fallback)

/-! ## Functions -/

/-- The parameters of a declarator that is a function; none for any other. -/
def Declarator.parameters (d : Declarator) : List Declaration :=
  match d.chain with
  | .function parameters _ :: _ => parameters
  | _ => []

/-- The line of a function.  Its result is what the first derivation applies to. -/
def functionLine (types : TypeTable) (marker : Marker) (specifiers : List Specifier)
    (d : Declarator) : Line :=
  .function marker ((d.name.filter (· ≠ "")).getD "<no name>")
    (argumentSignatures .binding types d.parameters)
    (chainSignature .binding types specifiers d.chain.tail)

/-- A parameter that has the keyword `void` and no derivation. -/
def Declaration.isVoidParameter (p : Declaration) : Bool :=
  p.declarators.head?.all (·.chain.isEmpty)
    && p.specifiers.any fun
      | .builtin .void => true
      | _ => false

/-- The number of parameters; a single `void` counts as none. -/
def parameterCount (parameters : List Declaration) : Nat :=
  match parameters with
  | [p] => if p.isVoidParameter then 0 else 1
  | _ => parameters.length

/-- The helper line of an inline function, if it has a name and is a function. -/
def FunctionDefinition.helperLine (types : TypeTable) (f : FunctionDefinition) :
    Option HelperLine :=
  match f.declarator.name, f.declarator.chain with
  | some name, .function parameters isVariadic :: rest =>
    let result := chainSignature .c types f.specifiers rest
    let type := Derivation.signature .c types result (.function parameters isVariadic :: rest)
    some (.inlineCall (parameterCount parameters) (result = "") ([name, type].filter (· ≠ "")))
  | _, _ => none

/-! ## Nodes -/

/-- A typedef's alias is recorded unless its signature is empty. -/
def Output.record (out : Output) (specifiers : List Specifier) (d : Declarator) : Output :=
  match d.name with
  | none => out
  | some name =>
    let signature := d.signature .binding out.types specifiers
    if name = "" || signature = "" then out else out.define name signature

/-- What one declarator adds.  The alias of a typedef is recorded after its lines are emitted. -/
def Output.emitDeclarator (decl : Declaration) (inFile : Bool) (out : Output) (d : Declarator) :
    Output :=
  if d.isFunction && !decl.isTypedef then
    if inFile then out.addLine (functionLine out.types .ccall decl.specifiers d) else out
  else
    let shown := if inFile then
        out.addLines (.comment decl.text
          :: introductions out.types (d.name.getD "") decl.specifiers)
      else out
    if decl.isTypedef then shown.record decl.specifiers d else shown

def Output.emitDeclaration (out : Output) (filename : String) (decl : Declaration) : Output :=
  let inFile := (Node.declaration decl).inFile filename
  match decl.declarators with
  | [] =>
    if inFile then out.addLines (.comment decl.text :: introductions out.types "" decl.specifiers)
    else out
  | ds => ds.foldl (Output.emitDeclarator decl inFile) out

def Output.emitDefinition (out : Output) (filename : String) (f : FunctionDefinition) : Output :=
  if (Node.definition f).inFile filename then
    let shown := out.addLine (functionLine out.types .cinline f.specifiers f.declarator)
    (f.helperLine out.types).elim shown shown.addHelper
  else out

/-- What one node adds to the output of the header `filename`. -/
def Output.emit (filename : String) (out : Output) : Node → Output
  | .declaration d => out.emitDeclaration filename d
  | .definition f => out.emitDefinition filename f
  | .assembly .. => out

/-- The output extended by every node in order. -/
def Output.emitAll (filename : String) (out : Output) (nodes : List Node) : Output :=
  nodes.foldl (Output.emit filename) out

/-- The output of a header: what its nodes add to an empty one. -/
def Header.bindings (header : Header) (filename : String) : Output :=
  Output.emitAll filename {} header.nodes

end HeaderBindings
