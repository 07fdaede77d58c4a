/-
  Signatures of types.  `Specifier.signature` resolves the base named by a specifier sequence,
  `Derivation.signature` applies a chain of derivations to it, and the rest of the module puts the
  two together for declarators and declarations.
-/
import HeaderBindings.Dialect

namespace HeaderBindings

namespace Specifier

/-- The base named by a specifier sequence after the sign keyword `sign`.  The first specifier that
names a type decides; records and enumerations are emitted on their own and have no name here. -/
def signatureFrom (dialect : Dialect) (types : TypeTable) (sign : Signedness) :
    List Specifier → String
  | [] => dialect.signName sign
  | .sign s :: rest => signatureFrom dialect types s rest
  | .builtin kind :: _ => dialect.builtinName kind sign
  | .typedefName name :: _ => dialect.aliasName types name
  | _ :: _ => ""

def signature (dialect : Dialect) (types : TypeTable) (specifiers : List Specifier) : String :=
  signatureFrom dialect types .plain specifiers

end Specifier

mutual

/-- The signature of a parameter or member: that of its first declarator. -/
def Declaration.signature (dialect : Dialect) (types : TypeTable) : Declaration → String
  | ⟨specifiers, [], _, _, _⟩ => Specifier.signature dialect types specifiers
  | ⟨specifiers, d :: _, _, _, _⟩ =>
    d.signatureOver dialect types (Specifier.signature dialect types specifiers)

/-- The signature of a declarator over a base that is already resolved. -/
def Declarator.signatureOver (dialect : Dialect) (types : TypeTable) (base : String) :
    Declarator → String
  | ⟨_, chain⟩ => Derivation.signature dialect types base chain

/-- A chain applied to a base, from the name outward.  A pointer looks one step ahead: to a
function it only changes the base.  A function takes the base as its result and ends the walk. -/
def Derivation.signature (dialect : Dialect) (types : TypeTable) (base : String) :
    List Derivation → String
  | [] => base
  | .pointer :: .function parameters isVariadic :: rest =>
    Derivation.signature dialect types (dialect.functionBase base)
      (.function parameters isVariadic :: rest)
  | [.pointer] => dialect.endPointer base
  | .pointer :: rest => dialect.wrapPointer (Derivation.signature dialect types base rest)
  | .array _ :: rest => dialect.wrapArray (Derivation.signature dialect types base rest)
  | .function parameters _ :: _ =>
    dialect.wrapFunction (argumentSignatures dialect types parameters) base

/-- The signatures of parameters in order, without the empty ones. -/
def argumentSignatures (dialect : Dialect) (types : TypeTable) : List Declaration → List String
  | [] => []
  | p :: rest =>
    let signature := p.signature dialect types
    let others := argumentSignatures dialect types rest
    if signature = "" then others else signature :: others

end

/-- A chain applied to the base that a specifier sequence names. -/
def chainSignature (dialect : Dialect) (types : TypeTable) (specifiers : List Specifier)
    (chain : List Derivation) : String :=
  Derivation.signature dialect types (Specifier.signature dialect types specifiers) chain

/-- The signature of a declarator under its specifiers. -/
def Declarator.signature (dialect : Dialect) (types : TypeTable) (specifiers : List Specifier)
    (d : Declarator) : String :=
  chainSignature dialect types specifiers d.chain

theorem argumentSignatures_eq (dialect : Dialect) (types : TypeTable) (ps : List Declaration) :
    argumentSignatures dialect types ps
      = (ps.map fun p => p.signature dialect types).filter (· ≠ "") := by
  induction ps with
  | nil => simp [argumentSignatures]
  | cons p ps ih =>
    rw [argumentSignatures, List.map_cons, List.filter_cons]
    by_cases h : p.signature dialect types = "" <;> simp [h, ih]

theorem Declaration.signature_cons (dialect : Dialect) (types : TypeTable)
    (p : Declaration) (d : Declarator) (ds : List Declarator) (h : p.declarators = d :: ds) :
    p.signature dialect types = d.signature dialect types p.specifiers := by
  obtain ⟨specifiers, declarators, _, _, _⟩ := p
  obtain ⟨name, chain⟩ := d
  cases h
  rfl

end HeaderBindings
