/-
  Declarations of a C header: a sequence of type specifiers and the declarators that follow it.
  A declarator holds its chain of derivations (pointer, array, function) from the name outward, so
  `int (*f)(void)` is a pointer to a function and `int *f(void)` a function that returns a pointer.
-/

namespace HeaderBindings

/-- Where a declaration stands: the file named by the line markers, the line and the column.  What a
reader of headers gives counts both from one; line zero stands for a place that is not known. -/
structure Location where
  file : String
  line : Int
  column : Option Int := none
  deriving DecidableEq, Repr

/-! ## Type specifiers -/

/-- The keywords that name a type by themselves. -/
inductive BaseKind where
  | void | bool | char | short | int | long | float | double | complex
  deriving DecidableEq, Repr

/-- `plain` is the absence of a sign keyword. -/
inductive Signedness where
  | plain | signed | unsigned
  deriving DecidableEq, Repr

/-- The size of an array: absent, an integer, or text that is not evaluated. -/
inductive ArrayLength where
  | unknown
  | count (n : Nat)
  | symbolic (text : String)
  deriving DecidableEq, Repr

mutual

/-- A record or an enumeration is either defined, with its members, or referred to by its tag. -/
inductive Specifier where
  | builtin (kind : BaseKind)
  | sign (signedness : Signedness)
  | record (isUnion : Bool) (tag : Option String) (members : List Declaration)
  | recordRef (isUnion : Bool) (tag : Option String)
  | enumeration (tag : Option String) (enumerators : List String)
  | enumerationRef (tag : Option String)
  | typedefName (name : String)
  | typeOf (text : String)

/-- One step of a declarator, read from the name outward. -/
inductive Derivation where
  | pointer
  | array (length : ArrayLength)
  | function (parameters : List Declaration) (isVariadic : Bool)

/-- A declared name, absent for an unnamed parameter, and its derivations from the name outward. -/
structure Declarator where
  name : Option String := none
  chain : List Derivation := []

/-- Specifiers with any number of declarators; members and parameters are declarations too. -/
structure Declaration where
  specifiers : List Specifier := []
  declarators : List Declarator := []
  isTypedef : Bool := false
  location : Option Location := none
  text : String := ""

end

instance : Inhabited Specifier := ⟨.sign .plain⟩
instance : Inhabited Derivation := ⟨.pointer⟩
instance : Inhabited Declarator := ⟨{}⟩
instance : Inhabited Declaration := ⟨{}⟩

namespace Derivation

def isFunction : Derivation → Bool
  | function .. => true
  | _ => false

def isArray : Derivation → Bool
  | array .. => true
  | _ => false

end Derivation

namespace Declarator

/-- The declared thing is itself a function. -/
def isFunction (d : Declarator) : Bool := d.chain.head?.any Derivation.isFunction

/-- The declared thing is itself an array. -/
def isArray (d : Declarator) : Bool := d.chain.head?.any Derivation.isArray

end Declarator

/-! ## Headers -/

/-- A function with a body; in a header that is an inline function. -/
structure FunctionDefinition where
  specifiers : List Specifier := []
  declarator : Declarator := {}
  location : Option Location := none
  text : String := ""

/-- What stands at the top level of a header. -/
inductive Node where
  | declaration (d : Declaration)
  | definition (f : FunctionDefinition)
  | assembly (location : Option Location) (text : String)

namespace Node

def location : Node → Option Location
  | declaration d => d.location
  | definition f => f.location
  | assembly location _ => location

def isAssembly : Node → Bool
  | assembly .. => true
  | _ => false

end Node

/-- The top level of one header and of everything it includes, in order. -/
structure Header where
  path : String
  nodes : List Node := []

namespace Header

/-- A one-line account: the path and the number of nodes. -/
def summary (h : Header) : String :=
  "TranslationUnit(" ++ h.path ++ ", " ++ toString h.nodes.length ++ " declarations)"

end Header

end HeaderBindings
