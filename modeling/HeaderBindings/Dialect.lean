/-
  The two ways of spelling a type.  `Dialect.binding` writes signatures of foreign functions and
  fields (`Ptr`, `FunPtr`, `IO`), `Dialect.c` writes plain C type names for the helper macros.
  Void is the empty text in both, so that a function without a result returns `IO ()`.
-/
import HeaderBindings.Declaration
import HeaderBindings.TypeTable

namespace HeaderBindings

/-- How each step of a type is spelled. -/
structure Dialect where
  /-- A base keyword under the sign keyword seen before it. -/
  builtinName : BaseKind → Signedness → String
  /-- A sign keyword that no base keyword follows. -/
  signName : Signedness → String
  aliasName : TypeTable → String → String
  /-- What a pointer to a function hands to the function as its base. -/
  functionBase : String → String
  /-- A pointer that ends the chain. -/
  endPointer : String → String
  wrapPointer : String → String
  wrapArray : String → String
  /-- A function of the given argument types and result. -/
  wrapFunction : List String → String → String

namespace Dialect

/-! ## Bindings -/

def bindingBuiltin : BaseKind → Signedness → String
  | .void, _ => ""
  | .bool, _ => "CInt"
  | .char, .plain => "CChar"
  | .char, .signed => "CSChar"
  | .char, .unsigned => "CUChar"
  | .short, .unsigned => "CUShort"
  | .short, _ => "CShort"
  | .int, .unsigned => "CUInt"
  | .int, _ => "CInt"
  | .long, .unsigned => "CULong"
  | .long, _ => "CLong"
  | .float, _ => "CFloat"
  | .double, _ => "CDouble"
  | .complex, _ => ""

def bindingSign : Signedness → String
  | .plain => ""
  | .signed => "CInt"
  | .unsigned => "CUInt"

/-- A pointer to characters is a string, and a base of several words is put in parentheses. -/
def bindingPointer (base : String) : String :=
  if base = "" then "Ptr ()"
  else if base = "CChar" then "CString"
  else if ' ' ∈ base.toList then "Ptr (" ++ base ++ ")"
  else "Ptr " ++ base

/-- The signatures of the bindings.  An alias stands for its recorded signature; one that was not
recorded is named between angle brackets. -/
def binding : Dialect where
  builtinName := bindingBuiltin
  signName := bindingSign
  aliasName types name := (types.lookup? name).getD ("<" ++ name ++ ">")
  functionBase := bindingPointer
  endPointer := bindingPointer
  wrapPointer inner := "Ptr (" ++ inner ++ ")"
  wrapArray inner := "Ptr (" ++ inner ++ ")"
  wrapFunction arguments result :=
    "FunPtr (" ++ " -> ".intercalate (arguments ++ ["IO (" ++ result ++ ")"]) ++ ")"

/-! ## Plain C -/

def cBuiltin : BaseKind → Signedness → String
  | .void, _ => ""
  | .bool, _ => "int"
  | .char, .plain => "char"
  | .char, .signed => "signed char"
  | .char, .unsigned => "unsigned char"
  | .short, .plain => "short"
  | .short, .signed => "signed short"
  | .short, .unsigned => "unsigned short"
  | .int, .plain => "int"
  | .int, .signed => "signed int"
  | .int, .unsigned => "unsigned int"
  | .long, .plain => "long"
  | .long, .signed => "signed long"
  | .long, .unsigned => "unsigned long"
  | .float, _ => "float"
  | .double, _ => "double"
  | .complex, _ => ""

def cSign : Signedness → String
  | .plain => ""
  | .signed => "signed"
  | .unsigned => "unsigned"

/-- The type names of the helper macros.  The helper file includes the header, so an alias stands
for itself. -/
def c : Dialect where
  builtinName := cBuiltin
  signName := cSign
  aliasName _ name := name
  functionBase base := base ++ " *"
  endPointer base := if base = "" then "void *" else base ++ "*"
  wrapPointer inner := inner ++ " *"
  wrapArray inner := inner ++ "[]"
  wrapFunction arguments result := ", ".intercalate ((arguments ++ [result]).filter (· ≠ ""))

end Dialect

end HeaderBindings
