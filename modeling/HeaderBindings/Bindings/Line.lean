/-
  Lines of the two outputs: the binding lines, which a module lists after its imports, and the
  helper lines, which expand to C wrappers of inline functions.
-/

namespace HeaderBindings

/-- The word that opens a line for a function: a function of the library, an inline function of the
header, or another word that the caller gives. -/
inductive Marker where
  | ccall
  | cinline
  | custom (word : String)
  deriving DecidableEq, Repr

def Marker.render : Marker → String
  | ccall => "#ccall"
  | cinline => "#cinline"
  | custom word => word

/-- A line of the bindings.  `verbatim` is a line that the caller wrote. -/
inductive Line where
  | comment (text : String)
  | opaqueType (name : String)
  | startType (name : String)
  | field (name type : String)
  | arrayField (name type : String)
  | stopType
  | integral (name : String)
  | number (name : String)
  | function (marker : Marker) (name : String) (arguments : List String) (result : String)
  | verbatim (text : String)
  deriving DecidableEq, Repr

namespace Line

def render : Line → String
  | comment text => "\x7b- " ++ text ++ " -\x7d"
  | opaqueType name => "#opaque_t " ++ name
  | startType name => "#starttype " ++ name
  | field name type => "#field " ++ name ++ " , " ++ type
  | arrayField name type => "#array_field " ++ name ++ " , " ++ type
  | stopType => "#stoptype"
  | integral name => "#integral_t " ++ name
  | number name => "#num " ++ name
  | function marker name arguments result =>
    marker.render ++ " " ++ name ++ " , "
      ++ " -> ".intercalate (arguments ++ ["IO (" ++ result ++ ")"])
  | verbatim text => text

end Line

/-- A line of the helper file: a macro call for an inline function of `arity` parameters, or a line
that the caller wrote. -/
inductive HelperLine where
  | inlineCall (arity : Nat) (isVoid : Bool) (arguments : List String)
  | verbatim (text : String)
  deriving DecidableEq, Repr

namespace HelperLine

def render : HelperLine → String
  | inlineCall arity isVoid arguments =>
    "BC_INLINE" ++ toString arity ++ (if isVoid then "VOID" else "")
      ++ "(" ++ ", ".intercalate arguments ++ ")"
  | verbatim text => text

end HelperLine

end HeaderBindings
