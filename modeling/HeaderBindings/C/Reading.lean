/-
  The declarations that syntax trees stand for, and the reading of a whole text as a header.

  The layers of a type become the chain of a declarator, its base the specifiers.  A tree declares
  one name at most, so each declaration has at most one declarator.
-/
import HeaderBindings.C.Numeral
import HeaderBindings.C.Parser.Source
import HeaderBindings.C.Printer
import HeaderBindings.Declaration

namespace HeaderBindings.C

/-! ## Words and sizes -/

/-- The specifier of a keyword.  The wide integer is no base kind and counts as an alias. -/
def TypeWord.specifier : TypeWord → Specifier
  | void => .builtin .void
  | bool => .builtin .bool
  | char => .builtin .char
  | short => .builtin .short
  | int => .builtin .int
  | long => .builtin .long
  | float => .builtin .float
  | double => .builtin .double
  | complex => .builtin .complex
  | signed => .sign .signed
  | unsigned => .sign .unsigned
  | int128 => .typedefName int128.text

def BaseWord.specifier : BaseWord → Specifier
  | keyword word => word.specifier
  | typedefName name => .typedefName name.text

/-- A constant is evaluated if it is an integer; what is not evaluated is kept as text. -/
def Expr.length : Expr → ArrayLength
  | .constant text => (Numeral.value text).elim (.symbolic text) .count
  | e => .symbolic (e.text 0)

def Bound.length : Bound → ArrayLength
  | .none => .unknown
  | .star => .symbolic "*"
  | .leadingStar => .symbolic "]"
  | .size e => e.length

/-- The names of enumerators. -/
def Enumerator.name : Enumerator → String
  | mk name _ => name.text

/-! ## Types -/

namespace TypeTree

/-- The type has a place for a name, used or not. -/
def isDeclared : TypeTree → Bool
  | declared .. => true
  | _ => false

end TypeTree

def Param.isEllipsis : Param → Bool
  | ellipsis => true
  | _ => false

/-- The location of a place; `file` stands for a file that has no name. -/
def Place.location (file : String) (p : Place) : Location :=
  { file := if p.file = "" then file else p.file, line := p.line, column := some (p.column : Int) }

/-- The declarator with this chain of a type, if the type is more than a base. -/
def declarators (name : Option Ident) (type : TypeTree) (chain : List Derivation) :
    List Declarator :=
  if name.isSome || !chain.isEmpty || type.isDeclared then [{ name := name.map Ident.text, chain }]
  else []

mutual

/-- The layers of a type from the name outward. -/
def TypeTree.chain (file : String) : TypeTree → List Derivation
  | .pointer _ target => .pointer :: target.chain file
  | .array _ bound element => .array bound.length :: element.chain file
  | .function parameters result =>
    .function (Param.declarations file parameters) (parameters.any Param.isEllipsis)
      :: result.chain file
  | .declared _ _ base => base.chain file
  | _ => []

/-- The base of a type.  A type name in place of a base has none. -/
def TypeTree.specifiers (file : String) : TypeTree → List Specifier
  | .pointer _ target => target.specifiers file
  | .array _ _ element => element.specifiers file
  | .function _ result => result.specifiers file
  | .declared _ _ base => base.specifiers file
  | .words words => words.map BaseWord.specifier
  | .record isUnion tag members =>
    [.record isUnion (tag.map Ident.text) (Member.declarations file members)]
  | .recordRef isUnion tag => [.recordRef isUnion (some tag.text)]
  | .enumeration tag enumerators =>
    [.enumeration (tag.map Ident.text) (enumerators.map Enumerator.name)]
  | .enumerationRef tag => [.enumerationRef (some tag.text)]
  | .named _ => []

/-- The declaration of a tree, with the text it is shown by.  There is a declarator unless the tree
is a base alone. -/
def Decl.declaration (file text : String) : Decl → Declaration
  | .decl name storage _ _ type _ _ place =>
    { specifiers := type.specifiers file
      declarators := declarators name type (type.chain file)
      isTypedef := storage.contains .typedef
      location := place.map (Place.location file)
      text }
  | .typedef name storage type place =>
    { specifiers := type.specifiers file
      declarators := declarators name type (type.chain file)
      isTypedef := storage.contains .typedef
      location := place.map (Place.location file)
      text }

/-- The declarations of parameters.  A bare name is an `int`; a typedef and the ellipsis are no
parameters. -/
def Param.declarations (file : String) : List Param → List Declaration
  | [] => []
  | .declared (.typedef ..) :: rest => Param.declarations file rest
  | .declared decl :: rest => decl.declaration file "" :: Param.declarations file rest
  | .unnamed type place :: rest =>
    { specifiers := type.specifiers file
      declarators := declarators none type (type.chain file)
      location := some (place.location file) } :: Param.declarations file rest
  | .bare name :: rest =>
    { specifiers := [.builtin .int]
      declarators := [{ name := some name.text }] } :: Param.declarations file rest
  | .ellipsis :: rest => Param.declarations file rest

/-- The declarations of members, each shown by its own line. -/
def Member.declarations (file : String) : List Member → List Declaration
  | [] => []
  | .field (.typedef ..) :: rest => Member.declarations file rest
  | .field decl :: rest => decl.declaration file decl.line :: Member.declarations file rest
  | .pragma _ :: rest => Member.declarations file rest

end

/-! ## Headers -/

/-- The node of what stands at the top level. -/
def External.node? (file : String) : External → Option Node
  | declaration decl => some (.declaration (decl.declaration file decl.line))
  | definition decl _ place =>
    some (.definition {
      specifiers := decl.type.specifiers file
      declarator := { name := decl.name?.map Ident.text, chain := decl.type.chain file }
      location := place.map (Place.location file)
      text := decl.line })
  | silent => none

/-- Reads a C text as the header at `path`. -/
def read (text : List Char) (path : String) : Except Fault Header := do
  return { path, nodes := (← parse text path).filterMap (External.node? path) }

end HeaderBindings.C
