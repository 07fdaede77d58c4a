/-
  Declarations: specifiers with declarators are joined into trees (`joinAll`), and the names are
  declared before anything after the semicolon is read.  Joining follows pycparser 2.23, with the
  moment at which it declares each name.

  An atomic type holds a type name.  Where it is the type of a declared name, its tree takes the
  place of the base and carries the qualifier, and its innermost name becomes the declared one.
-/
import HeaderBindings.C.Parser.Specifier

namespace HeaderBindings.C

namespace TypeTree

/-- Why a type cannot be atomic: arrays and functions take no qualifiers. -/
def atomicFault? : TypeTree → Option Fault
  | array .. => some (.lacking "ArrayDecl" "quals")
  | function .. => some (.lacking "FuncDecl" "quals")
  | _ => none

def addAtomic (qualifiers : List Qualifier) : List Qualifier :=
  if qualifiers.contains .atomic then qualifiers else qualifiers ++ [.atomic]

/-- The type with the atomic qualifier on its outermost layer. -/
def makeAtomic : TypeTree → TypeTree
  | pointer qualifiers target => pointer (addAtomic qualifiers) target
  | declared name qualifiers base => declared name (addAtomic qualifiers) base
  | other => other

/-- The type inside an atomic type name, with those inside it in the place of their bases, the
innermost name set, and the qualifier added.  Faults are found from the outside in. -/
def liftAtomic (name : Option Ident) (t : TypeTree) : Except Fault TypeTree :=
  match t.atomicFault? with
  | some fault => .error fault
  | none => return (← lift t).makeAtomic
where
  lift : TypeTree → Except Fault TypeTree
    | pointer qualifiers target => return pointer qualifiers (← lift target)
    | array marks bound element => return array marks bound (← lift element)
    | function parameters result => return function parameters (← lift result)
    | declared _ _ (named type) =>
      match type.atomicFault? with
      | some fault => .error fault
      | none => return (← lift type).makeAtomic
    | declared own qualifiers base => .ok (declared (own.or name) qualifiers base)
    | other => .ok other

end TypeTree

namespace Parser

/-! ## Joining specifiers and declarators -/

/-- The base that type specifiers stand for.  A record, an enumeration or an atomic type has to stand
alone.  Without a type a function returns `int`, and nothing else is valid. -/
def baseOf (types : List TypeSpec) (isFunction : Bool) (whereabouts : Whereabouts) :
    Parser TypeTree :=
  match types.find? (·.word?.isNone) with
  | some special =>
    if 1 < types.length then complain (.place special.place) .multipleTypes
    else match special with
      | .atomic type _ => pure (.named type)
      | .tagged type _ => pure type
      | .word w _ => pure (.words [w])
  | none =>
    if types.isEmpty then
      if isFunction then pure (.words [.keyword .int]) else complain whereabouts .missingType
    else pure (.words (types.filterMap TypeSpec.word?))

/-- A declarator with what may follow it. -/
structure InitDeclarator where
  declarator : DeclaratorTree
  bits : Option Expr := none
  init : Option Expr := none

/-- The part of a type below the layers of its declarator. -/
def coreOf (name shared : Option Ident) (qualifiers : List Qualifier) : TypeTree → Parser TypeTree
  | .named type =>
    match type.liftAtomic shared with
    | .ok core => pure core
    | .error fault => fail fault
  | base => pure (.declared name qualifiers base)

/-- Joins one declarator to its specifiers; with `declares`, its name is declared.  The name in an
atomic type's tree is `shared`, the first that the declaration declares. -/
def join (s : Specifiers) (declares : Bool) (shared : Option Ident) (d : InitDeclarator) :
    Parser Decl := do
  let t := d.declarator
  let base ← baseOf s.types t.isFunction (.ofOption t.place)
  match t.name with
  | some name => if declares then declare name s.isTypedef (.ofOption t.place)
  | none => pure ()
  let type := t.wrap (← coreOf t.name shared s.qualifiers base)
  if s.isTypedef then pure (.typedef t.name s.storage type t.place)
  else pure (.decl t.name s.storage s.functionWords s.alignments type d.bits d.init t.place)

/-- Joins declarators to their specifiers in order. -/
def joinAll (s : Specifiers) (declares : Bool) (ds : List InitDeclarator) : Parser (List Decl) :=
  ds.mapM (join s declares (ds.findSome? (·.declarator.name)))

/-- Takes the last type specifier as the declared name, which only a typedef name behind another type
can be. -/
def nameFromTypes? (s : Specifiers) : Parser (Option (Ident × Place × Specifiers)) := do
  match s.types.getLast? with
  | none => pure none
  | some last =>
    if s.types.length < 2 then pure none
    else match last with
      | .word (.typedefName name) place =>
        if ← isType name then pure (some (name, place, { s with types := s.types.dropLast }))
        else pure none
      | .word (.keyword _) _ => pure none
      | other => fail (.lacking other.kind "names")

/-- A declaration with specifiers alone: of a record or an enumeration, or of a name that was taken
for a type. -/
def joinBare (s : Specifiers) (declares : Bool) : Parser (List Decl) := do
  match s.types with
  | [.tagged type place] =>
    pure [.decl none s.storage s.functionWords s.alignments type none none (some place)]
  | _ =>
    match ← nameFromTypes? s with
    | some (name, place, rest) =>
      joinAll rest declares [{ declarator := .leaf (some name) (some place) }]
    | none => complain (s.types.head?.elim .noType fun t => .place t.place) .invalidDeclaration

/-! ## Declarations -/

/-- The initializer of a declarator, if it has one. -/
def initialized (g : Grammar) (declarator : DeclaratorTree) : Parser InitDeclarator := do
  if (← peek) = .assign none then
    advance
    return { declarator, init := ← initializer g }
  else pure { declarator }

/-- The declarators after the first one. -/
def moreDeclarators (g : Grammar) (first : DeclaratorTree) : Parser (List InitDeclarator) := do
  let start ← initialized g first
  let rest ← repeat_ (fun (before : List InitDeclarator) => do
    if ← accept .comma then
      let (declarator, _) ← named g true
      return .again ((← initialized g declarator) :: before)
    else pure (.done before.reverse)) []
  pure (start :: rest)

/-- Ends a declaration: its names are declared while the semicolon is ahead. -/
def endDeclaration (decls : Parser (List Decl)) : Parser (List Decl) := do
  require (· = .mark .semicolon)
  let result ← decls
  advance
  pure result

/-- A declaration with its semicolon.  Without a type the first declared name is no typedef name. -/
def declaration (g : Grammar) : Parser (List Decl) := do
  let (s, isTyped) ← declarationSpecifiers g
  if (← peek) = .mark .semicolon then endDeclaration (joinBare s true)
  else
    let (first, _) ← named g isTyped
    let ds ← moreDeclarators g first
    endDeclaration (joinAll s true ds)

/-! ## Members -/

/-- A declarator of a member: a name, a width, or both. -/
def memberDeclarator (g : Grammar) : Parser InitDeclarator := do
  let declarator ← if (← peek) = .mark .colon then pure (.leaf none none)
    else Prod.fst <$> named g true
  if ← accept .colon then return { declarator, bits := ← conditional g }
  else pure { declarator }

/-- Members declared together.  What follows the semicolon is looked at before they are joined. -/
def memberDeclaration (g : Grammar) : Parser (List Decl) := do
  let s ← qualifiedSpecifiers g
  let ds ← if (← peek) = .mark .semicolon then pure none
    else some <$> commaList (memberDeclarator g)
  expect .semicolon
  require fun t => t.beginsMember || t = .mark .rightBrace
  match ds, s.types with
  | some ds, _ => joinAll s false ds
  | none, [.word w place] =>
    pure [.decl none s.storage s.functionWords s.alignments (.words [w]) none none (some place)]
  | none, [.atomic ..] => fail (.lacking "Typename" "names")
  | none, _ => joinBare s false

/-- A pragma in either form. -/
def pragma : Parser String := do
  if (← peek) = .pragma then
    advance
    match ← peek with
    | .pragmaText text =>
      advance
      pure text
    | _ => pure ""
  else
    expectToken (.keyword .pragma)
    expect .leftParen
    let text ← strings
    expect .rightParen
    pure text

/-- A pragma inside a declaration.  The form of an operator has no printed form there. -/
def innerPragma : Parser String := do
  if (← peek) = .keyword .pragma then
    let text ← pragma
    noteUnprintable .pragmaOperator
    pure text
  else pragma

/-- The members of a record after its opening brace, with the closing one. -/
def members (g : Grammar) : Parser (List Member) :=
  repeat_ (fun (before : List Member) => do
    match ← peek with
    | .mark .rightBrace =>
      advance
      pure (.done before.reverse)
    | .mark .semicolon =>
      advance
      pure (.again before)
    | .pragma | .keyword .pragma => return .again (.pragma (← innerPragma) :: before)
    | token =>
      if token.beginsType then
        let decls ← memberDeclaration g
        pure (.again ((decls.map Member.field).reverse ++ before))
      else unexpected) []

/-! ## Parameters and type names -/

/-- The token can follow a parameter. -/
def endsParameter (t : Token) : Bool := t = .mark .comma || t = .mark .rightParen

/-- A parameter without a name is a type in place of a declaration. -/
def unnamedParameter (s : Specifiers) (d : DeclaratorTree) : Parser Param := do
  let place ← placeAt 0 1
  let base ← baseOf s.types d.isFunction (.place place)
  pure (.unnamed (d.wrap (.declared none s.qualifiers base)) place)

/-- A parameter of a function. -/
def parameter (g : Grammar) : Parser Param := do
  let (s, isTyped) ← declarationSpecifiers g
  if !isTyped then unexpected
  else
    let d ← if endsParameter (← peek) then pure none else some <$> optionalName g .identOrType
    require endsParameter
    match d with
    | some { name := some name, place, layers } =>
      let decls ← joinAll s false [{ declarator := { name := some name, place, layers } }]
      pure (decls.head?.elim .ellipsis .declared)
    | _ =>
      let abstract := d.getD (.leaf none none)
      match ← nameFromTypes? s with
      | none => unnamedParameter s abstract
      | some (name, place, rest) =>
        let place := if d.isSome then abstract.place else some place
        let decls ← joinAll rest false [{ declarator := { abstract with name := some name, place } }]
        pure (decls.head?.elim .ellipsis .declared)

/-- The parameters of a function; an ellipsis may end them. -/
def parameters (g : Grammar) : Parser (List Param) := do
  let first ← parameter g
  repeat_ (fun (before : List Param) => do
    if ← accept .comma then
      if ← accept .ellipsis then pure (.done (Param.ellipsis :: before).reverse)
      else return .again ((← parameter g) :: before)
    else pure (.done before.reverse)) [first]

/-- A type name, which a closing parenthesis or a comma has to follow. -/
def typeName (g : Grammar) : Parser TypeTree := do
  let s ← qualifiedSpecifiers g
  let isEnd (t : Token) : Bool := t = .mark .rightParen || t = .mark .comma
  let d ← if isEnd (← peek) then pure (DeclaratorTree.leaf none none) else optionalName g .none
  require isEnd
  let base ← baseOf s.types d.isFunction (.place (← placeAt 0 1))
  pure (d.wrap (.declared none s.qualifiers base))

end Parser

end HeaderBindings.C
