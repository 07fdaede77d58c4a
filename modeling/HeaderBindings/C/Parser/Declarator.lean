/-
  Declarators.  What is read is the declared name, if there is one, and the layers around it from
  the name outward; `DeclaratorTree.wrap` puts them around a base.  The grammar is that of pycparser
  2.23.
-/
import HeaderBindings.C.Parser.Expression

namespace HeaderBindings.C

/-- One layer of a declarator. -/
inductive Layer where
  | pointer (qualifiers : List Qualifier)
  | array (words : List BoundWord) (bound : Bound)
  | function (parameters : List Param)

def Layer.isFunction : Layer → Bool
  | function _ => true
  | _ => false

def Layer.wrap : Layer → TypeTree → TypeTree
  | pointer qualifiers, t => .pointer qualifiers t
  | array words bound, t => .array words bound t
  | function parameters, t => .function parameters t

/-- A declarator.  Its place is that of the name, or of the star nearest to the name if the declared
thing is a pointer; without a name it is that of the first layer. -/
structure DeclaratorTree where
  name : Option Ident
  place : Option Place
  layers : List Layer := []

namespace DeclaratorTree

/-- A name or a place alone. -/
def leaf (name : Option Ident) (place : Option Place) : DeclaratorTree := { name, place }

def addLayer (d : DeclaratorTree) (layer : Layer) : DeclaratorTree :=
  { d with layers := d.layers ++ [layer] }

/-- The declarator with pointers before it, given with their places from the left. -/
def addPointers (d : DeclaratorTree) (pointers : List (List Qualifier × Place)) : DeclaratorTree :=
  let nearest := pointers.getLast?.map (·.2)
  { d with
    place := if d.layers.isEmpty then nearest.or d.place else d.place
    layers := d.layers ++ (pointers.reverse.map fun p => .pointer p.1) }

/-- The declarator declares a function. -/
def isFunction (d : DeclaratorTree) : Bool := d.layers.head?.any Layer.isFunction

/-- The layers around the innermost part of a type. -/
def wrap (d : DeclaratorTree) (core : TypeTree) : TypeTree := d.layers.foldr Layer.wrap core

end DeclaratorTree

namespace Parser

/-- Qualifiers as far as they go. -/
def qualifiers : Parser (List Qualifier) :=
  repeat_ (fun (before : List Qualifier) => do
    match ← peek with
    | .qualifier q =>
      advance
      pure (.again (q :: before))
    | _ => pure (.done before.reverse)) []

/-- Stars with their qualifiers, from the left. -/
def pointers : Parser (List (List Qualifier × Place)) := do
  let stars ← repeat_ (fun (before : List (List Qualifier × Place)) => do
    if (← peek) = .binary .times then
      let star ← here
      advance
      pure (.again ((← qualifiers, star) :: before))
    else pure (.done before.reverse)) []
  stars.mapM fun (words, star) => do
    pure (words, ← placeAt star.line star.column)

/-! ## Arrays -/

/-- An array's size from the token after the words, with the closing bracket.  A lone star is a size
of its own, any other opens an expression. -/
def boundRest (g : Grammar) : Parser Bound := do
  match ← peek with
  | .mark .rightBracket =>
    advance
    pure .none
  | .binary .times =>
    advance
    if ← accept .rightBracket then pure .star
    else
      let value ← assignmentFrom g (.unary .dereference (← cast)) true
      expect .rightBracket
      pure (.size value)
  | _ =>
    let value ← assignment g
    expect .rightBracket
    pure (.size value)
where
  cast : Parser Expr := return (← castOrUnary g).1

/-- A size that has to be there, with the closing bracket. -/
def boundRequired (g : Grammar) : Parser Bound := do
  let value ← assignment g
  expect .rightBracket
  pure (.size value)

/-- An array after its opening bracket: qualifiers and `static` in either order, then the size. -/
def arrayLayer (g : Grammar) : Parser Layer := do
  if (← peek) = .storage .static then
    advance
    let words ← qualifiers
    return .array (.static :: words.map .qualifier) (← boundRequired g)
  else
    let words ← qualifiers
    if !words.isEmpty && (← peek) = .storage .static then
      advance
      return .array (words.map .qualifier ++ [.static]) (← boundRequired g)
    else return .array (words.map .qualifier) (← boundRest g)

/-- An array without a name to the left of it.  Here a star is always a size, unless qualifiers stand
before it. -/
def firstArrayLayer (g : Grammar) : Parser Layer := do
  match ← peek with
  | .binary .times =>
    advance
    expect .rightBracket
    pure (.array [] .leadingStar)
  | .qualifier _ =>
    let words ← qualifiers
    if (← peek) = .storage .static then
      advance
      return .array (words.map .qualifier ++ [.static]) (← boundRequired g)
    else if ← accept .rightBracket then pure (.array (words.map .qualifier) .none)
    else return .array (words.map .qualifier) (← boundRequired g)
  | _ => arrayLayer g

/-! ## Functions -/

/-- Declares the parameters of a function whose body follows, up to an ellipsis. -/
def declareParameters : List Param → Parser Unit
  | [] => pure ()
  | .ellipsis :: _ => pure ()
  | .declared decl :: rest => do
    match decl.name? with
    | some name => declare name false (.ofOption decl.place)
    | none => pure ()
    declareParameters rest
  | .bare name :: rest => do
    declare name false .noName
    declareParameters rest
  | .unnamed .. :: rest => declareParameters rest

/-- The bare names of parameters whose types are given elsewhere. -/
def bareNames : Parser (List Param) := do
  return (← commaList plainName).map .bare

/-- The parameters of a named function after the opening parenthesis, with the closing one. -/
def functionLayer (g : Grammar) : Parser Layer := do
  let parameters ← match ← peek with
    | .mark .rightParen => pure []
    | .ident _ => bareNames
    | _ => g.parameters
  expect .rightParen
  if (← peek) = .mark .leftBrace then declareParameters parameters
  pure (.function parameters)

/-- The parameters of a function without a name, after the opening parenthesis. -/
def namelessFunctionLayer (g : Grammar) : Parser Layer := do
  let parameters ← if (← peek) = .mark .rightParen then pure [] else g.parameters
  expect .rightParen
  pure (.function parameters)

/-! ## Named declarators -/

/-- The arrays and parameter lists that follow a named declarator. -/
def layersAfter (g : Grammar) : DeclaratorTree → Parser DeclaratorTree :=
  repeat_ fun d => do
    match ← peek with
    | .mark .leftBracket =>
      advance
      pure (.again (d.addLayer (← arrayLayer g)))
    | .mark .leftParen =>
      advance
      pure (.again (d.addLayer (← functionLayer g)))
    | _ => pure (.done d)

/-- A declarator with a name, which may be a typedef name if `allowType`; the flag tells whether it
is.  `depth` bounds the parentheses. -/
def namedFrom (g : Grammar) (allowType : Bool) : Nat → Parser (DeclaratorTree × Bool)
  | 0 => fail .depth
  | depth + 1 => do
    let stars ← pointers
    let (inner, isType) ← match ← peek with
      | .ident name => pure (.leaf name (← take), false)
      | .typeName name =>
        if allowType then pure (.leaf name (← take), true) else unexpected
      | .mark .leftParen => do
        advance
        let result ← namedFrom g allowType depth
        expect .rightParen
        pure result
      | _ => unexpected
    return ((← layersAfter g inner).addPointers stars, isType)

/-- A declarator with a name; the flag tells whether that is a typedef name. -/
def named (g : Grammar) (allowType : Bool) : Parser (DeclaratorTree × Bool) := do
  namedFrom g allowType (← get).bound

/-! ## Declarators that may lack a name -/

/-- The arrays and parameter lists that follow a declarator without a name. -/
def namelessLayersAfter (g : Grammar) : DeclaratorTree → Parser DeclaratorTree :=
  repeat_ fun d => do
    match ← peek with
    | .mark .leftBracket =>
      advance
      pure (.again (d.addLayer (.array [] (← boundRest g))))
    | .mark .leftParen =>
      advance
      pure (.again (d.addLayer (← namelessFunctionLayer g)))
    | _ => pure (.done d)

/-- Which names a declarator may have: none, an identifier, or also a typedef name.  Inside
parentheses a typedef name always opens a parameter list. -/
inductive NameChoice where
  | none
  | ident
  | identOrType
  deriving DecidableEq

def NameChoice.inParens : NameChoice → NameChoice
  | .none => .none
  | _ => .ident

/-- A declarator that is not empty and may lack a name.  `depth` bounds the parentheses. -/
def optionalFrom (g : Grammar) : NameChoice → Nat → Parser DeclaratorTree
  | _, 0 => fail .depth
  | choice, depth + 1 => do
    let stars ← pointers
    let inner ← match ← peek with
      | .ident name =>
        if choice = .none then unexpected else layersAfter g (.leaf name (← take))
      | .typeName name =>
        if choice = .identOrType then layersAfter g (.leaf name (← take)) else unexpected
      | .mark .leftBracket =>
        let start ← here
        advance
        let layer ← firstArrayLayer g
        let d := DeclaratorTree.leaf none (← placeAt start.line start.column)
        namelessLayersAfter g (d.addLayer layer)
      | .mark .leftParen =>
        let start ← here
        advance
        let token ← peek
        if token = .mark .rightParen || token.beginsDeclaration then
          let layer ← namelessFunctionLayer g
          let d := DeclaratorTree.leaf none (← placeAt start.line start.column)
          namelessLayersAfter g (d.addLayer layer)
        else
          let d ← optionalFrom g choice.inParens depth
          expect .rightParen
          if d.name.isSome then layersAfter g d else namelessLayersAfter g d
      | _ => if stars.isEmpty then unexpected else pure (.leaf none none)
    pure (inner.addPointers stars)

/-- A declarator that is not empty and may lack a name. -/
def optionalName (g : Grammar) (choice : NameChoice) : Parser DeclaratorTree := do
  optionalFrom g choice (← get).bound

end Parser

end HeaderBindings.C
