/-
  Whole texts: declarations, definitions of functions, and what declares nothing, in the grammar of
  pycparser 2.23.
-/
import HeaderBindings.C.Parser.Statement

namespace HeaderBindings.C

namespace Parser

/-- The token can follow what stands at the top level. -/
def endsExternal (t : Token) : Bool := t = .endOfText || t.beginsExternal

/-- A function from the end of its declarator on: declarations of its parameters, and its body.  What
follows the body is looked at before the function itself is declared. -/
def definition (g : Grammar) (s : Specifiers) (d : DeclaratorTree) : Parser External := do
  let stmts ← unprinted do
    repeat_ (fun () => do
      if (← peek).beginsDeclaration then
        let _ ← declaration g
        pure (.again ())
      else pure (.done ())) ()
    expect .leftBrace
    block g
  require endsExternal
  if s.isTypedef then complain (.ofOption d.place) .invalidTypedef
  else
    let decl ← join s true d.name { declarator := d }
    pure (.definition decl stmts d.place)

/-- A declaration or a definition, from its specifiers on. -/
def declared (g : Grammar) : Parser (List External) := do
  let (s, isTyped) ← declarationSpecifiers g
  if (← peek) = .mark .semicolon then
    return (← endDeclaration (joinBare s true)).map .declaration
  else
    let (first, isTypeName) ← named g isTyped
    let token ← peek
    if isTyped && !isTypeName && (token = .mark .leftBrace || token.beginsDeclaration) then
      return [← definition g s first]
    else
      let ds ← moreDeclarators g first
      return (← endDeclaration (joinAll s true ds)).map .declaration

/-- A definition without specifiers, whose function returns `int`. -/
def untypedDefinition (g : Grammar) : Parser External := do
  let (d, _) ← named g false
  definition g { types := [.word (.keyword .int) (← placeAt 0 1)] } d

/-- What stands next at the top level; nothing for a lone semicolon. -/
def external (g : Grammar) : Parser (List External) := do
  match ← peek with
  | .mark .semicolon =>
    advance
    pure []
  | .hash =>
    let place ← take
    require endsExternal
    complain (.place place) .directive
  | .pragma | .keyword .pragma =>
    let _ ← pragma
    pure [.silent]
  | .keyword .staticAssert =>
    let _ ← unprinted (assertion g)
    pure [.silent]
  | .ident _ | .mark .leftParen | .binary .times => return [← untypedDefinition g]
  | token => if token.beginsDeclaration then declared g else unexpected

/-- Everything up to the end of the text. -/
def externals (g : Grammar) : Parser (List External) :=
  repeat_ (fun (before : List External) => do
    if (← peek) = .endOfText then pure (.done before.reverse)
    else return .again ((← external g).reverse ++ before)) []

end Parser

/-- The trees of a text.  `file` is where it comes from as far as no line marker tells otherwise. -/
def parse (text : List Char) (file : String) : Except Fault (List External) := do
  let bound := text.length + 1
  let (lexeme, scanner) ← Scanner.next bound { rest := text, file := file }
  let state : State := { scanner := scanner, lookahead := lexeme, bound := bound }
  let (result, last) ← (Parser.externals (.ofDepth bound)).run state
  match last.unprintable with
  | some fault => .error fault
  | none => .ok result

end HeaderBindings.C
