/-
  Statements.  A pragma is a statement of its own, but where one statement is asked for, pragmas
  before it are read with it as a block.  The grammar is that of pycparser 2.23.
-/
import HeaderBindings.C.Parser.Declaration

namespace HeaderBindings.C

namespace Stmt

def isCase : Stmt → Bool
  | case .. | otherwise .. => true
  | _ => false

/-- A case whose statement is again a case, as the cases one after another. -/
def unnest : Stmt → List Stmt
  | case value (inner :: rest) =>
    if inner.isCase then case value rest :: inner.unnest else [case value (inner :: rest)]
  | otherwise (inner :: rest) =>
    if inner.isCase then otherwise rest :: inner.unnest else [otherwise (inner :: rest)]
  | s => [s]

/-- A case with one more statement. -/
def extend (s : Stmt) : Stmt → Stmt
  | case value body => case value (body ++ [s])
  | otherwise body => otherwise (body ++ [s])
  | other => other

/-- The statements of a selection with each put under the case before it; `before` holds the ones
arranged so far, the last one first. -/
def arrange (before : List Stmt) : List Stmt → List Stmt
  | [] => before.reverse
  | s :: rest =>
    if s.isCase then arrange (s.unnest.reverse ++ before) rest
    else match before with
      | last :: others =>
        if last.isCase then arrange (s.extend last :: others) rest
        else arrange (s :: before) rest
      | [] => arrange [s] rest

/-- The body of a selection with its statements under their cases. -/
def arranged : Stmt → Stmt
  | compound body => compound (arrange [] body)
  | other => other

end Stmt

namespace Parser

/-- A single statement in its place, with the pragmas before it; the flag tells that it stands
without. -/
def body (g : Grammar) : Parser (Stmt × Bool) :=
  repeat_ (fun (before : List Stmt) => do
    let close (last : Stmt) : Stmt × Bool :=
      if before.isEmpty then (last, true) else (.compound (before.reverse ++ [last]), false)
    match ← peek with
    | .pragma | .keyword .pragma =>
      let here := Stmt.pragma (← innerPragma)
      if (← peek).beginsStatement then pure (.again (here :: before))
      else pure (.done (close here))
    | _ => return .done (close (← g.statement))) []

def bodyOnly (g : Grammar) : Parser Stmt := Prod.fst <$> body g

/-- What a label or a case marks, which may be nothing.  A semicolon is a statement of its own after
it. -/
def marked (g : Grammar) : Parser Stmt := do
  let token ← peek
  if token.beginsStatement && token ≠ .mark .semicolon then bodyOnly g else pure .empty

/-- An expression in parentheses. -/
def condition (g : Grammar) : Parser Expr := do
  expect .leftParen
  let e ← g.expression
  expect .rightParen
  pure e

/-- An expression that may be absent, and the mark that ends it. -/
def optionalExpression (g : Grammar) (ending : Mark) : Parser (Option Expr) := do
  if ← accept ending then pure none
  else
    let e ← g.expression
    expect ending
    pure (some e)

/-- An assertion from its keyword on. -/
def assertion (g : Grammar) : Parser Stmt := do
  advance
  expect .leftParen
  let e ← conditional g
  let message ← if ← accept .comma then some <$> strings else pure none
  expect .rightParen
  pure (.assert e message)

/-- The head and the body of a counting loop after its keyword. -/
def countingLoop (g : Grammar) : Parser Stmt := do
  expect .leftParen
  if (← peek).beginsDeclaration then
    let decls ← declaration g
    match decls with
    | .typedef .. :: _ :: _ => noteUnprintable (.lacking "Typedef" "bitsize")
    | _ => pure ()
    let test ← optionalExpression g .semicolon
    let step ← optionalExpression g .rightParen
    return .countOver decls test step (← bodyOnly g)
  else
    let init ← optionalExpression g .semicolon
    let test ← optionalExpression g .semicolon
    let step ← optionalExpression g .rightParen
    return .count init test step (← bodyOnly g)

/-- An expression as a statement, from the point where its first assignment has been read. -/
def expressionStatement (g : Grammar) (first : Expr) : Parser Stmt := do
  let e ← expressionFrom g first
  expect .semicolon
  pure (.expression e)

/-- A label, or an expression that opens with a name. -/
def labelOrExpression (g : Grammar) (name : Ident) : Parser Stmt := do
  advance
  if ← accept .colon then return .label name (← marked g)
  else expressionStatement g (← assignmentFrom g (← suffixes g (.name name)) true)

/-- A statement that opens with a keyword of its own. -/
def keywordStatement (g : Grammar) : Keyword → Parser Stmt
  | .ifWord => do
    advance
    let test ← condition g
    let (yes, isPlain) ← body g
    if isPlain && (← peek) = .keyword .elseWord then
      advance
      return .branch test yes (some (← bodyOnly g))
    else pure (.branch test yes none)
  | .switchWord => do
    advance
    let value ← condition g
    return .select value (← bodyOnly g).arranged
  | .whileWord => do
    advance
    let test ← condition g
    return .loop test (← bodyOnly g)
  | .doWord => do
    advance
    let s ← bodyOnly g
    expectToken (.keyword .whileWord)
    let test ← condition g
    expect .semicolon
    pure (.loopAfter s test)
  | .forWord => do
    advance
    countingLoop g
  | .caseWord => do
    advance
    let value ← conditional g
    expect .colon
    return .case value [← marked g]
  | .defaultWord => do
    advance
    expect .colon
    return .otherwise [← marked g]
  | .gotoWord => do
    advance
    let name ← plainName
    expect .semicolon
    pure (.jump name)
  | .breakWord => do
    advance
    expect .semicolon
    pure .leave
  | .continueWord => do
    advance
    expect .semicolon
    pure .again
  | .returnWord => do
    advance
    return .result (← optionalExpression g .semicolon)
  | .pragma => Stmt.pragma <$> innerPragma
  | .staticAssert => assertion g
  | _ => do expressionStatement g (← assignment g)

def statement (g : Grammar) : Parser Stmt := do
  match ← peek with
  | .mark .leftBrace =>
    advance
    return .compound (← g.block)
  | .mark .semicolon =>
    advance
    pure .empty
  | .pragma => Stmt.pragma <$> innerPragma
  | .keyword word => keywordStatement g word
  | .ident name => labelOrExpression g name
  | _ => expressionStatement g (← assignment g)

/-- Declarations and statements up to and with the closing brace. -/
def block (g : Grammar) : Parser (List Stmt) :=
  repeat_ (fun (before : List Stmt) => do
    if ← accept .rightBrace then pure (.done before.reverse)
    else if (← peek).beginsDeclaration then
      let decls ← declaration g
      pure (.again ((decls.map Stmt.declaration).reverse ++ before))
    else return .again ((← g.statement) :: before)) []

end Parser

/-! ## The circle closed -/

/-- The grammar of texts that nest at most `depth` deep. -/
def Grammar.ofDepth : Nat → Grammar
  | 0 => .exhausted
  | depth + 1 =>
    { expression := fun s => Parser.expression (.ofDepth depth) s
      assignment := fun s => Parser.assignment (.ofDepth depth) s
      conditional := fun s => Parser.conditional (.ofDepth depth) s
      cast := fun s => (Prod.fst <$> Parser.castOrUnary (.ofDepth depth)) s
      unary := fun s => Parser.unary (.ofDepth depth) s
      typeName := fun s => Parser.typeName (.ofDepth depth) s
      items := fun s => Parser.items (.ofDepth depth) s
      members := fun s => Parser.members (.ofDepth depth) s
      parameters := fun s => Parser.parameters (.ofDepth depth) s
      statement := fun s => Parser.statement (.ofDepth depth) s
      block := fun s => Parser.block (.ofDepth depth) s }

end HeaderBindings.C
