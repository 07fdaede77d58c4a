/-
  Expressions, read by descent in the grammar of pycparser 2.23.  Only the binary operators are read
  as a flat list and grouped by strength afterwards (`group`).
-/
import HeaderBindings.C.Parser.State

namespace HeaderBindings.C.Parser

/-! ## Binary operators -/

/-- Groups the operators of one strength from the left, and keeps the others in the list. -/
def groupLevel (strength : Nat) (left : Expr) :
    List (BinaryOp × Expr) → Expr × List (BinaryOp × Expr)
  | [] => (left, [])
  | (op, e) :: rest =>
    if op.strength = strength then groupLevel strength (.binary op left e) rest
    else
      let (first, others) := groupLevel strength e rest
      (left, (op, first) :: others)

/-- Operands with the operators between them as one expression, the strongest grouped first. -/
def group (left : Expr) (tail : List (BinaryOp × Expr)) : Expr :=
  ([10, 9, 8, 7, 6, 5, 4, 3, 2, 1].foldl (fun (e, ops) strength => groupLevel strength e ops)
    (left, tail)).1

/-! ## Primaries -/

/-- Adjacent strings of one kind are one.  The closing quote of a string goes when another follows, and
of that one the first `dropped` characters. -/
def adjacent (piece? : Token → Option String) (dropped : Nat) : Parser String := do
  match piece? (← peek) with
  | none => unexpected
  | some first =>
    advance
    repeat_ (fun text => do
      match piece? (← peek) with
      | none => pure (.done text)
      | some more =>
        advance
        pure (.again (String.ofList (text.toList.dropLast ++ more.toList.drop dropped)))) first

def strings : Parser String :=
  adjacent (fun
    | .string text => some text
    | _ => none) 1

/-- Of a wide string that continues another, two characters are dropped whatever its prefix is. -/
def wideStrings : Parser String :=
  adjacent (fun
    | .wideString text => some text
    | _ => none) 2

/-- The token can follow a constant. -/
def followsConstant : Token → Bool
  | .binary _ | .assign _ => true
  | .mark m => match m with
    | .leftBrace | .ellipsis | .complement | .negation => false
    | _ => true
  | _ => false

/-- The last three characters of a constant hold the unsigned mark twice. -/
def hasRepeatedSuffix (text : String) : Bool :=
  1 < (text.toList.reverse.take 3).countP fun c => c == 'u' || c == 'U'

/-- The arguments of a call after its opening parenthesis, with the closing one. -/
def arguments (g : Grammar) : Parser (List Expr) := do
  if ← accept .rightParen then pure []
  else
    let members ← commaList g.assignment
    expect .rightParen
    pure members

/-- The name of a member, which may be that of a type. -/
def memberName : Parser Ident := do
  match ← peek with
  | .ident name | .typeName name =>
    advance
    pure name
  | _ => unexpected

/-- What may follow an expression without an operand of its own: elements, calls, members and the
steps up and down. -/
def suffixes (g : Grammar) : Expr → Parser Expr :=
  repeat_ fun e => do
    match ← peek with
    | .mark .leftBracket =>
      advance
      let position ← g.expression
      expect .rightBracket
      pure (.again (.index e position))
    | .mark .leftParen =>
      advance
      pure (.again (.call e (← arguments g)))
    | .mark .period =>
      advance
      pure (.again (.member e false (← memberName)))
    | .mark .arrow =>
      advance
      pure (.again (.member e true (← memberName)))
    | .mark .increment =>
      advance
      pure (.again (.postfix_ .increment e))
    | .mark .decrement =>
      advance
      pure (.again (.postfix_ .decrement e))
    | _ => pure (.done e)

/-- A name that does not stand for a type. -/
def plainName : Parser Ident := do
  match ← peek with
  | .ident name =>
    advance
    pure name
  | _ => unexpected

/-- The path to a member, as the offset of a member asks for it. -/
def memberPath (g : Grammar) : Parser Expr := do
  let first ← plainName
  repeat_ (fun e => do
    match ← peek with
    | .mark .period =>
      advance
      pure (.again (.member e false (← plainName)))
    | .mark .leftBracket =>
      advance
      let position ← g.expression
      expect .rightBracket
      pure (.again (.index e position))
    | _ => pure (.done e)) (.name first)

/-- A primary expression that does not open with a parenthesis. -/
def primary (g : Grammar) : Parser Expr := do
  match ← peek with
  | .ident name =>
    advance
    pure (.name name)
  | .constant text =>
    advance
    pure (.constant text)
  | .characters text =>
    advance
    if hasRepeatedSuffix text && followsConstant (← peek) then fail .repeatedSuffix
    else pure (.constant text)
  | .string _ => return .constant (← strings)
  | .wideString _ => return .constant (← wideStrings)
  | .keyword .offsetof =>
    advance
    expect .leftParen
    let type ← g.typeName
    expect .comma
    let path ← memberPath g
    expect .rightParen
    pure (.offset type path)
  | _ => unexpected

/-! ## Unary expressions and casts -/

/-- A literal of the type, from its opening brace, with what may follow it. -/
def compoundLiteral (g : Grammar) (type : TypeTree) : Parser Expr := do
  expect .leftBrace
  let items ← g.items
  suffixes g (.compound type items)

/-- The type name in parentheses whose opening one has been taken. -/
def typeInParens (g : Grammar) : Parser TypeTree := do
  let type ← g.typeName
  expect .rightParen
  pure type

/-- An expression in parentheses whose opening one has been taken, with what may follow it. -/
def inParens (g : Grammar) : Parser Expr := do
  let e ← g.expression
  expect .rightParen
  suffixes g e

/-- The operator of one operand that a token stands for in front of a cast. -/
def unaryOp? : Token → Option UnaryOp
  | .binary .bitAnd => some .address
  | .binary .times => some .dereference
  | .binary .plus => some .plus
  | .binary .minus => some .minus
  | .mark .complement => some .complement
  | .mark .negation => some .negation
  | _ => none

/-- The size of a type or of an expression, after the keyword. -/
def sizeofRest (g : Grammar) : Parser Expr := do
  if ← accept .leftParen then
    if (← peek).beginsType then
      let type ← typeInParens g
      if (← peek) = .mark .leftBrace then return .sizeofExpr (← compoundLiteral g type)
      else pure (.sizeofType type)
    else return .sizeofExpr (← inParens g)
  else return .sizeofExpr (← g.unary)

/-- A unary expression that does not open with a parenthesis. -/
def unaryOpen (g : Grammar) : Parser Expr := do
  match ← peek with
  | .mark .increment =>
    advance
    return .unary .increment (← g.unary)
  | .mark .decrement =>
    advance
    return .unary .decrement (← g.unary)
  | .keyword .sizeof =>
    advance
    sizeofRest g
  | .keyword .alignof =>
    advance
    expect .leftParen
    return .alignof (← typeInParens g)
  | token =>
    match unaryOp? token with
    | some op =>
      advance
      return .unary op (← g.cast)
    | none => suffixes g (← primary g)

def unary (g : Grammar) : Parser Expr := do
  if ← accept .leftParen then
    if (← peek).beginsType then compoundLiteral g (← typeInParens g) else inParens g
  else unaryOpen g

/-- A cast or an expression whose opening parenthesis has been taken; the flag tells whether it is
unary, and so can be assigned to. -/
def castInParens (g : Grammar) : Parser (Expr × Bool) := do
  if (← peek).beginsType then
    let type ← typeInParens g
    if (← peek) = .mark .leftBrace then return (← compoundLiteral g type, true)
    else return (.cast type (← g.cast), false)
  else return (← inParens g, true)

def castOrUnary (g : Grammar) : Parser (Expr × Bool) := do
  if ← accept .leftParen then castInParens g else return (← unaryOpen g, true)

/-! ## Conditions, assignments and sequences -/

/-- The rest of a conditional expression after its first operand. -/
def conditionalFrom (g : Grammar) (first : Expr) : Parser Expr := do
  let tail ← repeat_ (fun (tail : List (BinaryOp × Expr)) => do
    match ← peek with
    | .binary op =>
      advance
      pure (.again ((op, ← g.cast) :: tail))
    | _ => pure (.done tail.reverse)) []
  let condition := group first tail
  if ← accept .question then
    let yes ← g.expression
    expect .colon
    return .choice condition yes (← g.conditional)
  else pure condition

/-- A conditional expression, which is also what a constant has to be. -/
def conditional (g : Grammar) : Parser Expr := do
  conditionalFrom g (← castOrUnary g).1

/-- The rest of an assignment after its first operand, which is assigned to only if it is unary. -/
def assignmentFrom (g : Grammar) (first : Expr) (isUnary : Bool) : Parser Expr := do
  match ← peek with
  | .assign op =>
    if isUnary then
      advance
      return .assign op first (← g.assignment)
    else unexpected
  | _ => conditionalFrom g first

/-- An assignment, or a block in parentheses in its place. -/
def assignment (g : Grammar) : Parser Expr := do
  if ← accept .leftParen then
    if ← accept .leftBrace then
      let body ← g.block
      expect .rightParen
      pure (.block body)
    else
      let (first, isUnary) ← castInParens g
      assignmentFrom g first isUnary
  else assignmentFrom g (← unaryOpen g) true

/-- The rest of a sequence after its first member; a first member that is a sequence is continued. -/
def expressionFrom (g : Grammar) (first : Expr) : Parser Expr := do
  let rest ← repeat_ (fun (rest : List Expr) => do
    if ← accept .comma then pure (.again ((← assignment g) :: rest))
    else pure (.done rest.reverse)) []
  match rest, first with
  | [], _ => pure first
  | _, .sequence members => pure (.sequence (members ++ rest))
  | _, _ => pure (.sequence (first :: rest))

def expression (g : Grammar) : Parser Expr := do
  expressionFrom g (← assignment g)

/-! ## Initializers -/

def initializer (g : Grammar) : Parser Expr := do
  if ← accept .leftBrace then
    if ← accept .rightBrace then pure (.braces []) else return .braces (← g.items)
  else assignment g

/-- The designators of an item, with the sign that ends them; none if the item has none. -/
def designators (g : Grammar) : Parser (List Designator) :=
  repeat_ (fun (before : List Designator) => do
    match ← peek with
    | .mark .period =>
      advance
      pure (.again (.field (← plainName) :: before))
    | .mark .leftBracket =>
      advance
      let index ← conditional g
      expect .rightBracket
      pure (.again (.position index :: before))
    | _ =>
      if before.isEmpty then pure (.done [])
      else
        expectToken (.assign none)
        pure (.done before.reverse)) []

/-- The items of an initializer up to and with its closing brace; a comma may precede it. -/
def items (g : Grammar) : Parser (List Item) :=
  repeat_ (fun (before : List Item) => do
    let marks ← designators g
    let here := Item.item marks (← initializer g) :: before
    if ← accept .comma then
      if ← accept .rightBrace then pure (.done here.reverse) else pure (.again here)
    else
      expect .rightBrace
      pure (.done here.reverse)) []

end HeaderBindings.C.Parser
