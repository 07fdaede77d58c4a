/-
  The state of a reading: the scanner, one token ahead of it, and nothing else that is not read off
  the text.  Every token but the first is read as soon as the one before it is taken, so a name
  declared before a token is taken counts for the next token and not for this one.

  The parser built on it reads the grammar of pycparser 2.23, by descent where that one has tables.
-/
import HeaderBindings.C.Scanner
import HeaderBindings.C.Tree

namespace HeaderBindings.C

structure State where
  scanner : Scanner
  lookahead : Lexeme
  /-- One more than the number of characters of the text. -/
  bound : Nat
  /-- The first construct read so far that has no printed form. -/
  unprintable : Option Fault := none

/-- A step of the reading, which may fail. -/
abbrev Parser := StateT State (Except Fault)

namespace Parser

def fail {α : Type} (fault : Fault) : Parser α := fun _ => .error fault

def complain {α : Type} (whereabouts : Whereabouts) (what : Complaint) : Parser α :=
  fail (.complaint whereabouts what)

/-- The token ahead. -/
def peek : Parser Token := fun s => .ok (s.lookahead.token, s)

/-- Takes the token ahead and reads the next one. -/
def advance : Parser Unit := fun s => do
  let (lexeme, scanner) ← s.scanner.next s.bound
  .ok ((), { s with scanner := scanner, lookahead := lexeme })

/-- A line and a column in the file that is current now. -/
def placeAt (line column : Nat) : Parser Place := fun s =>
  .ok (⟨s.scanner.file, line, column⟩, s)

/-- The place of the token ahead. -/
def here : Parser Place := fun s =>
  .ok (⟨s.scanner.file, s.lookahead.line, s.lookahead.column⟩, s)

/-- Takes the token ahead and gives its place, in the file that is current afterwards. -/
def take : Parser Place := do
  let start ← here
  advance
  placeAt start.line start.column

/-- The token ahead continues nothing that is valid. -/
def unexpected {α : Type} : Parser α := do
  let place ← here
  match ← peek with
  | .endOfText => fail (.endOfInput place.file)
  | token => complain (.place place) (.unexpected token.text)

/-- Stops at the token ahead unless it is one of those that may follow. -/
def require (allowed : Token → Bool) : Parser Unit := do
  if allowed (← peek) then pure () else unexpected

/-- Takes the given token. -/
def expectToken (token : Token) : Parser Unit := do
  if (← peek) = token then advance else unexpected

def expect (m : Mark) : Parser Unit := expectToken (.mark m)

/-- Takes the given mark if it is ahead, and tells whether it was. -/
def accept (m : Mark) : Parser Bool := do
  if (← peek) = .mark m then
    advance
    pure true
  else pure false

/-! ## Repetition -/

/-- What a round of a repetition leads to. -/
inductive Round (α β : Type) where
  | again (state : α)
  | done (result : β)

/-- Rounds until one is done, at most `n`. -/
def rounds {α β : Type} (round : α → Parser (Round α β)) : Nat → α → Parser β
  | 0, _ => fail .depth
  | n + 1, a => do
    match ← round a with
    | .again next => rounds round n next
    | .done result => pure result

/-- Rounds until one is done.  Each has to take a token, so the length of the text bounds them. -/
def repeat_ {α β : Type} (round : α → Parser (Round α β)) (start : α) : Parser β := do
  rounds round (← get).bound start

/-- One or more items with commas between them. -/
def commaList {α : Type} (item : Parser α) : Parser (List α) := do
  let first ← item
  let rest ← repeat_ (fun (items : List α) => do
    if ← accept .comma then pure (.again ((← item) :: items)) else pure (.done items.reverse)) []
  pure (first :: rest)

/-! ## Names -/

/-- The name stands for a type in the scopes that are open now. -/
def isType (name : Ident) : Parser Bool := fun s => .ok (s.scanner.scopes.isType name, s)

/-- Declares a name in the innermost scope, which must not hold it as the other sort. -/
def declare (name : Ident) (asType : Bool) (whereabouts : Whereabouts) : Parser Unit := fun s =>
  if s.scanner.scopes.here? name = some !asType then
    .error (.complaint whereabouts (if asType then .typedefAfterName name.text
      else .nameAfterTypedef name.text))
  else
    let scopes := s.scanner.scopes.declare name asType
    .ok ((), { s with scanner := { s.scanner with scopes := scopes } })

/-! ## Constructs without a printed form -/

def noteUnprintable (fault : Fault) : Parser Unit :=
  modify fun s => { s with unprintable := s.unprintable.orElse fun _ => some fault }

/-- A reading whose result is never printed. -/
def unprinted {α : Type} (reading : Parser α) : Parser α := do
  let before := (← get).unprintable
  let result ← reading
  modify fun s => { s with unprintable := before }
  pure result

end Parser

/-! ## The grammar as a whole -/

/-- The readings that call each other in a circle.  Each is used only after a token has been taken, so
that the number of tokens bounds their nesting. -/
structure Grammar where
  expression : Parser Expr
  assignment : Parser Expr
  conditional : Parser Expr
  cast : Parser Expr
  unary : Parser Expr
  /-- A type name in parentheses, without them. -/
  typeName : Parser TypeTree
  /-- The items of an initializer after its opening brace, with the closing one. -/
  items : Parser (List Item)
  /-- The members of a record after their opening brace, with the closing one. -/
  members : Parser (List Member)
  /-- The parameters of a function after the opening parenthesis, without the closing one. -/
  parameters : Parser (List Param)
  statement : Parser Stmt
  /-- A block after its opening brace, with the closing one. -/
  block : Parser (List Stmt)

/-- The grammar of texts without nesting left. -/
def Grammar.exhausted : Grammar :=
  { expression := .fail .depth, assignment := .fail .depth, conditional := .fail .depth
    cast := .fail .depth, unary := .fail .depth, typeName := .fail .depth, items := .fail .depth
    members := .fail .depth, parameters := .fail .depth, statement := .fail .depth
    block := .fail .depth }

end HeaderBindings.C
