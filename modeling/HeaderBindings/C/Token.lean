/-
  Tokens of C, by the part they play in the grammar.  A typedef name is told from an ordinary
  identifier when it is read, so the two are different tokens.
-/
import HeaderBindings.C.Ident

namespace HeaderBindings.C

/-! ## Words -/

inductive Qualifier where
  | const | restrict | volatile | atomic
  deriving DecidableEq, Repr

def Qualifier.text : Qualifier → String
  | const => "const"
  | restrict => "restrict"
  | volatile => "volatile"
  | atomic => "_Atomic"

inductive Storage where
  | auto | register | static | external | typedef | threadLocal
  deriving DecidableEq, Repr

def Storage.text : Storage → String
  | auto => "auto"
  | register => "register"
  | static => "static"
  | external => "extern"
  | typedef => "typedef"
  | threadLocal => "_Thread_local"

inductive FunctionWord where
  | inline | noreturn
  deriving DecidableEq, Repr

def FunctionWord.text : FunctionWord → String
  | inline => "inline"
  | noreturn => "_Noreturn"

/-- A keyword that names a type or its sign. -/
inductive TypeWord where
  | void | bool | char | short | int | long | float | double | complex | signed | unsigned | int128
  deriving DecidableEq, Repr

def TypeWord.text : TypeWord → String
  | void => "void"
  | bool => "_Bool"
  | char => "char"
  | short => "short"
  | int => "int"
  | long => "long"
  | float => "float"
  | double => "double"
  | complex => "_Complex"
  | signed => "signed"
  | unsigned => "unsigned"
  | int128 => "__int128"

/-- The remaining keywords. -/
inductive Keyword where
  | structWord | unionWord | enumWord
  | sizeof | alignof | alignas | offsetof | staticAssert | pragma
  | ifWord | elseWord | switchWord | caseWord | defaultWord | forWord | whileWord | doWord
  | gotoWord | breakWord | continueWord | returnWord
  deriving DecidableEq, Repr

def Keyword.text : Keyword → String
  | structWord => "struct"
  | unionWord => "union"
  | enumWord => "enum"
  | sizeof => "sizeof"
  | alignof => "_Alignof"
  | alignas => "_Alignas"
  | offsetof => "offsetof"
  | staticAssert => "_Static_assert"
  | pragma => "_Pragma"
  | ifWord => "if"
  | elseWord => "else"
  | switchWord => "switch"
  | caseWord => "case"
  | defaultWord => "default"
  | forWord => "for"
  | whileWord => "while"
  | doWord => "do"
  | gotoWord => "goto"
  | breakWord => "break"
  | continueWord => "continue"
  | returnWord => "return"

/-! ## Operators and delimiters -/

/-- Operators of two operands, without assignments and the comma. -/
inductive BinaryOp where
  | times | divide | modulo | plus | minus | shiftLeft | shiftRight
  | less | lessEqual | greater | greaterEqual | equal | notEqual
  | bitAnd | bitXor | bitOr | logicalAnd | logicalOr
  deriving DecidableEq, Repr

namespace BinaryOp

def text : BinaryOp → String
  | times => "*"
  | divide => "/"
  | modulo => "%"
  | plus => "+"
  | minus => "-"
  | shiftLeft => "<<"
  | shiftRight => ">>"
  | less => "<"
  | lessEqual => "<="
  | greater => ">"
  | greaterEqual => ">="
  | equal => "=="
  | notEqual => "!="
  | bitAnd => "&"
  | bitXor => "^"
  | bitOr => "|"
  | logicalAnd => "&&"
  | logicalOr => "||"

/-- How tightly an operator binds; the product binds tightest. -/
def strength : BinaryOp → Nat
  | times | divide | modulo => 10
  | plus | minus => 9
  | shiftLeft | shiftRight => 8
  | less | lessEqual | greater | greaterEqual => 7
  | equal | notEqual => 6
  | bitAnd => 5
  | bitXor => 4
  | bitOr => 3
  | logicalAnd => 2
  | logicalOr => 1

end BinaryOp

/-- The assignment that goes with an operator, or the plain one. -/
abbrev AssignOp := Option BinaryOp

def AssignOp.text (op : AssignOp) : String := (op.elim "" BinaryOp.text) ++ "="

/-- Marks that are not operators of two operands. -/
inductive Mark where
  | leftParen | rightParen | leftBracket | rightBracket | leftBrace | rightBrace
  | comma | semicolon | colon | question | period | arrow | ellipsis
  | complement | negation | increment | decrement
  deriving DecidableEq, Repr

def Mark.text : Mark → String
  | leftParen => "("
  | rightParen => ")"
  | leftBracket => "["
  | rightBracket => "]"
  | leftBrace => "\x7b"
  | rightBrace => "\x7d"
  | comma => ","
  | semicolon => ";"
  | colon => ":"
  | question => "?"
  | period => "."
  | arrow => "->"
  | ellipsis => "..."
  | complement => "~"
  | negation => "!"
  | increment => "++"
  | decrement => "--"

/-! ## Tokens -/

/-- A constant or string keeps the text it is written with.  `characters` is a constant of several
characters, and a string is wide if it has a letter in front. -/
inductive Token where
  | ident (name : Ident)
  | typeName (name : Ident)
  | typeWord (word : TypeWord)
  | qualifier (word : Qualifier)
  | storage (word : Storage)
  | functionWord (word : FunctionWord)
  | keyword (word : Keyword)
  | binary (op : BinaryOp)
  | assign (op : AssignOp)
  | mark (m : Mark)
  | constant (text : String)
  | characters (text : String)
  | string (text : String)
  | wideString (text : String)
  | hash
  | pragma
  | pragmaText (text : String)
  | endOfText
  deriving DecidableEq, Repr

namespace Token

/-- The token as it is written. -/
def text : Token → String
  | ident name | typeName name => name.text
  | typeWord word => word.text
  | qualifier word => word.text
  | storage word => word.text
  | functionWord word => word.text
  | keyword word => word.text
  | binary op => op.text
  | assign op => AssignOp.text op
  | mark m => m.text
  | constant text | characters text | string text | wideString text | pragmaText text => text
  | hash => "#"
  | pragma => "pragma"
  | endOfText => ""

/-- The words of the language, `restrict` and the like included. -/
def words : List Token :=
  [.const, .restrict, .volatile, .atomic].map qualifier
  ++ [.auto, .register, .static, .external, .typedef, .threadLocal].map storage
  ++ [.inline, .noreturn].map functionWord
  ++ [.void, .bool, .char, .short, .int, .long, .float, .double, .complex, .signed, .unsigned,
    .int128].map typeWord
  ++ [.structWord, .unionWord, .enumWord, .sizeof, .alignof, .alignas, .offsetof, .staticAssert,
    .pragma, .ifWord, .elseWord, .switchWord, .caseWord, .defaultWord, .forWord, .whileWord,
    .doWord, .gotoWord, .breakWord, .continueWord, .returnWord].map keyword

/-- The word with this spelling. -/
def word? (spelling : String) : Option Token := words.find? (·.text = spelling)

/-! ## What a token can begin -/

/-- The token can begin a list of specifiers and qualifiers, and so a type name. -/
def beginsType : Token → Bool
  | typeName _ | typeWord _ | qualifier _ => true
  | keyword .structWord | keyword .unionWord | keyword .enumWord | keyword .alignas => true
  | _ => false

/-- The token can begin a declaration. -/
def beginsDeclaration : Token → Bool
  | storage _ | functionWord _ => true
  | t => t.beginsType

/-- The token can begin a member of a record. -/
def beginsMember : Token → Bool
  | mark .semicolon | pragma | keyword .pragma => true
  | t => t.beginsType

/-- The token can begin what stands at the top level of a text. -/
def beginsExternal : Token → Bool
  | ident _ | mark .leftParen | binary .times | mark .semicolon => true
  | hash | pragma | keyword .pragma | keyword .staticAssert => true
  | t => t.beginsDeclaration

/-- The token can begin an expression. -/
def beginsExpression : Token → Bool
  | ident _ | constant _ | characters _ | string _ | wideString _ => true
  | mark .leftParen | mark .increment | mark .decrement | mark .complement | mark .negation => true
  | binary .bitAnd | binary .times | binary .plus | binary .minus => true
  | keyword .sizeof | keyword .alignof | keyword .offsetof => true
  | _ => false

/-- The token can begin a statement. -/
def beginsStatement : Token → Bool
  | mark .semicolon | mark .leftBrace | pragma => true
  | keyword word => match word with
    | .structWord | .unionWord | .enumWord | .alignas | .elseWord => false
    | _ => true
  | t => t.beginsExpression

end Token

end HeaderBindings.C
