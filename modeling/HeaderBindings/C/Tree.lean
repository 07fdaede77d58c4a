/-
  Syntax trees of C declarations, with the expressions and statements that can stand inside them.

  A type is a tree of layers: pointers, arrays and functions from the declared name outward, then a
  `declared` layer with the name and its qualifiers, then the base.  What has a tree of its own is
  settled by pycparser 2.23.
-/
import HeaderBindings.C.Fault
import HeaderBindings.C.Token

namespace HeaderBindings.C

/-- Operators of one operand; the first two may also follow it. -/
inductive UnaryOp where
  | increment | decrement | address | dereference | plus | minus | complement | negation
  deriving DecidableEq, Repr

def UnaryOp.text : UnaryOp → String
  | increment => "++"
  | decrement => "--"
  | address => "&"
  | dereference => "*"
  | plus => "+"
  | minus => "-"
  | complement => "~"
  | negation => "!"

/-- A word of a base type: a keyword or a typedef name. -/
inductive BaseWord where
  | keyword (word : TypeWord)
  | typedefName (name : Ident)
  deriving DecidableEq, Repr

def BaseWord.text : BaseWord → String
  | keyword word => word.text
  | typedefName name => name.text

/-- A word between the brackets of an array. -/
inductive BoundWord where
  | qualifier (word : Qualifier)
  | static
  deriving DecidableEq, Repr

def BoundWord.text : BoundWord → String
  | qualifier word => word.text
  | static => "static"

mutual

inductive Expr where
  | constant (text : String)
  | name (name : Ident)
  | index (base position : Expr)
  | member (base : Expr) (isArrow : Bool) (field : Ident)
  | call (function : Expr) (arguments : List Expr)
  | offset (type : TypeTree) (path : Expr)
  | unary (op : UnaryOp) (operand : Expr)
  | postfix_ (op : UnaryOp) (operand : Expr)
  | sizeofExpr (operand : Expr)
  | sizeofType (type : TypeTree)
  | alignof (type : TypeTree)
  | binary (op : BinaryOp) (left right : Expr)
  | assign (op : AssignOp) (left right : Expr)
  | choice (condition yes no : Expr)
  | cast (type : TypeTree) (operand : Expr)
  | compound (type : TypeTree) (items : List Item)
  | sequence (members : List Expr)
  /-- An initializer in braces. -/
  | braces (items : List Item)
  /-- A block in parentheses, whose value is that of its last statement. -/
  | block (body : List Stmt)

/-- A designator of an initializer. -/
inductive Designator where
  | field (name : Ident)
  | position (index : Expr)

/-- An item of an initializer in braces. -/
inductive Item where
  | item (designators : List Designator) (value : Expr)

inductive TypeTree where
  | pointer (qualifiers : List Qualifier) (target : TypeTree)
  | array (words : List BoundWord) (bound : Bound) (element : TypeTree)
  | function (parameters : List Param) (result : TypeTree)
  | declared (name : Option Ident) (qualifiers : List Qualifier) (base : TypeTree)
  | words (words : List BaseWord)
  | record (isUnion : Bool) (tag : Option Ident) (members : List Member)
  | recordRef (isUnion : Bool) (tag : Ident)
  | enumeration (tag : Option Ident) (enumerators : List Enumerator)
  | enumerationRef (tag : Ident)
  /-- A type name in place of a base, as an atomic type has it. -/
  | named (type : TypeTree)

/-- The size of an array: absent, a star, or an expression.  `leadingStar` is a star in brackets that
nothing stands before, which is shown as a closing bracket. -/
inductive Bound where
  | none
  | star
  | leadingStar
  | size (value : Expr)

/-- A declaration of one name, or of none. -/
inductive Decl where
  | decl (name : Option Ident) (storage : List Storage) (functionWords : List FunctionWord)
      (alignments : List Alignment) (type : TypeTree) (bits : Option Expr) (init : Option Expr)
      (place : Option Place)
  | typedef (name : Option Ident) (storage : List Storage) (type : TypeTree) (place : Option Place)

inductive Alignment where
  | type (type : TypeTree)
  | value (value : Expr)

inductive Param where
  | declared (decl : Decl)
  | unnamed (type : TypeTree) (place : Place)
  /-- A bare name, whose type is given elsewhere or nowhere. -/
  | bare (name : Ident)
  | ellipsis

inductive Member where
  | field (decl : Decl)
  | pragma (text : String)

inductive Enumerator where
  | mk (name : Ident) (value : Option Expr)

inductive Stmt where
  | expression (value : Expr)
  | declaration (decl : Decl)
  | empty
  | compound (body : List Stmt)
  | branch (condition : Expr) (yes : Stmt) (no : Option Stmt)
  | loop (condition : Expr) (body : Stmt)
  | loopAfter (body : Stmt) (condition : Expr)
  | count (init condition step : Option Expr) (body : Stmt)
  | countOver (decls : List Decl) (condition step : Option Expr) (body : Stmt)
  | select (value : Expr) (body : Stmt)
  | case (value : Expr) (body : List Stmt)
  | otherwise (body : List Stmt)
  | label (name : Ident) (body : Stmt)
  | jump (name : Ident)
  | leave
  | again
  | result (value : Option Expr)
  | pragma (text : String)
  | assert (condition : Expr) (message : Option String)

end

/-- What stands at the top level of a text.  Pragmas and assertions declare nothing. -/
inductive External where
  | declaration (decl : Decl)
  | definition (decl : Decl) (body : List Stmt) (place : Option Place)
  | silent

instance : Inhabited Expr := ⟨.constant ""⟩
instance : Inhabited TypeTree := ⟨.words []⟩
instance : Inhabited Stmt := ⟨.empty⟩

namespace Decl

def name? : Decl → Option Ident
  | decl name .. | typedef name .. => name

def type : Decl → TypeTree
  | decl _ _ _ _ type .. | typedef _ _ type _ => type

def storage : Decl → List Storage
  | decl _ storage .. | typedef _ storage .. => storage

def place : Decl → Option Place
  | decl _ _ _ _ _ _ _ place | typedef _ _ _ place => place

end Decl

end HeaderBindings.C
