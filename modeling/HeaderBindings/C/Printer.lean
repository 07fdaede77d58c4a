/-
  Trees as C text.  A declarator is written from the declared name outward, with parentheses only
  where a pointer is applied before an array or a function; an operand has parentheses unless it is
  a constant, a name, an element, a member or a call.  Bodies in braces are laid out on lines of
  their own, two columns further in; `Decl.line` puts a declaration on one line.

  The layout is that of the generator of pycparser 2.23.
-/
import HeaderBindings.C.Tree
import HeaderBindings.Text.Blank

namespace HeaderBindings.C

/-- Texts with `between` between them. -/
def joined (between : String) (texts : List String) : String := between.intercalate texts

/-- Words, each with a blank after it. -/
def spaced (words : List String) : String := String.join (words.map (· ++ " "))

/-- The blanks at the start of a line. -/
def indent (n : Nat) : String := String.ofList (List.replicate n ' ')

def pragmaLine (text : String) : String := if text = "" then "#pragma" else "#pragma " ++ text

namespace Expr

/-- Sequences and blocks stand in parentheses inside another expression, initializers in braces. -/
def enclose (e : Expr) (text : String) : String :=
  match e with
  | .braces _ => "\x7b" ++ text ++ "\x7d"
  | .sequence _ | .block _ => "(" ++ text ++ ")"
  | _ => text

def isSimple : Expr → Bool
  | .constant _ | .name _ | .index .. | .member .. | .call .. | .offset .. => true
  | _ => false

/-- The text of an expression as an operand. -/
def operand (e : Expr) (text : String) : String :=
  if e.isSimple then e.enclose text else "(" ++ e.enclose text ++ ")"

/-- The right side of an assignment, in parentheses if it is itself one. -/
def assigned (e : Expr) (text : String) : String :=
  match e with
  | .assign .. => "(" ++ text ++ ")"
  | _ => e.enclose text

/-- An expression as a statement on a line that starts with `lead`.  A block is a statement as it is,
and a literal of a type gets no semicolon. -/
def asStatement (e : Expr) (lead text : String) : String :=
  match e with
  | .block _ => text
  | .compound .. => lead ++ text ++ "\n"
  | _ => lead ++ text ++ ";\n"

end Expr

namespace TypeTree

/-- The declared name, below the layers of the declarator. -/
def name? : TypeTree → Option Ident
  | pointer _ target => target.name?
  | array _ _ element => element.name?
  | function _ result => result.name?
  | declared name _ _ => name
  | _ => none

end TypeTree

/-- What a type's text is written around: nothing where the type is a base, else the declarator so
far, and whether its last step was a pointer. -/
inductive Around where
  | base
  | declarator (afterPointer : Bool) (text : String)

namespace Around

def text : Around → String
  | base => ""
  | declarator _ text => text

/-- The declarator, in parentheses if a pointer was applied to it last. -/
def grouped : Around → String
  | declarator true text => "(" ++ text ++ ")"
  | around => around.text

/-- What separates a base from a declarator that is missing. -/
def gap : Around → String
  | base => ""
  | declarator .. => " "

/-- The declarator with a pointer applied to it. -/
def addPointer (qualifiers : List Qualifier) (around : Around) : Around :=
  .declarator true (
    if qualifiers.isEmpty then "*" ++ around.text
    else
      "* " ++ joined " " (qualifiers.map Qualifier.text)
        ++ (if around.text = "" then "" else " " ++ around.text))

/-- The declarator with brackets after it. -/
def addArray (marks : List BoundWord) (bound : String) (around : Around) : Around :=
  .declarator false
    (around.grouped ++ "[" ++ spaced (marks.map BoundWord.text) ++ bound ++ "]")

/-- The declarator with parameters after it. -/
def addParameters (parameters : List String) (around : Around) : Around :=
  .declarator false (around.grouped ++ "(" ++ joined ", " parameters ++ ")")

end Around

/-- The declared name as the start of a declarator. -/
def TypeTree.nameAround (t : TypeTree) : Around := .declarator false (t.name?.elim "" Ident.text)

/-- A record's keyword and tag. -/
def recordHead (isUnion : Bool) (tag : Option Ident) : String :=
  (if isUnion then "union " else "struct ") ++ tag.elim "" Ident.text

mutual

/-- The text of an expression whose first line is indented by `n`. -/
def Expr.text (n : Nat) : Expr → String
  | .constant text => text
  | .name name => name.text
  | .index base position => base.operand (base.text n) ++ "[" ++ position.text n ++ "]"
  | .member base isArrow field =>
    base.operand (base.text n) ++ (if isArrow then "->" else ".") ++ field.text
  | .call function arguments =>
    function.operand (function.text n) ++ "(" ++ joined ", " (Expr.listTexts n arguments) ++ ")"
  | .offset type path =>
    "offsetof(" ++ type.text n type.nameAround ++ ", " ++ path.enclose (path.text n) ++ ")"
  | .unary op e => op.text ++ e.operand (e.text n)
  | .postfix_ op e => e.operand (e.text n) ++ op.text
  | .sizeofExpr e => "sizeof(" ++ e.text n ++ ")"
  | .sizeofType type => "sizeof(" ++ type.text n type.nameAround ++ ")"
  | .alignof type => "_Alignof(" ++ type.text n type.nameAround ++ ")"
  | .binary op l r => l.operand (l.text n) ++ " " ++ op.text ++ " " ++ r.operand (r.text n)
  | .assign op l r => l.text n ++ " " ++ AssignOp.text op ++ " " ++ r.assigned (r.text n)
  | .choice condition yes no =>
    "(" ++ condition.enclose (condition.text n) ++ ") ? (" ++ yes.enclose (yes.text n) ++ ") : ("
      ++ no.enclose (no.text n) ++ ")"
  | .cast type e => "(" ++ type.text n (.declarator false "") ++ ") " ++ e.operand (e.text n)
  | .compound type items =>
    "(" ++ type.text n type.nameAround ++ ")\x7b" ++ joined ", " (Item.listTexts n items) ++ "\x7d"
  | .sequence members => joined ", " (Expr.listTexts n members)
  | .braces items => joined ", " (Item.listTexts n items)
  | .block body => indent n ++ "\x7b\n" ++ Stmt.listText (n + 2) body ++ indent n ++ "\x7d\n"

/-- The texts of the members of a sequence. -/
def Expr.listTexts (n : Nat) : List Expr → List String
  | [] => []
  | e :: es => e.enclose (e.text n) :: Expr.listTexts n es

/-- An expression that may be absent, after `lead`. -/
def Expr.optionText (n : Nat) (lead : String) : Option Expr → String
  | none => ""
  | some e => lead ++ e.text n

def Designator.text (n : Nat) : Designator → String
  | .field name => "." ++ name.text
  | .position e => "[" ++ e.text n ++ "]"

def Designator.listText (n : Nat) : List Designator → String
  | [] => ""
  | d :: ds => d.text n ++ Designator.listText n ds

def Item.text (n : Nat) : Item → String
  | .item designators value =>
    Designator.listText n designators ++ (if designators.isEmpty then "" else " = ")
      ++ value.enclose (value.text n)

def Item.listTexts (n : Nat) : List Item → List String
  | [] => []
  | i :: is => i.text n :: Item.listTexts n is

/-- The text of a type in its place.  A base made of words leaves a blank for the declarator that it
does not have. -/
def TypeTree.text (n : Nat) (around : Around) : TypeTree → String
  | .pointer qualifiers target => target.text n (around.addPointer qualifiers)
  | .array marks bound element => element.text n (around.addArray marks (bound.text n))
  | .function parameters result =>
    result.text n (around.addParameters (Param.listTexts n parameters))
  | .declared _ qualifiers base =>
    spaced (qualifiers.map Qualifier.text) ++ base.text n .base
      ++ (if around.text = "" then "" else " " ++ around.text)
  | .words words => joined " " (words.map BaseWord.text) ++ around.gap
  | .record isUnion tag members =>
    recordHead isUnion tag ++ "\n" ++ indent n ++ "\x7b\n" ++ Member.listText (n + 2) members
      ++ indent n ++ "\x7d"
  | .recordRef isUnion tag => recordHead isUnion (some tag)
  | .enumeration tag enumerators =>
    "enum " ++ tag.elim "" Ident.text ++ "\n" ++ indent n ++ "\x7b\n"
      ++ joined ",\n" (Enumerator.listTexts (n + 2) enumerators) ++ "\n" ++ indent n ++ "\x7d"
  | .enumerationRef tag => "enum " ++ tag.text
  | .named type => type.text n type.nameAround

def Bound.text (n : Nat) : Bound → String
  | .none => ""
  | .star => "*"
  | .leadingStar => "]"
  | .size value => value.text n

def Alignment.text (n : Nat) : Alignment → String
  | .type type => "_Alignas(" ++ type.text n type.nameAround ++ ")"
  | .value value => "_Alignas(" ++ value.text n ++ ")"

/-- Only the first alignment is written. -/
def Alignment.listText (n : Nat) : List Alignment → String
  | [] => ""
  | a :: _ => a.text n ++ " "

/-- A declaration without the semicolon. -/
def Decl.text (n : Nat) : Decl → String
  | .decl _ storage functionWords alignments type bits init _ =>
    spaced (functionWords.map FunctionWord.text) ++ spaced (storage.map Storage.text)
      ++ Alignment.listText n alignments ++ type.text n type.nameAround
      ++ Expr.optionText n " : " bits ++ Decl.initText n init
  | .typedef _ storage type _ =>
    spaced (storage.map Storage.text) ++ type.text n type.nameAround

def Decl.initText (n : Nat) : Option Expr → String
  | none => ""
  | some e => " = " ++ e.enclose (e.text n)

/-- Declarations without their types. -/
def Decl.tailTexts (n : Nat) : List Decl → List String
  | [] => []
  | .decl name _ _ _ _ bits init _ :: ds =>
    (name.elim "" Ident.text ++ Expr.optionText n " : " bits ++ Decl.initText n init)
      :: Decl.tailTexts n ds
  | .typedef name .. :: ds => name.elim "" Ident.text :: Decl.tailTexts n ds

/-- The declarations of a loop's head: the type is written once. -/
def Decl.headText (n : Nat) : List Decl → String
  | [] => ""
  | d :: ds => joined ", " (d.text n :: Decl.tailTexts n ds)

def Param.text (n : Nat) : Param → String
  | .declared decl => decl.text n
  | .unnamed type _ => type.text n type.nameAround
  | .bare name => name.text
  | .ellipsis => "..."

def Param.listTexts (n : Nat) : List Param → List String
  | [] => []
  | p :: ps => p.text n :: Param.listTexts n ps

def Member.listText (n : Nat) : List Member → String
  | [] => ""
  | .field decl :: ms => indent n ++ decl.text n ++ ";\n" ++ Member.listText n ms
  | .pragma text :: ms => indent n ++ pragmaLine text ++ "\n" ++ Member.listText n ms

def Enumerator.text (n : Nat) : Enumerator → String
  | .mk name value => indent n ++ name.text ++ Expr.optionText n " = " value

def Enumerator.listTexts (n : Nat) : List Enumerator → List String
  | [] => []
  | e :: es => e.text n :: Enumerator.listTexts n es

/-- A statement on lines of its own.  The first is indented by `lead`, the others by `n`. -/
def Stmt.text (lead n : Nat) : Stmt → String
  | .expression e => e.asStatement (indent lead) (e.text n)
  | .declaration decl => indent lead ++ decl.text n ++ ";\n"
  | .empty => indent lead ++ ";\n"
  | .compound body => indent n ++ "\x7b\n" ++ Stmt.listText (n + 2) body ++ indent n ++ "\x7d\n"
  | .branch condition yes no =>
    indent lead ++ "if (" ++ condition.text n ++ ")\n" ++ yes.text (n + 2) n ++ Stmt.elseText n no
  | .loop condition body =>
    indent lead ++ "while (" ++ condition.text n ++ ")\n" ++ body.text (n + 2) n ++ "\n"
  | .loopAfter body condition =>
    indent lead ++ "do\n" ++ body.text (n + 2) n ++ indent n ++ "while (" ++ condition.text n
      ++ ");\n"
  | .count init condition step body =>
    indent lead ++ "for (" ++ Expr.optionText n "" init ++ ";" ++ Expr.optionText n " " condition
      ++ ";" ++ Expr.optionText n " " step ++ ")\n" ++ body.text (n + 2) n ++ "\n"
  | .countOver decls condition step body =>
    indent lead ++ "for (" ++ Decl.headText n decls ++ ";" ++ Expr.optionText n " " condition
      ++ ";" ++ Expr.optionText n " " step ++ ")\n" ++ body.text (n + 2) n ++ "\n"
  | .select value body =>
    indent lead ++ "switch (" ++ value.text n ++ ")\n" ++ body.text (n + 2) n ++ "\n"
  | .case value body =>
    indent lead ++ "case " ++ value.text n ++ ":\n" ++ Stmt.innerText n body ++ "\n"
  | .otherwise body => indent lead ++ "default:\n" ++ Stmt.innerText n body ++ "\n"
  | .label name body => indent lead ++ name.text ++ ":\n" ++ body.text n n ++ "\n"
  | .jump name => indent lead ++ "goto " ++ name.text ++ ";\n"
  | .leave => indent lead ++ "break;\n"
  | .again => indent lead ++ "continue;\n"
  | .result value => indent lead ++ "return" ++ Expr.optionText n " " value ++ ";\n"
  | .pragma text => indent lead ++ pragmaLine text ++ "\n"
  | .assert condition message =>
    indent lead ++ "_Static_assert(" ++ condition.text n ++ message.elim "" ("," ++ ·) ++ ")\n"

def Stmt.elseText (n : Nat) : Option Stmt → String
  | none => ""
  | some s => indent n ++ "else\n" ++ s.text (n + 2) n

def Stmt.listText (n : Nat) : List Stmt → String
  | [] => ""
  | s :: ss => s.text n n ++ Stmt.listText n ss

/-- Statements whose first lines are two columns further in. -/
def Stmt.innerText (n : Nat) : List Stmt → String
  | [] => ""
  | s :: ss => s.text (n + 2) n ++ Stmt.innerText n ss

end

/-- A declaration on one line. -/
def Decl.line (d : Decl) : String := Text.collapseBlanks (d.text 0 ++ ";")

end HeaderBindings.C
