/-
  Scopes of names.  A scope says of each name declared in it whether it names a type; the innermost
  scope that knows a name decides.  Scopes open and close with braces, and the outermost never
  closes.
-/
import HeaderBindings.C.Ident

namespace HeaderBindings.C

/-- Names with `true` for the name of a type, the latest first. -/
abbrev Scope := List (Ident × Bool)

/-- The scope in force and those around it, from the inside out. -/
structure Scopes where
  inner : Scope := []
  outer : List Scope := []
  deriving Repr

namespace Scopes

def openBrace (s : Scopes) : Scopes := ⟨[], s.inner :: s.outer⟩

/-- The scopes after a closing brace, unless only the outermost is open. -/
def closeBrace? (s : Scopes) : Option Scopes :=
  match s.outer with
  | [] => none
  | scope :: rest => some ⟨scope, rest⟩

/-- What the scope in force says of a name. -/
def here? (s : Scopes) (name : Ident) : Option Bool := s.inner.lookup name

/-- The name stands for a type. -/
def isType (s : Scopes) (name : Ident) : Bool :=
  ((s.inner :: s.outer).findSome? (·.lookup name)).getD false

def declare (s : Scopes) (name : Ident) (isType : Bool) : Scopes :=
  { s with inner := (name, isType) :: s.inner }

@[simp] theorem closeBrace?_openBrace (s : Scopes) : s.openBrace.closeBrace? = some s := rfl

@[simp] theorem here?_declare (s : Scopes) (name : Ident) (isType : Bool) :
    (s.declare name isType).here? name = some isType := by
  simp [declare, here?]

end Scopes

end HeaderBindings.C
