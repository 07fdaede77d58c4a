/-
  Specifiers of declarations: qualifiers, storage and function words, alignments and types, in the
  order they are written within each kind.  Which of them may follow which is settled by the grammar
  of pycparser 2.23.
-/
import HeaderBindings.C.Parser.Declarator

namespace HeaderBindings.C

/-- One type specifier with its place. -/
inductive TypeSpec where
  | word (word : BaseWord) (place : Place)
  | tagged (type : TypeTree) (place : Place)
  | atomic (type : TypeTree) (place : Place)

namespace TypeSpec

def place : TypeSpec → Place
  | word _ place | tagged _ place | atomic _ place => place

/-- What the specifier is called where a plain name is asked for. -/
def kind : TypeSpec → String
  | word .. => "IdentifierType"
  | tagged (.record isUnion ..) _ | tagged (.recordRef isUnion _) _ =>
    if isUnion then "Union" else "Struct"
  | tagged .. => "Enum"
  | atomic .. => "Typename"

def word? : TypeSpec → Option BaseWord
  | word w _ => some w
  | _ => none

end TypeSpec

structure Specifiers where
  qualifiers : List Qualifier := []
  storage : List Storage := []
  functionWords : List FunctionWord := []
  alignments : List Alignment := []
  types : List TypeSpec := []

namespace Specifiers

def isTypedef (s : Specifiers) : Bool := s.storage.contains .typedef

def addType (s : Specifiers) (t : TypeSpec) : Specifiers := { s with types := s.types ++ [t] }

def addQualifier (s : Specifiers) (q : Qualifier) : Specifiers :=
  { s with qualifiers := s.qualifiers ++ [q] }

def addAlignment (s : Specifiers) (a : Alignment) : Specifiers :=
  { s with alignments := s.alignments ++ [a] }

end Specifiers

namespace Parser

/-! ## Records and enumerations -/

/-- A record from its keyword on.  Its place is that of the tag; without a tag it is the first column
of the line of the brace. -/
def recordSpec (g : Grammar) (isUnion : Bool) : Parser TypeSpec := do
  advance
  let start ← here
  let body (tag : Option Ident) (column : Nat) : Parser TypeSpec := do
    let members ← g.members
    return .tagged (.record isUnion tag members) (← placeAt start.line column)
  match ← peek with
  | .ident tag | .typeName tag =>
    advance
    if ← accept .leftBrace then body tag start.column
    else return .tagged (.recordRef isUnion tag) (← placeAt start.line start.column)
  | .mark .leftBrace =>
    advance
    body none 1
  | _ => unexpected

/-- The enumerators after the opening brace, with the closing one.  Each is declared once the comma
or brace after it has been read, so the last one belongs to the scope outside.  Commas may be
repeated. -/
def enumerators (g : Grammar) : Parser (List Enumerator) :=
  repeat_ (fun (before : List Enumerator) => do
    match ← peek with
    | .ident name =>
      let start ← here
      advance
      let value ← if (← peek) = .assign none then
          advance
          some <$> conditional g
        else pure none
      require fun t => t = .mark .comma || t = .mark .rightBrace
      declare name false (.place (← placeAt start.line start.column))
      let after := Enumerator.mk name value :: before
      let isMore ← commas
      if isMore && (← peek) ≠ .mark .rightBrace then pure (.again after)
      else
        expect .rightBrace
        pure (.done after.reverse)
    | _ => unexpected) []
where
  /-- Commas as far as they go; tells whether there was one. -/
  commas : Parser Bool :=
    repeat_ (fun isMore => do
      if ← accept .comma then pure (.again true) else pure (.done isMore)) false

/-- An enumeration from its keyword on, whose place is the keyword's. -/
def enumSpec (g : Grammar) : Parser TypeSpec := do
  let start ← here
  advance
  let place := placeAt start.line start.column
  match ← peek with
  | .ident tag | .typeName tag =>
    advance
    if ← accept .leftBrace then
      let list ← enumerators g
      return .tagged (.enumeration tag list) (← place)
    else return .tagged (.enumerationRef tag) (← place)
  | .mark .leftBrace =>
    advance
    let list ← enumerators g
    return .tagged (.enumeration none list) (← place)
  | _ => unexpected

/-! ## Single specifiers -/

/-- An alignment from its keyword on. -/
def alignment (g : Grammar) : Parser Alignment := do
  advance
  expect .leftParen
  let result ← if (← peek).beginsType then Alignment.type <$> g.typeName
    else Alignment.value <$> conditional g
  expect .rightParen
  pure result

/-- An atomic type from the parenthesis after its keyword on.  Its place is not known. -/
def atomicSpec (g : Grammar) : Parser TypeSpec := do
  expect .leftParen
  let type ← g.typeName
  let place ← placeAt 0 1
  expect .rightParen
  pure (.atomic type place)

/-- A type specifier other than an atomic one, if one is ahead; `names` admits typedef names, records
and enumerations. -/
def typeSpec? (g : Grammar) (names : Bool) : Parser (Option TypeSpec) := do
  match ← peek with
  | .typeWord w => return some (.word (.keyword w) (← take))
  | .typeName name => if names then return some (.word (.typedefName name) (← take)) else pure none
  | .keyword .structWord => if names then some <$> recordSpec g false else pure none
  | .keyword .unionWord => if names then some <$> recordSpec g true else pure none
  | .keyword .enumWord => if names then some <$> enumSpec g else pure none
  | _ => pure none

/-! ## Specifiers of a declaration -/

/-- How far the specifiers of a declaration have come: `none_` before the first; `atomic` after an
atomic type that is the first, which may be the type or stand before it; `untyped` after others but
before the type, where every type may still follow; `typed` after the type, where only keywords may
follow. -/
inductive SpecifierStage where
  | none_
  | atomic
  | untyped
  | typed
  deriving DecidableEq

namespace SpecifierStage

/-- The stage after a specifier that names no type. -/
def stay : SpecifierStage → SpecifierStage
  | typed => typed
  | _ => untyped

/-- The stage after an atomic type. -/
def afterAtomic : SpecifierStage → SpecifierStage
  | none_ => atomic
  | stage => stage.stay

/-- The type is there, unless what follows belongs to the specifiers. -/
def isTyped : SpecifierStage → Bool
  | atomic | typed => true
  | none_ | untyped => false

end SpecifierStage

/-- The specifiers of a declaration as far as they go; the flag tells whether they hold a type that
closes the choice of types.  An atomic type does so only if it comes first and what follows it is
neither a specifier without a type nor a record or enumeration. -/
def declarationSpecifiers (g : Grammar) : Parser (Specifiers × Bool) :=
  repeat_ (fun ((s, stage) : Specifiers × SpecifierStage) => do
    match ← peek with
    | .qualifier .atomic =>
      advance
      if stage ≠ .typed && (← peek) = .mark .leftParen then
        let type ← atomicSpec g
        pure (.again (s.addType type, stage.afterAtomic))
      else pure (.again (s.addQualifier .atomic, stage.stay))
    | .qualifier q =>
      advance
      pure (.again (s.addQualifier q, stage.stay))
    | .storage word =>
      advance
      pure (.again ({ s with storage := s.storage ++ [word] }, stage.stay))
    | .functionWord word =>
      advance
      pure (.again ({ s with functionWords := s.functionWords ++ [word] }, stage.stay))
    | .keyword .alignas =>
      let a ← alignment g
      pure (.again (s.addAlignment a, stage.stay))
    | .typeWord w =>
      let place ← take
      pure (.again (s.addType (.word (.keyword w) place), .typed))
    | .typeName _ =>
      if stage.isTyped then pure (.done (s, true))
      else
        match ← typeSpec? g true with
        | some type => pure (.again (s.addType type, .typed))
        | none => pure (.done (s, false))
    | _ =>
      if stage = .typed then pure (.done (s, true))
      else
        match ← typeSpec? g true with
        | some type => pure (.again (s.addType type, .typed))
        | none => pure (.done (s, stage.isTyped))) ({}, .none_)

/-! ## Specifiers of members and type names -/

/-- Specifiers and qualifiers after the type: keywords, qualifiers and alignments. -/
def moreQualified (g : Grammar) : Specifiers → Parser Specifiers :=
  repeat_ fun s => do
    match ← peek with
    | .qualifier q =>
      advance
      pure (.again (s.addQualifier q))
    | .keyword .alignas =>
      let a ← alignment g
      pure (.again { s with alignments := a :: s.alignments })
    | _ =>
      match ← typeSpec? g false with
      | some type => pure (.again (s.addType type))
      | none => pure (.done s)

/-- The specifiers of a member or a type name.  They open with an alignment, or with qualifiers and
the type. -/
def qualifiedSpecifiers (g : Grammar) : Parser Specifiers := do
  if (← peek) = .keyword .alignas then
    let a ← alignment g
    moreQualified g { alignments := [a] }
  else
    let start ← repeat_ (fun (s : Specifiers) => do
      match ← peek with
      | .qualifier .atomic =>
        advance
        if (← peek) = .mark .leftParen then
          let type ← atomicSpec g
          pure (.done (s.addType type))
        else pure (.again (s.addQualifier .atomic))
      | .qualifier q =>
        advance
        pure (.again (s.addQualifier q))
      | _ =>
        match ← typeSpec? g true with
        | some type => pure (.done (s.addType type))
        | none => unexpected) {}
    moreQualified g start

end Parser

end HeaderBindings.C
