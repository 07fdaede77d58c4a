/-
  The scanner: the tokens of a C text, read one at a time.  It keeps the file and line that line
  markers name, and the scopes of names, because a name is a typedef name or not by what has been
  declared when it is read, and a scope opens or closes when its brace is read.

  The tokens are those of pycparser 2.23: it knows no comments, and no directives but line markers
  and pragmas.
-/
import HeaderBindings.C.Fault
import HeaderBindings.C.Literal
import HeaderBindings.C.Scope
import HeaderBindings.C.Token

namespace HeaderBindings.C

/-- The text still to be read, and what is known from the text before it. -/
structure Scanner where
  rest : List Char
  file : String
  line : Nat := 1
  column : Nat := 1
  /-- The rest of the line belongs to a pragma. -/
  inPragma : Bool := false
  scopes : Scopes := {}

/-- A token with the line and the column of its first character. -/
structure Lexeme where
  token : Token
  line : Nat
  column : Nat
  deriving Repr

namespace Scanner

def place (s : Scanner) : Place := ⟨s.file, s.line, s.column⟩

def fail {α : Type} (s : Scanner) (what : Complaint) : Except Fault α :=
  .error (.complaint (.place s.place) what)

/-- The scanner after `n` characters of the line. -/
def skip (s : Scanner) (n : Nat) : Scanner :=
  { s with rest := s.rest.drop n, column := s.column + n }

/-- The scanner after the line break it stands at. -/
def newline (s : Scanner) : Scanner :=
  { s with rest := s.rest.drop 1, line := s.line + 1, column := 1, inPragma := false }

/-- The characters before `after`, which is an end of the text still to be read. -/
def upTo (s : Scanner) (after : List Char) : List Char :=
  s.rest.take (s.rest.length - after.length)

/-! ## Line markers and pragmas -/

def afterBlanks (cs : List Char) : List Char := cs.dropWhile fun c => c == ' ' || c == '\t'

/-- What follows a hash sign makes it a line marker: the word `line`, or a numeral. -/
def opensLineMarker (cs : List Char) : Bool :=
  match afterBlanks cs with
  | 'l' :: 'i' :: 'n' :: 'e' :: c :: _ => !Text.isWordCharacter c
  | c :: _ => Text.isDecimalDigit c
  | [] => false

/-- What follows a hash sign makes it a pragma. -/
def opensPragma (cs : List Char) : Bool :=
  match afterBlanks cs with
  | 'p' :: 'r' :: 'a' :: 'g' :: 'm' :: 'a' :: c :: _ => !Text.isWordCharacter c
  | _ => false

/-- The number of a line marker.  Its text may hold a suffix, which is no number then. -/
def lineNumber (text : List Char) : Except Fault Nat :=
  if !text.all Char.isDigit then .error (.lineNumber (String.ofList text))
  else if 4300 < text.length then .error (.longLineNumber text.length)
  else .ok (text.foldl (fun n c => 10 * n + (c.toNat - '0'.toNat)) 0)

/-- A text without the double quotes at both its ends. -/
def unquoted (text : List Char) : String :=
  String.ofList ((text.dropWhile (· == '"')).reverse.dropWhile (· == '"')).reverse

/-- Reads the rest of a line marker.  The first number counts, the last file name counts, and both
take effect at the line's end; a marker that the text's end cuts off has no effect. -/
def lineMarker : Nat → Option (List Char) → Option String → Scanner → Except Fault Scanner
  | 0, _, _, _ => .error .depth
  | fuel + 1, number, name, s =>
    match s.rest with
    | [] => .ok s
    | '\n' :: _ =>
      match number with
      | none => s.fail .missingLine
      | some text => do
        let line ← lineNumber text
        .ok { s.newline with line := line, file := name.getD s.file }
    | '"' :: _ =>
      match Literal.string s.rest with
      | none => s.fail .invalidLineMarker
      | some after =>
        if number.isNone then s.fail .fileBeforeLine
        else
          let text := s.upTo after
          lineMarker fuel number (some (unquoted text)) (s.skip text.length)
    | 'l' :: 'i' :: 'n' :: 'e' :: _ => lineMarker fuel number name (s.skip 4)
    | c :: _ =>
      if c == ' ' || c == '\t' then lineMarker fuel number name (s.skip 1)
      else if c.isDigit then
        match Literal.decimal s.rest with
        | none => s.fail .invalidLineMarker
        | some after =>
          let text := s.upTo after
          lineMarker fuel (number.orElse fun _ => some text) name (s.skip text.length)
      else s.fail .invalidLineMarker

/-- The next token of a pragma's line: the word itself, or the rest of the line. -/
def pragmaToken (s : Scanner) : Token × Nat :=
  if "pragma".toList.isPrefixOf s.rest then (.pragma, 6)
  else
    let text := s.rest.takeWhile (· != '\n')
    (.pragmaText (String.ofList text), text.length)

/-! ## Tokens -/

/-- The operators and delimiters, longest first, without the braces. -/
def operators : List (List Char × Token) :=
  ([("...", .mark .ellipsis), ("<<=", .assign (some .shiftLeft)),
    (">>=", .assign (some .shiftRight)),
    ("<<", .binary .shiftLeft), (">>", .binary .shiftRight), ("<=", .binary .lessEqual),
    (">=", .binary .greaterEqual), ("==", .binary .equal), ("!=", .binary .notEqual),
    ("&&", .binary .logicalAnd), ("||", .binary .logicalOr), ("++", .mark .increment),
    ("--", .mark .decrement), ("->", .mark .arrow), ("*=", .assign (some .times)),
    ("/=", .assign (some .divide)), ("%=", .assign (some .modulo)), ("+=", .assign (some .plus)),
    ("-=", .assign (some .minus)), ("&=", .assign (some .bitAnd)), ("^=", .assign (some .bitXor)),
    ("|=", .assign (some .bitOr)),
    ("=", .assign none), ("+", .binary .plus), ("-", .binary .minus), ("*", .binary .times),
    ("/", .binary .divide), ("%", .binary .modulo), ("<", .binary .less), (">", .binary .greater),
    ("&", .binary .bitAnd), ("^", .binary .bitXor), ("|", .binary .bitOr),
    ("~", .mark .complement), ("!", .mark .negation), ("?", .mark .question),
    ("(", .mark .leftParen), (")", .mark .rightParen), ("[", .mark .leftBracket),
    ("]", .mark .rightBracket), (",", .mark .comma), (";", .mark .semicolon),
    (":", .mark .colon), (".", .mark .period)] : List (String × Token)).map
    fun (text, token) => (text.toList, token)

/-- The numeral at the head of a text. -/
def numeral? (cs : List Char) : Option (List Char) :=
  (Literal.float cs).orElse fun _ => (Literal.hexFloat cs).orElse fun _ =>
    (Literal.hexadecimal cs).orElse fun _ => Literal.binary cs

/-- What follows a letter or letters that make the literal behind them wide. -/
def afterWidth : List Char → Option (List Char)
  | 'u' :: '8' :: cs => some cs
  | c :: cs => if c == 'L' || c == 'u' || c == 'U' then some cs else none
  | [] => none

/-- An identifier or a word of the language. -/
def nameToken (s : Scanner) (name : Ident) : Token :=
  (Token.word? name.text).getD (if s.scopes.isType name then .typeName name else .ident name)

/-- The token at the head of the text, and its length.  The forms are tried in a fixed order, and the
first that fits is taken. -/
def token (s : Scanner) : Except Fault (Token × Nat) :=
  let cs := s.rest
  let literal (make : String → Token) (after : List Char) : Except Fault (Token × Nat) :=
    let text := s.upTo after
    .ok (make (String.ofList text), text.length)
  match cs with
  | [] => .ok (.endOfText, 0)
  | '\x7b' :: _ => .ok (.mark .leftBrace, 1)
  | '\x7d' :: _ => .ok (.mark .rightBrace, 1)
  | '/' :: '*' :: _ | '/' :: '/' :: _ => s.fail .comment
  | '\'' :: rest =>
    match Literal.characterConstant rest with
    | .single after => literal .constant after
    | .several after => literal .characters after
    | .unmatched => s.fail .unmatchedQuote
    | .invalid after => s.fail (.invalidCharacterConstant (String.ofList (s.upTo after)))
    | .noConstant => s.fail (.illegalCharacter '\'')
  | '"' :: _ =>
    match Literal.string cs with
    | some after => literal .string after
    | none =>
      if Literal.isBadString cs then s.fail .invalidEscape else s.fail (.illegalCharacter '"')
  | c :: _ =>
    match numeral? cs with
    | some after => literal .constant after
    | none =>
      if Literal.isBadOctal cs then s.fail .invalidOctal
      else if c.isDigit then
        match (Literal.octal cs).orElse fun _ => Literal.decimal cs with
        | some after => literal .constant after
        | none => s.fail (.illegalCharacter c)
      else match (afterWidth cs).bind Literal.singleCharacter with
      | some after => literal .constant after
      | none => match (afterWidth cs).bind Literal.string with
      | some after => literal .wideString after
      | none => match Ident.scan? cs with
      | some name => .ok (s.nameToken name, name.chars.length)
      | none => match operators.find? fun (text, _) => text.isPrefixOf cs with
      | some (text, token) => .ok (token, text.length)
      | none => s.fail (.illegalCharacter c)

/-- The scopes after a token: its brace, if it is one, has been read. -/
def scopesAfter (s : Scanner) : Token → Except Fault Scopes
  | .mark .leftBrace => .ok s.scopes.openBrace
  | .mark .rightBrace =>
    match s.scopes.closeBrace? with
    | some scopes => .ok scopes
    | none => .error .strayBrace
  | _ => .ok s.scopes

/-- The next token.  `fuel` bounds the blanks, line breaks and markers before it; one more than the
number of characters is enough. -/
def next : Nat → Scanner → Except Fault (Lexeme × Scanner)
  | 0, _ => .error .depth
  | fuel + 1, s =>
    match s.rest with
    | [] => .ok (⟨.endOfText, s.line, s.column⟩, s)
    | c :: cs =>
      if c == ' ' || c == '\t' then next fuel (s.skip 1)
      else if c == '\n' then next fuel s.newline
      else if s.inPragma then
        let (token, n) := s.pragmaToken
        .ok (⟨token, s.line, s.column⟩, s.skip n)
      else if c == '#' then
        if opensLineMarker cs then do
          next fuel (← lineMarker (cs.length + 1) none none (s.skip 1))
        else if opensPragma cs then next fuel { s.skip 1 with inPragma := true }
        else .ok (⟨.hash, s.line, s.column⟩, s.skip 1)
      else do
        let (token, n) ← s.token
        let scopes ← s.scopesAfter token
        .ok (⟨token, s.line, s.column⟩, { s.skip n with scopes := scopes })

end Scanner

end HeaderBindings.C
