/-
  Literals of C: numerals, character constants and strings.  Each reader takes the text from the
  literal's first character and gives what follows the longest form it knows, if there is one.  The
  forms are those of pycparser 2.23.
-/
import HeaderBindings.Text.WordCharacter

namespace HeaderBindings.C.Literal

def isHexDigit (c : Char) : Bool :=
  c.isDigit || ('a' ≤ c && c ≤ 'f') || ('A' ≤ c && c ≤ 'F')

def isOctalDigit (c : Char) : Bool := '0' ≤ c && c ≤ '7'

/-- A run of at least one character of a class, and what follows it. -/
def run1 (p : Char → Bool) (cs : List Char) : Option (List Char) :=
  if (cs.takeWhile p).isEmpty then none else some (cs.dropWhile p)

/-! ## Numerals -/

/-- What follows the suffix of an integer.  The long sign is doubled in one case only, and a doubled
one goes with the unsigned sign on either side. -/
def afterSuffix (cs : List Char) : List Char :=
  let isU (c : Char) : Bool := c == 'u' || c == 'U'
  let isL (c : Char) : Bool := c == 'l' || c == 'L'
  let dropU : List Char → List Char
    | [] => []
    | c :: rest => if isU c then rest else c :: rest
  match cs with
  | a :: b :: c :: rest =>
    if isU a && isL b && b == c then rest
    else if isL a && a == b then dropU (c :: rest)
    else if isU a && isL b then c :: rest
    else if isL a then dropU (b :: c :: rest)
    else dropU cs
  | [a, b] =>
    if isL a && a == b then []
    else if isU a && isL b then []
    else if isL a then dropU [b]
    else dropU cs
  | [a] => if isU a || isL a then [] else cs
  | [] => []

/-- What follows an exponent opened by one of the two letters. -/
def exponent (small large : Char) : List Char → Option (List Char)
  | c :: cs =>
    if c == small || c == large then
      match cs with
      | '+' :: rest | '-' :: rest => run1 Char.isDigit rest
      | _ => run1 Char.isDigit cs
    else none
  | [] => none

def afterFloatSuffix : List Char → List Char
  | c :: cs => if c == 'f' || c == 'F' || c == 'l' || c == 'L' then cs else c :: cs
  | [] => []

/-- A floating constant: digits around a point and perhaps an exponent, or digits and an
exponent. -/
def float (cs : List Char) : Option (List Char) :=
  let whole := cs.takeWhile Char.isDigit
  let afterExponent (rest : List Char) : List Char :=
    afterFloatSuffix ((exponent 'e' 'E' rest).getD rest)
  match cs.dropWhile Char.isDigit with
  | '.' :: rest =>
    match run1 Char.isDigit rest with
    | some after => some (afterExponent after)
    | none => if whole.isEmpty then none else some (afterExponent rest)
  | rest => if whole.isEmpty then none else (exponent 'e' 'E' rest).map afterFloatSuffix

/-- What follows the letter that marks the base of a numeral with a leading zero. -/
def afterBase (small large : Char) : List Char → Option (List Char)
  | '0' :: c :: cs => if c == small || c == large then some cs else none
  | _ => none

/-- A hexadecimal floating constant, whose exponent is never left out. -/
def hexFloat (cs : List Char) : Option (List Char) := do
  let digits ← afterBase 'x' 'X' cs
  let whole := digits.takeWhile isHexDigit
  let after ← match digits.dropWhile isHexDigit with
    | '.' :: rest =>
      if whole.isEmpty then run1 isHexDigit rest else some (rest.dropWhile isHexDigit)
    | rest => if whole.isEmpty then none else some rest
  (exponent 'p' 'P' after).map afterFloatSuffix

def hexadecimal (cs : List Char) : Option (List Char) := do
  let digits ← afterBase 'x' 'X' cs
  (run1 isHexDigit digits).map afterSuffix

def binary (cs : List Char) : Option (List Char) := do
  let digits ← afterBase 'b' 'B' cs
  (run1 (fun c => c == '0' || c == '1') digits).map afterSuffix

/-- A zero, octal digits, and then a digit that is not octal. -/
def isBadOctal : List Char → Bool
  | '0' :: cs => ((cs.dropWhile isOctalDigit).head?.any fun c => c == '8' || c == '9')
  | _ => false

def octal : List Char → Option (List Char)
  | '0' :: cs => some (afterSuffix (cs.dropWhile isOctalDigit))
  | _ => none

/-- A decimal numeral without leading zeros, with its suffix; a lone zero is one. -/
def decimal : List Char → Option (List Char)
  | '0' :: cs => some (afterSuffix cs)
  | cs => (run1 Char.isDigit cs).map afterSuffix

/-! ## Characters and strings -/

/-- The characters that a backslash makes a simple escape, digits aside. -/
def isSimpleEscape (c : Char) : Bool := c.isAlpha || "._~!=&^-\\?'\"".toList.contains c

/-- What follows one character of a character constant, an escape counting as one.  An escape by
number runs as far as its digits do. -/
def unit : List Char → Option (List Char)
  | '\\' :: 'x' :: cs => some (cs.dropWhile isHexDigit)
  | '\\' :: c :: cs =>
    if Text.isDecimalDigit c then some (cs.dropWhile Text.isDecimalDigit)
    else if isSimpleEscape c then some cs else none
  | c :: cs => if c == '\'' || c == '\\' || c == '\n' then none else some cs
  | [] => none

/-- What follows as many units as there are, and their number.  `fuel` bounds the units; the length
of the text is enough. -/
def units : Nat → List Char → Nat × List Char
  | 0, cs => (0, cs)
  | fuel + 1, cs =>
    match unit cs with
    | none => (0, cs)
    | some rest =>
      let (n, after) := units fuel rest
      (n + 1, after)

/-- What a text that opens with a single quote turns out to be. -/
inductive QuoteOutcome where
  /-- A constant of one character. -/
  | single (rest : List Char)
  /-- A constant of two to four characters. -/
  | several (rest : List Char)
  | unmatched
  | invalid (rest : List Char)
  | noConstant

/-- An escape of a character that no escape is made of. -/
def isBadEscape (c : Char) : Bool := !(isSimpleEscape c || c.isDigit)

/-- What follows a constant that is closed on its line but is not well formed. -/
def invalidConstant (cs : List Char) : Option (List Char) :=
  let closed (run : List Char) : Option (List Char) :=
    match run.dropWhile fun c => c != '\'' && c != '\n' with
    | '\'' :: rest => some rest
    | _ => none
  let long := (unit cs).bind fun after =>
    if after.head?.any fun c => c != '\'' && c != '\n' then closed after else none
  match long, cs with
  | some rest, _ => some rest
  | none, '\'' :: rest => some rest
  | none, '\\' :: c :: after => if isBadEscape c then closed after else none
  | none, _ => none

/-- Reads what follows an opening single quote. -/
def characterConstant (cs : List Char) : QuoteOutcome :=
  let (n, after) := units cs.length cs
  match after with
  | '\'' :: rest =>
    if 2 ≤ n && n ≤ 4 then .several rest
    else if n = 1 then .single rest
    else (invalidConstant cs).elim .noConstant .invalid
  | [] => .unmatched
  | '\n' :: _ => .unmatched
  | _ => (invalidConstant cs).elim .noConstant .invalid

/-- What follows a constant of one character, read from its opening quote. -/
def singleCharacter : List Char → Option (List Char)
  | '\'' :: cs =>
    match unit cs with
    | some ('\'' :: rest) => some rest
    | _ => none
  | _ => none

/-- What follows the closing quote of a string, and how many of its escapes are bad. -/
def stringBody (bad : Nat) : List Char → Option (Nat × List Char)
  | [] => none
  | '"' :: rest => some (bad, rest)
  | '\\' :: c :: cs => stringBody (if isBadEscape c then bad + 1 else bad) cs
  | c :: cs => if c == '\n' || c == '\\' then none else stringBody bad cs

/-- What follows a string, read from its opening quote. -/
def string : List Char → Option (List Char)
  | '"' :: cs =>
    match stringBody 0 cs with
    | some (0, rest) => some rest
    | _ => none
  | _ => none

/-- A string that is closed and has one bad escape. -/
def isBadString : List Char → Bool
  | '"' :: cs => (stringBody 0 cs).any (·.1 = 1)
  | _ => false

end HeaderBindings.C.Literal
