/-
  The values of integer constants, as far as they are evaluated: decimal, hexadecimal and binary
  ones.  A leading zero marks no base here, so an octal constant has a value only if all its digits
  are zeros.
-/

namespace HeaderBindings.C.Numeral

/-- The letters of an integer suffix. -/
def isSuffixLetter (c : Char) : Bool := c == 'l' || c == 'L' || c == 'u' || c == 'U'

/-- The text without the suffix letters at its end. -/
def dropSuffix (cs : List Char) : List Char := (cs.reverse.dropWhile isSuffixLetter).reverse

/-- The value of a digit, letters counting from ten. -/
def digitValue (c : Char) : Option Nat :=
  if '0' ≤ c && c ≤ '9' then some (c.toNat - '0'.toNat)
  else if 'a' ≤ c && c ≤ 'f' then some (c.toNat - 'a'.toNat + 10)
  else if 'A' ≤ c && c ≤ 'F' then some (c.toNat - 'A'.toNat + 10)
  else none

/-- The number that digits continue, `n` being the one read so far. -/
def digitsFrom (base : Nat) (n : Nat) : List Char → Option Nat
  | [] => some n
  | c :: cs => do
    let d ← digitValue c
    if d < base then digitsFrom base (base * n + d) cs else none

/-- The number that a text of at least one digit stands for. -/
def digits (base : Nat) (cs : List Char) : Option Nat :=
  if cs.isEmpty then none else digitsFrom base 0 cs

/-- The largest number of digits that a decimal numeral is evaluated with. -/
def maxDecimalDigits : Nat := 4300

/-- The value of a decimal numeral, which has no leading zero unless it has nothing else. -/
def decimal (cs : List Char) : Option Nat :=
  if cs.length ≤ maxDecimalDigits && (cs.head? != some '0' || cs.all (· == '0')) then digits 10 cs
  else none

/-- The value of a numeral without a suffix. -/
def natural : List Char → Option Nat
  | '0' :: 'x' :: cs | '0' :: 'X' :: cs => digits 16 cs
  | '0' :: 'b' :: cs | '0' :: 'B' :: cs => digits 2 cs
  | cs => decimal cs

/-- The value of an integer constant. -/
def value (text : String) : Option Nat := natural (dropSuffix text.toList)

end HeaderBindings.C.Numeral
