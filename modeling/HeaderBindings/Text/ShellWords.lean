/-
  Words as a shell cuts them: separated by blanks, joined by quotes and backslashes.  A word exists
  from its first character or quote on, so a pair of quotes is an empty word.
-/

namespace HeaderBindings.Text.ShellWords

inductive Fault where
  | openQuote
  | openEscape
  deriving DecidableEq, Repr

def Fault.message : Fault → String
  | openQuote => "No closing quotation"
  | openEscape => "No escaped character"

/-- Where a character stands. -/
inductive Mode where
  | plain
  | single
  | double
  /-- After a backslash outside quotes, where every character stands for itself. -/
  | escaped
  /-- After a backslash in double quotes, where only a quote and a backslash stand for themselves. -/
  | escapedInQuotes
  deriving DecidableEq, Repr

def isSeparator (c : Char) : Bool := c == ' ' || c == '\t' || c == '\r' || c == '\n'

/-- The words from a point on.  `word` is the one begun, last character first. -/
def wordsFrom : Mode → Option (List Char) → List Char → Except Fault (List String)
  | .plain, word, [] => .ok (word.elim [] fun w => [String.ofList w.reverse])
  | .single, _, [] | .double, _, [] => .error .openQuote
  | .escaped, _, [] | .escapedInQuotes, _, [] => .error .openEscape
  | .plain, word, c :: cs =>
    if isSeparator c then do
      let rest ← wordsFrom .plain none cs
      return word.elim rest fun w => String.ofList w.reverse :: rest
    else
      let begun := word.getD []
      if c = '\'' then wordsFrom .single (some begun) cs
      else if c = '"' then wordsFrom .double (some begun) cs
      else if c = '\\' then wordsFrom .escaped (some begun) cs
      else wordsFrom .plain (some (c :: begun)) cs
  | .single, word, c :: cs =>
    if c = '\'' then wordsFrom .plain word cs
    else wordsFrom .single (some (c :: word.getD [])) cs
  | .double, word, c :: cs =>
    if c = '"' then wordsFrom .plain word cs
    else if c = '\\' then wordsFrom .escapedInQuotes word cs
    else wordsFrom .double (some (c :: word.getD [])) cs
  | .escaped, word, c :: cs => wordsFrom .plain (some (c :: word.getD [])) cs
  | .escapedInQuotes, word, c :: cs =>
    let begun := word.getD []
    wordsFrom .double (some (if c = '"' ∨ c = '\\' then c :: begun else c :: '\\' :: begun)) cs

/-- The words of a text. -/
def split (s : String) : Except Fault (List String) := wordsFrom .plain none s.toList

end HeaderBindings.Text.ShellWords
