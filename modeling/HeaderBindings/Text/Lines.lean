/-
  Lines of a text.  `splitLines` knows every line boundary of Unicode, `unifyNewlines` turns the
  three newline conventions of text files into one.
-/

namespace HeaderBindings.Text

/-- A character that ends a line: line feed, carriage return, vertical tab, form feed, the three
separators U+001C to U+001E, next line, and the line and paragraph separators. -/
def isLineBreak (c : Char) : Bool :=
  (0x0A ≤ c.toNat && c.toNat ≤ 0x0D) || (0x1C ≤ c.toNat && c.toNat ≤ 0x1E)
    || c.toNat == 0x85 || c.toNat == 0x2028 || c.toNat == 0x2029

/-- The lines of a text, `line` being the one read so far, last character first. -/
def linesFrom (line : List Char) : List Char → List (List Char)
  | [] => if line.isEmpty then [] else [line.reverse]
  | '\r' :: '\n' :: cs => line.reverse :: linesFrom [] cs
  | c :: cs => if isLineBreak c then line.reverse :: linesFrom [] cs else linesFrom (c :: line) cs

/-- The lines without their breaks; a carriage return with its line feed is one break, and a break
at the end of the text opens no further line. -/
def splitLines (s : String) : List String := (linesFrom [] s.toList).map String.ofList

/-- A carriage return counts as a newline, with its line feed as one. -/
def newlinesFrom : List Char → List Char
  | [] => []
  | '\r' :: '\n' :: cs => '\n' :: newlinesFrom cs
  | c :: cs => (if c = '\r' then '\n' else c) :: newlinesFrom cs

/-- The text with every newline convention written as a line feed. -/
def unifyNewlines (s : String) : String := String.ofList (newlinesFrom s.toList)

/-- Only the pair of carriage return and line feed becomes a line feed. -/
def dropReturns : List Char → List Char
  | [] => []
  | '\r' :: '\n' :: cs => '\n' :: dropReturns cs
  | c :: cs => c :: dropReturns cs

end HeaderBindings.Text
