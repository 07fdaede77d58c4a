/-
  Blanks of every script, and text with its runs of blanks collapsed: `collapseBlanks` gives the
  words of a text with one space between them, so its result holds no line break.
-/
import HeaderBindings.Text.CodeRange

namespace HeaderBindings.Text

/-- The blank code points, in increasing order. -/
def blankRanges : List CodeRange := [
  (0x9, 0xD), (0x1C, 0x20), (0x85, 0x85), (0xA0, 0xA0), (0x1680, 0x1680), (0x2000, 0x200A),
  (0x2028, 0x2029), (0x202F, 0x202F), (0x205F, 0x205F), (0x3000, 0x3000)
]

/-- A space, a control that moves the pen, or a space character of Unicode. -/
def isBlank (c : Char) : Bool := inRanges blankRanges c

/-! ## Words -/

/-- The words of a text, `word` being the one read so far, last character first. -/
def wordsFrom (word : List Char) : List Char → List (List Char)
  | [] => if word.isEmpty then [] else [word.reverse]
  | c :: cs =>
    if isBlank c then
      if word.isEmpty then wordsFrom [] cs else word.reverse :: wordsFrom [] cs
    else wordsFrom (c :: word) cs

/-- The longest runs of characters that are not blank, in order. -/
def words (cs : List Char) : List (List Char) := wordsFrom [] cs

/-- The words of a text with one space between them. -/
def collapseBlanks (s : String) : String :=
  " ".intercalate ((words s.toList).map String.ofList)

end HeaderBindings.Text
