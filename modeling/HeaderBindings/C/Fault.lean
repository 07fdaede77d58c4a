/-
  What can be wrong with a C text, where, and how it is reported.  The messages are those of
  pycparser 2.23.
-/
import HeaderBindings.Text.Quoted

namespace HeaderBindings.C

/-- A place in a text: the file that the line markers name, the line they number, the column. -/
structure Place where
  file : String
  line : Nat
  column : Nat
  deriving DecidableEq, Repr

def Place.text (p : Place) : String :=
  p.file ++ ":" ++ toString p.line ++ ":" ++ toString p.column

/-- The place a complaint is about; a declaration without a type or a name may have none. -/
inductive Whereabouts where
  | place (p : Place)
  | noType
  | noName
  deriving DecidableEq, Repr

namespace Whereabouts

def text : Whereabouts → String
  | place p => p.text
  | noType => "?"
  | noName => "None"

/-- A place that may be missing. -/
def ofOption : Option Place → Whereabouts
  | some p => place p
  | none => noName

end Whereabouts

inductive Complaint where
  | illegalCharacter (c : Char)
  | invalidOctal
  | comment
  | unmatchedQuote
  | invalidCharacterConstant (text : String)
  | invalidEscape
  | invalidLineMarker
  | fileBeforeLine
  | missingLine
  | unexpected (text : String)
  | directive
  | typedefAfterName (name : String)
  | nameAfterTypedef (name : String)
  | invalidDeclaration
  | missingType
  | multipleTypes
  | invalidTypedef
  deriving DecidableEq, Repr

def Complaint.message : Complaint → String
  | illegalCharacter c => "Illegal character " ++ Text.quoted (String.ofList [c])
  | invalidOctal => "Invalid octal constant"
  | comment => "Comments are not supported, see https://github.com/eliben/pycparser#3using."
  | unmatchedQuote => "Unmatched '"
  | invalidCharacterConstant text => "Invalid char constant " ++ text
  | invalidEscape => "String contains invalid escape code"
  | invalidLineMarker => "invalid #line directive"
  | fileBeforeLine => "filename before line number in #line"
  | missingLine => "line number missing in #line"
  | unexpected text => "before: " ++ text
  | directive => "Directives not supported yet"
  | typedefAfterName name =>
    "Typedef " ++ Text.quoted name ++ " previously declared as non-typedef in this scope"
  | nameAfterTypedef name =>
    "Non-typedef " ++ Text.quoted name ++ " previously declared as typedef in this scope"
  | invalidDeclaration => "Invalid declaration"
  | missingType => "Missing type in declaration"
  | multipleTypes => "Invalid multiple types specified"
  | invalidTypedef => "Invalid typedef"

/-- Why a text is not read.  Most faults are complaints about a place; the others are faults that the
reader of a text does not expect. -/
inductive Fault where
  | complaint (whereabouts : Whereabouts) (what : Complaint)
  | endOfInput (file : String)
  /-- A closing brace that no brace opened. -/
  | strayBrace
  /-- A line marker whose number is no decimal numeral. -/
  | lineNumber (text : String)
  /-- A line marker whose number has too many digits. -/
  | longLineNumber (digits : Nat)
  /-- A constant of several characters that ends like a doubly unsigned number. -/
  | repeatedSuffix
  /-- A piece of syntax without the part that its place asks for. -/
  | lacking (kind part : String)
  /-- A pragma operator inside a declaration, which has no printed form. -/
  | pragmaOperator
  /-- The text nests deeper than the reader goes; no text does. -/
  | depth
  deriving DecidableEq, Repr

def Fault.message : Fault → String
  | complaint whereabouts what => whereabouts.text ++ ": " ++ what.message
  | endOfInput file => file ++ ": At end of input"
  | strayBrace => ""
  | lineNumber text => "invalid literal for int() with base 10: " ++ Text.quoted text
  | longLineNumber digits =>
    "Exceeds the limit (4300 digits) for integer string conversion: value has "
      ++ toString digits ++ " digits; use sys.set_int_max_str_digits() to increase the limit"
  | repeatedSuffix => "Constant cannot have more than one u/U suffix."
  | lacking kind part => "'" ++ kind ++ "' object has no attribute '" ++ part ++ "'"
  | pragmaOperator => "can only concatenate str (not \"Constant\") to str"
  | depth => "maximum nesting depth exceeded"

end HeaderBindings.C
