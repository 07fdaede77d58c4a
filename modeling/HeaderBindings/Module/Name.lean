/-
  Names of modules.  A header's module is named by its base name without extension, in camel case:
  `foo_bar.h` gives `FooBar`.
-/
import HeaderBindings.Path
import HeaderBindings.Text.UpperCase

namespace HeaderBindings.Module

open Text (upperCase)

/-- An underscore is dropped and the character after it put in upper case, whatever it is; so of two
underscores in a row the second stays. -/
def camelCaseChars : List Char → List Char
  | [] => []
  | ['_'] => []
  | '_' :: c :: cs => upperCase c ++ camelCaseChars cs
  | c :: cs => c :: camelCaseChars cs

/-- Camel case with the first character in upper case. -/
def capitalizeChars : List Char → List Char
  | [] => []
  | c :: cs => upperCase c ++ camelCaseChars cs

def camelCase (s : String) : String := String.ofList (camelCaseChars s.toList)

def capitalize (s : String) : String := String.ofList (capitalizeChars s.toList)

/-- The module of the header at `path`. -/
def name (path : String) : String := capitalize (Path.stem path)

theorem camelCaseChars_underscore (cs : List Char) :
    camelCaseChars ('_' :: cs) = capitalizeChars cs := by
  cases cs <;> simp [camelCaseChars, capitalizeChars]

end HeaderBindings.Module
