/-
  Local includes: the lines of a header that include another header of the same library.  Each
  stands for an import of that header's module.
-/
import HeaderBindings.Module.Name
import HeaderBindings.Text.Lines

namespace HeaderBindings.Module

/-- How a local include begins. -/
def includeOpening : List Char := "#include \"".toList

/-- The line opens a local include, in this one spelling. -/
def isLocalInclude (line : String) : Bool := includeOpening.isPrefixOf line.toList

/-- The local includes of a header's source, as written. -/
def localIncludes (source : String) : List String := (Text.splitLines source).filter isLocalInclude

/-- The module that a local include stands for: the path runs to the next quote. -/
def includeName (line : String) : String :=
  name (String.ofList ((line.toList.drop includeOpening.length).takeWhile (· ≠ '"')))

end HeaderBindings.Module
