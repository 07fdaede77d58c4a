/-
  Paths of files: base name, stem, and joining with a directory.
-/

namespace HeaderBindings.Path

/-- What follows the last separator; empty if the path ends in one. -/
def baseNameChars (path : List Char) : List Char :=
  (path.reverse.takeWhile (· ≠ '/')).reverse

/-- What precedes the last dot; everything if there is no dot. -/
def beforeLastDot (cs : List Char) : List Char :=
  if '.' ∈ cs then ((cs.reverse.dropWhile (· ≠ '.')).drop 1).reverse else cs

/-- A base name without its extension.  Dots at the start never open an extension. -/
def stemChars (name : List Char) : List Char :=
  name.takeWhile (· = '.') ++ beforeLastDot (name.dropWhile (· = '.'))

def baseName (path : String) : String := String.ofList (baseNameChars path.toList)

/-- The base name of a path without its extension. -/
def stem (path : String) : String := String.ofList (stemChars (baseNameChars path.toList))

/-- The path of `name` in a directory: an absolute name stays, and a separator is added unless the
directory ends in one or is empty. -/
def join (directory name : String) : String :=
  if name.toList.head? = some '/' then name
  else if directory.isEmpty || directory.toList.getLast? = some '/' then directory ++ name
  else directory ++ "/" ++ name

theorem slash_not_mem_baseNameChars (path : List Char) : '/' ∉ baseNameChars path := by
  intro h
  have hmem := List.mem_reverse.mp h
  have hall := List.all_takeWhile (p := fun c : Char => decide (c ≠ '/')) (l := path.reverse)
  simp only [List.all_eq_true] at hall
  simpa using hall _ hmem

end HeaderBindings.Path
