/-
  The texts made for a header: its binding module and its helper file.
-/
import HeaderBindings.Bindings.Output
import HeaderBindings.Module.Include

namespace HeaderBindings

namespace Module

/-- Lines as the text of a file. -/
def fileText (lines : List String) : String := "\n".intercalate lines ++ "\n"

/-- The lines before the imports of a module. -/
def preamble (pre filename : String) : List String := [
  "#include <bindings.dsl.h>",
  "#include <" ++ Path.baseName filename ++ ">",
  "module " ++ pre ++ "." ++ name filename ++ " where",
  "#strict_import",
  ""
]

/-- The import that a local include stands for. -/
def importLine (pre include_ : String) : String := "import " ++ pre ++ "." ++ includeName include_

end Module

namespace Output

open HeaderBindings.Module

/-- The binding module: the preamble, an import for each local include, the binding lines. -/
def moduleText (out : Output) (pre filename source : String) : String :=
  fileText (preamble pre filename ++ (localIncludes source).map (importLine pre)
    ++ out.bindingText)

/-- The helper file: it includes the header and whatever the header includes locally. -/
def helperFileText (out : Output) (filename source : String) : String :=
  fileText (["#include <bindings.cmacros.h>", "#include <" ++ Path.baseName filename ++ ">"]
    ++ localIncludes source ++ [""] ++ out.helperText)

/-- The files of a header by name: the module, and the helper file if there is a helper line. -/
def files (out : Output) (pre filename source : String) : List (String × String) :=
  let target := name filename ++ ".hsc"
  (target, out.moduleText pre filename source)
    :: if out.helpers.isEmpty then []
      else [(target ++ ".helper.c", out.helperFileText filename source)]

end Output

end HeaderBindings
