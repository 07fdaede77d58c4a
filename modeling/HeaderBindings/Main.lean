/-
  The command as a program.  It starts no other program: the preprocessed text of a header `x.h` is
  expected beside it as `x.h.i`, and a header without one has no preprocessor.
-/
import HeaderBindings.CommandLine.Run

namespace HeaderBindings

/-- The tree with what stands at a path. -/
def addPath (tree : FileTree) (path : String) : IO FileTree := do
  try
    return tree.addFile path (← IO.FS.readFile path)
  catch
    | .noFileOrDirectory .. => return tree
    | _ => return tree.addDirectory path

/-- The reply of the preprocessor for a header. -/
def replyFor (path : String) : IO Reply := do
  try
    return .finished 0 (← IO.FS.readBinFile (path ++ ".i")).toList []
  catch _ => return .missing

end HeaderBindings

open HeaderBindings in
def main (words : List String) : IO UInt32 := do
  let arguments := (CommandLine.Arguments.read words).toOption.getD {}
  let tree ← (arguments.outputDirectory :: arguments.files).foldlM addPath {}
  let replies ← arguments.files.mapM replyFor
  let (last, ending) := CommandLine.run { program := "header-bindings", locate := some } words
    { files := tree, preprocessor := { replies } }
  for (path, text) in tree.changes last.files do
    IO.FS.writeFile path text
  IO.print last.output
  IO.eprint last.messages
  match ending with
  | .exit status => return UInt32.ofNat status
  | .broken failure =>
    IO.eprintln failure.message
    return 1
