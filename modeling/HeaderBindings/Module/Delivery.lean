/-
  Where the files of a header go.  They are written into a directory one by one, or their texts are
  added to a stream; in both cases their names are given back in order.
-/
import HeaderBindings.FileTree
import HeaderBindings.Module.Text

namespace HeaderBindings

/-- Where files are to go. -/
inductive Destination where
  | directory (path : String)
  | stream
  deriving DecidableEq, Repr

/-- What files can go to: a tree, and the text that a stream was given so far. -/
structure Sinks where
  tree : FileTree
  stream : String := ""
  deriving DecidableEq, Repr

namespace Sinks

/-- The sinks after named texts went there, and the names or the fault.  A stream takes every text; a
directory takes them until one cannot be written. -/
def put (s : Sinks) (files : List (String × String)) :
    Destination → Sinks × Except FileFault (List String)
  | .directory path =>
    let (tree, names) := s.tree.writeAll path files
    ({ s with tree }, names)
  | .stream =>
    ({ s with stream := s.stream ++ String.join (files.map Prod.snd) }, .ok (files.map Prod.fst))

end Sinks

/-- Writes the files of the header `filename`, whose own text is `source`. -/
def Output.write (out : Output) (pre filename source : String) (destination : Destination)
    (s : Sinks) : Sinks × Except FileFault (List String) :=
  s.put (out.files pre filename source) destination

end HeaderBindings
