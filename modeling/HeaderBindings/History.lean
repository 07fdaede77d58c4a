/-
  Histories of a registry: registrations by a caller, and queries, each of which may be the one that
  brings the builtin backend in.
-/
import HeaderBindings.Generation

namespace HeaderBindings.Registry

/-- A step in the life of a registry. -/
inductive Step where
  | register (name : String) (backend : Backend) (asDefault : Bool)
  | names
  | defaultName
  | backend (name : Option String)
  | generate (request : Request) (p : Preprocessor)

/-- The registry after a step.  Every query loads it first, whether it succeeds or not. -/
def after (r : Registry) : Step → Registry
  | .register name backend asDefault => r.register name backend asDefault
  | .names | .defaultName | .backend _ => r.load
  | .generate request p => (request.generate r p).registry

/-- The registry after steps in order. -/
def afterAll (r : Registry) (steps : List Step) : Registry := steps.foldl after r

end HeaderBindings.Registry
