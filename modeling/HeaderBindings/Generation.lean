/-
  Generation of bindings: a source is read by a backend, and the header it gives is emitted.
-/
import HeaderBindings.Bindings.Summary
import HeaderBindings.Registry

namespace HeaderBindings

structure Request where
  source : Source
  /-- The name of the backend; an empty one stands for the default. -/
  backend : Option String := none
  options : PreprocessorOptions := {}
  usePreprocessor : Bool := true
  /-- Report what is done. -/
  isDebug : Bool := false

/-- What a generation comes to: its output or why there is none, what was reported up to then, and
the registry and the preprocessor afterwards. -/
structure Generation where
  result : Except Failure Output
  notes : List String
  registry : Registry
  preprocessor : Preprocessor

namespace Request

/-- The name of the backend that a request asks for. -/
def backendName (request : Request) (r : Registry) : Except Failure String :=
  match request.backend.filter (· ≠ "") with
  | some name => .ok name
  | none => r.defaultName

def readRequest (request : Request) : ReadRequest :=
  { source := request.source, options := request.options
    usePreprocessor := request.usePreprocessor }

/-- What is reported, if anything is. -/
def reported (request : Request) (notes : List String) : List String :=
  if request.isDebug then notes.map note else []

/-- What is reported before the backend is looked for. -/
def opening (request : Request) (name : String) : List String :=
  ["Backend: " ++ name, "Parsing: " ++ request.source.path]

/-- The bindings that a request asks for, from the backend of this name. -/
def generateBy (request : Request) (r : Registry) (name : String) (backend : Backend)
    (p : Preprocessor) : Generation :=
  match backend.read request.readRequest p with
  | (.error failure, after) => ⟨.error failure, request.reported (request.opening name), r, after⟩
  | (.ok header, after) =>
    let out := header.bindings request.source.path
    ⟨.ok out, request.reported (request.opening name ++ header.findings ++ [out.totals]), r, after⟩

/-- The bindings that a request asks for.  The backend is reported before it is looked for. -/
def generate (request : Request) (registry : Registry) (p : Preprocessor) : Generation :=
  let r := registry.load
  match request.backendName r with
  | .error failure => ⟨.error failure, [], r, p⟩
  | .ok name =>
    match r.named name with
    | .error failure => ⟨.error failure, request.reported (request.opening name), r, p⟩
    | .ok backend => request.generateBy r name backend p

end Request

end HeaderBindings
