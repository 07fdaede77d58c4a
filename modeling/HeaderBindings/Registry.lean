/-
  The registry of backends by name, in the order of first registration.  The builtin backend is added
  by the first query, as the default, whatever was registered before.
-/
import HeaderBindings.Backend

namespace HeaderBindings

structure Registry where
  backends : Table String Backend := []
  default : Option String := none
  /-- The builtin backend has been added. -/
  isLoaded : Bool := false

namespace Registry

/-- The first backend becomes the default, and so does a later one if it asks for it. -/
def register (r : Registry) (name : String) (backend : Backend) (asDefault : Bool) : Registry :=
  { r with
    backends := Table.put name backend r.backends
    default := if asDefault || r.default.isNone then some name else r.default }

/-- The registry that every query looks at. -/
def load (r : Registry) : Registry :=
  if r.isLoaded then r
  else { r with isLoaded := true }.register Backend.builtinName Backend.builtin true

def names (r : Registry) : List String := Table.keys r.backends

def defaultName (r : Registry) : Except Failure String :=
  match r.default with
  | some name => .ok name
  | none => .error .noBackend

/-- The backend of a name.  A backend is registered by what makes it; that it can be made is taken for
granted, so a name that is registered has a backend. -/
def named (r : Registry) (name : String) : Except Failure Backend :=
  match r.backends.lookup name with
  | some backend => .ok backend
  | none => .error (.unknownBackend name r.names)

/-- The backend of a name, or the default one. -/
def backend (r : Registry) (name : Option String) : Except Failure Backend := do
  match name with
  | some name => r.named name
  | none => r.named (← r.defaultName)

end Registry

end HeaderBindings
