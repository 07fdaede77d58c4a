/-
  The table of typedef names: each alias with the signature recorded for it, in the order of first
  definition.  Defining a name again keeps its place and replaces its signature.
-/
import HeaderBindings.Table

namespace HeaderBindings

structure TypeTable where
  entries : Table String String := []
  deriving DecidableEq, Repr

namespace TypeTable

def define (t : TypeTable) (name signature : String) : TypeTable :=
  ⟨Table.put name signature t.entries⟩

def lookup? (t : TypeTable) (name : String) : Option String := t.entries.lookup name

def contains (t : TypeTable) (name : String) : Bool := (t.lookup? name).isSome

def size (t : TypeTable) : Nat := t.entries.length

def names (t : TypeTable) : List String := Table.keys t.entries

def ofList (pairs : List (String × String)) : TypeTable :=
  pairs.foldl (fun t p => t.define p.1 p.2) {}

theorem lookup?_define (t : TypeTable) (name signature n : String) :
    (t.define name signature).lookup? n = if n = name then some signature else t.lookup? n :=
  Table.lookup_put name n signature t.entries

theorem define_of_lookup? {t : TypeTable} {name signature : String}
    (h : t.lookup? name = some signature) : t.define name signature = t :=
  congrArg TypeTable.mk (Table.put_of_lookup h)

end TypeTable

end HeaderBindings
