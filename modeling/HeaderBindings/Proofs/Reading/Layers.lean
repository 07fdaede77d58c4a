/-
  The layers of a type tree.  A tree is a base inside shells; a shell is a layer of the declarator or
  the place of the declared name, and the places of names may stand anywhere between the layers.

  Main statement (`TypeTree.chain_eq`): the chain of a type has one derivation for each layer from the
  name outward, and the places of names leave no trace in it.
-/
import HeaderBindings.C.Reading

namespace HeaderBindings.C

/-- What stands around the base of a type. -/
inductive Shell where
  | layer (layer : Layer)
  | name (name : Option Ident) (qualifiers : List Qualifier)

def Shell.layer? : Shell → Option Layer
  | layer l => some l
  | name .. => none

namespace TypeTree

/-- The shells of a type from the declared name outward. -/
def shells : TypeTree → List Shell
  | .pointer qualifiers target => .layer (.pointer qualifiers) :: target.shells
  | .array brackets bound element => .layer (.array brackets bound) :: element.shells
  | .function parameters result => .layer (.function parameters) :: result.shells
  | .declared name qualifiers base => .name name qualifiers :: base.shells
  | .words _ | .record .. | .recordRef .. | .enumeration .. | .enumerationRef _ | .named _ => []

/-- What is inside all shells. -/
def base : TypeTree → TypeTree
  | .pointer _ target => target.base
  | .array _ _ element => element.base
  | .function _ result => result.base
  | .declared _ _ base => base.base
  | .words keywords => .words keywords
  | .record isUnion tag members => .record isUnion tag members
  | .recordRef isUnion tag => .recordRef isUnion tag
  | .enumeration tag enumerators => .enumeration tag enumerators
  | .enumerationRef tag => .enumerationRef tag
  | .named type => .named type

@[simp] theorem shells_base (t : TypeTree) : t.base.shells = [] := by
  induction t using shells.induct with
  | case1 qualifiers target ih => exact ih
  | case2 brackets bound element ih => exact ih
  | case3 parameters result ih => exact ih
  | case4 name qualifiers inner ih => exact ih
  | _ => rfl

/-- The layers of a type from the declared name outward. -/
def layers (t : TypeTree) : List Layer := t.shells.filterMap Shell.layer?

end TypeTree

/-- What a layer becomes in a chain. -/
def Layer.derivation (file : String) : Layer → Derivation
  | .pointer _ => .pointer
  | .array _ bound => .array bound.length
  | .function parameters =>
    .function (Param.declarations file parameters) (parameters.any Param.isEllipsis)

namespace TypeTree

/-- A type that is more than a base has a layer or a place for a name. -/
theorem shells_eq_nil_iff (file : String) (t : TypeTree) :
    t.shells = [] ↔ t.chain file = [] ∧ t.isDeclared = false := by
  cases t <;> simp [shells, chain, isDeclared]

theorem chain_eq (file : String) (t : TypeTree) :
    t.chain file = t.layers.map (Layer.derivation file) := by
  induction t using shells.induct with
  | case1 qualifiers target ih => rw [chain, ih]; rfl
  | case2 brackets bound element ih => rw [chain, ih]; rfl
  | case3 parameters result ih => rw [chain, ih]; rfl
  | case4 name qualifiers inner ih => rw [chain, ih]; rfl
  | _ => exact ((shells_eq_nil_iff file _).mp rfl).1

theorem specifiers_eq (file : String) (t : TypeTree) :
    t.specifiers file = t.base.specifiers file := by
  induction t using shells.induct with
  | case1 qualifiers target ih => rw [specifiers, ih]; rfl
  | case2 brackets bound element ih => rw [specifiers, ih]; rfl
  | case3 parameters result ih => rw [specifiers, ih]; rfl
  | case4 name qualifiers inner ih => rw [specifiers, ih]; rfl
  | _ => rfl

end TypeTree

end HeaderBindings.C
