/-
  The typedef names that a declaration refers to, at any depth: in its specifiers, in the members of
  its records and in the parameters of its functions.
-/
import HeaderBindings.Declaration

namespace HeaderBindings

mutual

def Specifier.aliases : Specifier → List String
  | .typedefName name => [name]
  | .record _ _ members => declarationAliases members
  | _ => []

def specifierAliases : List Specifier → List String
  | [] => []
  | s :: rest => s.aliases ++ specifierAliases rest

def Derivation.aliases : Derivation → List String
  | .function parameters _ => declarationAliases parameters
  | _ => []

def chainAliases : List Derivation → List String
  | [] => []
  | d :: rest => d.aliases ++ chainAliases rest

def Declarator.aliases : Declarator → List String
  | ⟨_, chain⟩ => chainAliases chain

def declaratorAliases : List Declarator → List String
  | [] => []
  | d :: rest => d.aliases ++ declaratorAliases rest

def Declaration.aliases : Declaration → List String
  | ⟨specifiers, declarators, _, _, _⟩ =>
    specifierAliases specifiers ++ declaratorAliases declarators

def declarationAliases : List Declaration → List String
  | [] => []
  | d :: rest => d.aliases ++ declarationAliases rest

end

def Node.aliases : Node → List String
  | .declaration d => d.aliases
  | .definition f => specifierAliases f.specifiers ++ f.declarator.aliases
  | .assembly .. => []

/-! ## Aliases of the parts -/

theorem Declarator.aliases_eq (d : Declarator) : d.aliases = chainAliases d.chain := by
  obtain ⟨name, chain⟩ := d
  rw [aliases]

theorem Declaration.aliases_eq (d : Declaration) :
    d.aliases = specifierAliases d.specifiers ++ declaratorAliases d.declarators := by
  obtain ⟨specifiers, declarators, isTypedef, location, text⟩ := d
  rw [aliases]

theorem mem_declaratorAliases {name : String} {declarators : List Declarator} :
    name ∈ declaratorAliases declarators ↔ ∃ d ∈ declarators, name ∈ d.aliases := by
  induction declarators with
  | nil => simp [declaratorAliases]
  | cons d rest ih => simp [declaratorAliases, ih]

end HeaderBindings
