/-
  Closed properties of texts.  A property is closed if it holds of the fixed names of the bindings
  and every production of a type keeps it, so all that can break it is an alias.

  Main statement (`BindingClosed.related`): a closed property is a relation of the binding dialect
  with itself, the diagonal one, so what related operations do for signatures they do for it
  (`BindingClosed.chainSignature`).
-/
import HeaderBindings.Proofs.Signature.Reading

namespace HeaderBindings

/-- The property holds of the empty text and the fixed names, and pointers and functions keep it. -/
structure BindingClosed (P : String → Prop) : Prop where
  void : P ""
  name : ∀ name : BaseName, P name.text
  pointer : ∀ {type}, P type → P ("Ptr (" ++ type ++ ")")
  wordPointer : ∀ {type}, P type → P ("Ptr " ++ type)
  function : ∀ {arguments result}, (∀ type ∈ arguments, P type) → P result →
    P ("FunPtr (" ++ callText arguments result ++ ")")

/-- Equal texts with the property. -/
def Diagonal (P : String → Prop) (a b : String) : Prop := a = b ∧ P a

theorem forall_mem_of_diagonal {P : String → Prop} {as bs : List String}
    (h : List.Forall₂ (Diagonal P) as bs) : as = bs ∧ ∀ a ∈ as, P a := by
  induction h with
  | nil => exact ⟨rfl, by simp⟩
  | cons hab _ ih =>
    obtain ⟨rfl, hp⟩ := hab
    obtain ⟨rfl, hps⟩ := ih
    exact ⟨rfl, List.forall_mem_cons.mpr ⟨hp, hps⟩⟩

theorem Diagonal.type? {P : String → Prop} (dialect : Dialect) {a b : String}
    (h : Diagonal P a b) :
    Option.Rel (Diagonal P) (dialect.algebra.type? a) (dialect.algebra.type? b) := by
  obtain ⟨rfl, ha⟩ := h
  change Option.Rel _ (if a = "" then none else some a) (if a = "" then none else some a)
  split
  · exact .none
  · exact .some ⟨rfl, ha⟩

namespace BindingClosed

variable {P : String → Prop} (h : BindingClosed P)

include h

theorem baseName (name : Option BaseName) : P (name.elim "" BaseName.text) := by
  cases name with
  | none => exact h.void
  | some n => exact h.name n

theorem bindingPointer {base : String} (hbase : P base) : P (Dialect.bindingPointer base) := by
  rw [Dialect.bindingPointer]
  split
  · exact h.pointer h.void
  · split
    · exact h.name .string
    · split
      · exact h.pointer hbase
      · exact h.wordPointer hbase

/-- The binding dialect keeps the property through every operation. -/
theorem related :
    Dialect.binding.algebra.Related Dialect.binding.algebra (Diagonal P) (Diagonal P) where
  void := ⟨rfl, h.void⟩
  builtin kind sign := by
    refine ⟨rfl, ?_⟩
    have hname := h.baseName (builtinBase kind sign)
    cases kind <;> cases sign <;> exact hname
  sign s := by
    refine ⟨rfl, ?_⟩
    have hname := h.baseName (signBase s)
    cases s <;> exact hname
  functionBase := by
    rintro a _ ⟨rfl, ha⟩
    exact ⟨rfl, h.bindingPointer ha⟩
  endPointer := by
    rintro a _ ⟨rfl, ha⟩
    exact ⟨rfl, h.bindingPointer ha⟩
  wrapPointer := by
    rintro a _ ⟨rfl, ha⟩
    exact ⟨rfl, h.pointer ha⟩
  wrapArray := by
    rintro a _ ⟨rfl, ha⟩
    exact ⟨rfl, h.pointer ha⟩
  wrapFunction := by
    rintro ps qs a _ hps ⟨rfl, ha⟩
    obtain ⟨rfl, harguments⟩ := forall_mem_of_diagonal hps
    exact ⟨rfl, h.function harguments ha⟩
  type? := Diagonal.type? .binding

theorem chainSignature {types : TypeTable} {specifiers : List Specifier} {chain : List Derivation}
    (haliases : ∀ n ∈ specifierAliases specifiers ++ chainAliases chain,
      P (Dialect.binding.aliasName types n)) :
    P (HeaderBindings.chainSignature .binding types specifiers chain) := by
  rw [← resolveChain_text]
  exact (resolveChain_related h.related specifiers chain fun n hn => ⟨rfl, haliases n hn⟩).2

end BindingClosed

end HeaderBindings
