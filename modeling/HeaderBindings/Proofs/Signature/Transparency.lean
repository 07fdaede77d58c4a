/-
  Typedefs are transparent: what is declared through an alias prints as if its type were written
  out.  Let `chain` be the chain of the typedef and `front` that of the use, without a function.
  The type written out has the chain `front ++ chain`.

  Main statement (`alias_transparent`): the two signatures are the same text except where `front`
  ends in a pointer that meets a function at the head of `chain`, or meets `char *`, which the alias
  spells `Ptr CString` and the type written out `Ptr (CString)`.
-/
import HeaderBindings.Proofs.Signature.Chain

namespace HeaderBindings

open HeaderBindings.Derivation

section Alias

variable (types : TypeTable) (specifiers : List Specifier) (chain : List Derivation)
variable (name : String) (front : List Derivation)

/-- The signature through an alias of the type. -/
def viaAlias : String :=
  chainSignature .binding (types.define name (chainSignature .binding types specifiers chain))
    [.typedefName name] front

/-- The signature of the type written out. -/
def writtenOut : String := chainSignature .binding types specifiers (front ++ chain)

/-- Where the last pointer of the use looks into the type behind the alias. -/
def LooksThrough : Prop :=
  EndsInPointer front ∧ (StartsWithFunction chain ∨
    chain = [.pointer] ∧ Specifier.signature .binding types specifiers = "CChar")

theorem specifier_signature_alias (signature : String) :
    Specifier.signature .binding (types.define name signature) [.typedefName name] = signature := by
  change ((types.define name signature).lookup? name).getD _ = signature
  rw [TypeTable.lookup?_define, if_pos rfl]
  rfl

end Alias

/-- The text of a pointer to a type that a chain other than `char *` gives. -/
theorem bindingPointer_signature {types : TypeTable} {base : String} {chain : List Derivation}
    (hne : chain ≠ []) (hchar : ¬ (chain = [.pointer] ∧ base = "CChar")) :
    Dialect.bindingPointer (signature .binding types base chain)
      = "Ptr (" ++ signature .binding types base chain ++ ")" := by
  rcases binding_signature_cases types base hne with ⟨hchain, hbase, _⟩ | hblank
  · exact absurd ⟨hchain, hbase⟩ hchar
  · have hname : signature .binding types base chain ≠ "CChar" := by
      intro h
      rw [h] at hblank
      revert hblank
      decide
    rw [Dialect.bindingPointer, if_neg (binding_signature_ne_empty types base hne), if_neg hname,
      if_pos hblank]

/-- A pointer to an alias and a pointer in front of the chain behind the alias. -/
theorem bindingPointer_eq_iff (types : TypeTable) (base : String) (chain : List Derivation) :
    Dialect.bindingPointer (signature .binding types base chain)
        = signature .binding types base (.pointer :: chain)
      ↔ ¬ (StartsWithFunction chain ∨ chain = [.pointer] ∧ base = "CChar") := by
  by_cases hnil : chain = []
  · subst hnil
    rw [signature_nil, signature_pointer]
    refine iff_of_true rfl ?_
    rintro (⟨f, ⟨⟩, _⟩ | ⟨⟨⟩, _⟩)
  by_cases hfunction : StartsWithFunction chain
  · refine iff_of_false ?_ (fun h => h (.inl hfunction))
    obtain ⟨f, hhead, hf⟩ := hfunction
    obtain ⟨rest, rfl⟩ := List.head?_eq_some_iff.mp hhead
    cases f with
    | pointer | array => cases hf
    | function parameters isVariadic =>
      rw [bindingPointer_signature hnil (by rintro ⟨⟨⟩, _⟩), signature_pointer_function]
      intro h
      have h := congrArg String.toList h
      simp [Dialect.binding, String.toList_append] at h
  rw [signature_pointer_cons .binding types base hnil hfunction]
  by_cases hchar : chain = [.pointer] ∧ base = "CChar"
  · refine iff_of_false ?_ (fun h => h (.inr hchar))
    obtain ⟨rfl, rfl⟩ := hchar
    rw [signature_pointer]
    decide
  · rw [bindingPointer_signature hnil hchar]
    refine iff_of_true rfl ?_
    rintro (h | h)
    · exact hfunction h
    · exact hchar h

/-- Declaring through an alias gives the text of the type written out, exactly where the use does
not look through the alias.  Of the two cases where it does, the one of `char *` changes the
spelling of the innermost pointer and nothing else. -/
theorem alias_transparent (types : TypeTable) (specifiers : List Specifier)
    (chain : List Derivation) (name : String) (front : List Derivation)
    (hfront : ∀ d ∈ front, d.isFunction = false) :
    (viaAlias types specifiers chain name front = writtenOut types specifiers chain front
      ↔ ¬ LooksThrough types specifiers chain front) ∧
    (EndsInPointer front → chain = [.pointer] →
      Specifier.signature .binding types specifiers = "CChar" →
      viaAlias types specifiers chain name front = wrapAll .binding front.dropLast "Ptr CString" ∧
      writtenOut types specifiers chain front
        = wrapAll .binding front.dropLast "Ptr (CString)") := by
  rw [viaAlias, writtenOut, chainSignature, chainSignature, specifier_signature_alias,
    chainSignature]
  unfold LooksThrough
  generalize Specifier.signature .binding types specifiers = base
  by_cases hend : EndsInPointer front
  · obtain ⟨front, rfl⟩ := hend.eq_concat
    have hfront' : ∀ d ∈ front, d.isFunction = false :=
      fun d hd => hfront d (List.mem_append_left _ hd)
    -- the last pointer of the use goes with the type behind the alias
    have hlast : ∀ (types : TypeTable) (base : String) (rest : List Derivation),
        signature .binding types base ((front ++ [.pointer]) ++ rest)
          = wrapAll .binding front (signature .binding types base (.pointer :: rest)) := by
      intro types base rest
      rw [List.append_assoc, List.singleton_append]
      exact signature_append .binding types base hfront' fun _ =>
        ⟨List.cons_ne_nil _ _, by rintro ⟨f, ⟨⟩, ⟨⟩⟩⟩
    have halias := hlast (types.define name (signature .binding types base chain))
      (signature .binding types base chain) []
    rw [List.append_nil, signature_pointer] at halias
    rw [halias, hlast, List.dropLast_concat]
    refine ⟨⟨fun h hlook => ?_, fun hlook => ?_⟩, ?_⟩
    · exact (bindingPointer_eq_iff types base chain).mp
        (binding_wrapAll_injective hfront' h) hlook.2
    · exact congrArg _ ((bindingPointer_eq_iff types base chain).mpr fun h => hlook ⟨hend, h⟩)
    · rintro - rfl rfl
      rw [signature_pointer_cons .binding types _ (List.cons_ne_nil _ _) (by rintro ⟨f, ⟨⟩, ⟨⟩⟩),
        signature_pointer]
      exact ⟨rfl, rfl⟩
  · have halias := @signature_append .binding
      (types.define name (signature .binding types base chain))
      (signature .binding types base chain) front [] hfront fun h => absurd h hend
    rw [List.append_nil, signature_nil] at halias
    rw [halias, signature_append .binding types base hfront fun h => absurd h hend]
    exact ⟨iff_of_true rfl fun h => hend h.1, fun h => absurd h hend⟩

theorem alias_transparent_charPointer :
    (∀ d ∈ [array .unknown, pointer], d.isFunction = false) ∧
      viaAlias {} [.builtin .char] [pointer] "text" [array .unknown, pointer]
        = "Ptr (Ptr CString)" ∧
      writtenOut {} [.builtin .char] [pointer] [array .unknown, pointer]
        = "Ptr (Ptr (CString))" :=
  ⟨by decide, (alias_transparent {} [.builtin .char] [pointer] "text" [array .unknown, pointer]
    (by decide)).2 rfl rfl rfl⟩

end HeaderBindings
