/-
  What a step reads of the typedef table.  A signature of the bindings depends on the entries of the
  aliases it refers to, and a type in plain C on none, since there an alias stands for itself.

  Main statements: tables that agree on the aliases of a step have it print and record the same
  (`Step.lines_congr`, `chainSignature_congr`), and helper lines do not depend on the table at all
  (`FunctionDefinition.helperLine_eq`).
-/
import HeaderBindings.Proofs.Emission.Transcript

namespace HeaderBindings

/-- The two tables have the same entries for these names. -/
def TypeTable.AgreeOn (names : List String) (ts us : TypeTable) : Prop :=
  ∀ n ∈ names, ts.lookup? n = us.lookup? n

/-! ## Signatures -/

theorem TypeAlgebra.related_refl {τ σ : Type} (A : TypeAlgebra τ σ) : A.Related A Eq Eq where
  void := rfl
  builtin _ _ := rfl
  sign _ := rfl
  functionBase h := congrArg _ h
  endPointer h := congrArg _ h
  wrapPointer h := congrArg _ h
  wrapArray h := congrArg _ h
  wrapFunction hps h := by
    rw [List.forall₂_eq_eq_eq] at hps
    rw [hps, h]
  type? := by
    rintro a _ rfl
    cases A.type? a with
    | none => exact .none
    | some t => exact .some rfl

theorem TypeTable.AgreeOn.aliasName_eq {names : List String} {ts us : TypeTable}
    (h : AgreeOn names ts us) : ∀ n ∈ names,
      Dialect.binding.algebra.aliasName ts.entries n
        = Dialect.binding.algebra.aliasName us.entries n := by
  intro n hn
  change (ts.lookup? n).getD _ = (us.lookup? n).getD _
  rw [h n hn]

theorem chainSignature_congr {ts us : TypeTable} {specifiers : List Specifier}
    {chain : List Derivation}
    (h : TypeTable.AgreeOn (specifierAliases specifiers ++ chainAliases chain) ts us) :
    chainSignature .binding ts specifiers chain = chainSignature .binding us specifiers chain := by
  rw [← resolveChain_text, ← resolveChain_text]
  exact resolveChain_related (TypeAlgebra.related_refl _) specifiers chain h.aliasName_eq

theorem Derivation.signature_c_eq (ts us : TypeTable) (base : String) (chain : List Derivation) :
    signature .c ts base chain = signature .c us base chain := by
  rw [← resolve_text, ← resolve_text]
  exact resolve_related (TypeAlgebra.related_refl _) chain (fun _ _ => rfl) rfl

theorem chainSignature_c_eq (ts us : TypeTable) (specifiers : List Specifier)
    (chain : List Derivation) :
    chainSignature .c ts specifiers chain = chainSignature .c us specifiers chain := by
  rw [← resolveChain_text, ← resolveChain_text]
  exact resolveChain_related (TypeAlgebra.related_refl _) specifiers chain fun _ _ => rfl

/-! ## Steps -/

theorem TypedLine.eq_of_rel {τ σ : Type} {l m : TypedLine τ σ} (h : TypedLine.Rel Eq Eq l m) :
    l = m := by
  cases h with
  | plain line h => rfl
  | field name h => rw [h]
  | arrayField name h => rw [h]
  | function marker name hps h =>
    rw [List.forall₂_eq_eq_eq] at hps
    rw [hps, h]

/-- A step prints the same under tables that agree on the aliases it refers to. -/
theorem Step.lines_congr {ts us : TypeTable} (s : Step) (h : TypeTable.AgreeOn s.aliases ts us) :
    s.lines ts = s.lines us := by
  have hrel := s.typedLines_related (TypeAlgebra.related_refl _) h.aliasName_eq
  have hlines := hrel.imp fun _ _ => TypedLine.eq_of_rel
  rw [List.forall₂_eq_eq_eq] at hlines
  rw [← typedLines_text, ← typedLines_text, hlines]

theorem FunctionDefinition.helperLine_eq (ts us : TypeTable) (f : FunctionDefinition) :
    f.helperLine ts = f.helperLine us := by
  simp only [helperLine, chainSignature_c_eq ts us, Derivation.signature_c_eq ts us]

theorem Step.helpers_eq (ts us : TypeTable) (s : Step) : s.helpers ts = s.helpers us := by
  cases s with
  | help f => rw [helpers, helpers, f.helperLine_eq ts us]
  | introduce | call | record => rfl

/-- The helper lines of a run are those of its steps, whatever it records. -/
theorem stepHelpers_eq_flatMap (types : TypeTable) (steps : List Step) :
    stepHelpers types steps = steps.flatMap (Step.helpers {}) := by
  induction steps generalizing types with
  | nil => rfl
  | cons s rest ih => rw [stepHelpers, ih, s.helpers_eq types {}, List.flatMap_cons]

end HeaderBindings
