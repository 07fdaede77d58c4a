/-
  Silent parameters.  The binding dialect has no name for void, complex numbers, records,
  enumerations and types of expressions, and a signature without text is no argument.

  Main statement (`Declaration.signature_eq_empty_iff`): a parameter has an empty signature exactly
  if it has no derivation and its specifiers name nothing, as long as no alias is recorded for void.
-/
import HeaderBindings.Proofs.Signature.Chain

namespace HeaderBindings

/-! ## Aliases -/

/-- No alias is recorded for void. -/
def TypeTable.NoVoid (types : TypeTable) : Prop :=
  ∀ name signature, types.lookup? name = some signature → signature ≠ ""

theorem TypeTable.noVoid_empty : TypeTable.NoVoid {} := by
  rintro name signature ⟨⟩

theorem TypeTable.NoVoid.define {types : TypeTable} (h : types.NoVoid) {name signature : String}
    (hs : signature ≠ "") : (types.define name signature).NoVoid := by
  intro n s
  rw [lookup?_define]
  split
  · rintro ⟨⟩
    exact hs
  · exact h n s

theorem TypeTable.NoVoid.aliasName_ne_empty {types : TypeTable} (h : types.NoVoid) (name : String) :
    Dialect.binding.aliasName types name ≠ "" := by
  change (types.lookup? name).getD _ ≠ ""
  cases hl : types.lookup? name with
  | none =>
    intro hempty
    have hempty := congrArg String.toList hempty
    simp [String.toList_append] at hempty
  | some s => exact h name s hl

/-! ## Specifiers -/

def Specifier.sign? : Specifier → Option Signedness
  | .sign s => some s
  | _ => none

/-- A type without a name in the bindings. -/
def Specifier.isNameless : Specifier → Bool
  | .builtin kind => kind = .void || kind = .complex
  | .record .. | .recordRef .. | .enumeration .. | .enumerationRef .. | .typeOf _ => true
  | .sign _ | .typedefName _ => false

/-- The last sign keyword of a sequence, after `sign`. -/
def lastSign (sign : Signedness) (specifiers : List Specifier) : Signedness :=
  (specifiers.filterMap Specifier.sign?).getLast?.getD sign

/-- The first specifier that is no sign keyword has no name; without one, the last sign keyword says
nothing. -/
def namesNothing (sign : Signedness) (specifiers : List Specifier) : Bool :=
  match specifiers.find? (·.sign?.isNone) with
  | some s => s.isNameless
  | none => lastSign sign specifiers = .plain

theorem bindingBuiltin_eq_empty_iff (kind : BaseKind) (sign : Signedness) :
    Dialect.bindingBuiltin kind sign = "" ↔ kind = .void ∨ kind = .complex := by
  cases kind <;> cases sign <;> decide

theorem bindingSign_eq_empty_iff (sign : Signedness) :
    Dialect.bindingSign sign = "" ↔ sign = .plain := by
  cases sign <;> decide

theorem lastSign_cons (sign s : Signedness) (rest : List Specifier) :
    lastSign sign (.sign s :: rest) = lastSign s rest := by
  have hcons : (Specifier.sign s :: rest).filterMap Specifier.sign?
      = s :: rest.filterMap Specifier.sign? := rfl
  rw [lastSign, hcons, List.getLast?_cons]
  rfl

theorem namesNothing_sign (sign s : Signedness) (rest : List Specifier) :
    namesNothing sign (.sign s :: rest) = namesNothing s rest := by
  rw [namesNothing, namesNothing, lastSign_cons]
  rfl

theorem Specifier.signatureFrom_eq_empty_iff {types : TypeTable} (h : types.NoVoid)
    (sign : Signedness) (specifiers : List Specifier) :
    signatureFrom .binding types sign specifiers = "" ↔ namesNothing sign specifiers = true := by
  induction specifiers generalizing sign with
  | nil =>
    rw [signatureFrom]
    exact (bindingSign_eq_empty_iff sign).trans decide_eq_true_iff.symm
  | cons s rest ih =>
    cases s with
    | sign s => rw [signatureFrom, namesNothing_sign, ih s]
    | builtin kind =>
      rw [signatureFrom]
      refine (bindingBuiltin_eq_empty_iff kind sign).trans ?_
      simp [namesNothing, sign?, isNameless]
    | typedefName name => exact iff_of_false (h.aliasName_ne_empty name) Bool.false_ne_true
    | record | recordRef | enumeration | enumerationRef | typeOf => exact iff_of_true rfl rfl

/-- A chain over a specifier sequence prints nothing exactly if it is empty and the specifiers name
nothing. -/
theorem chainSignature_eq_empty_iff {types : TypeTable} (h : types.NoVoid)
    (specifiers : List Specifier) (chain : List Derivation) :
    chainSignature .binding types specifiers chain = ""
      ↔ (chain.isEmpty && namesNothing .plain specifiers) = true := by
  have hbase := Specifier.signatureFrom_eq_empty_iff h .plain specifiers
  rw [Bool.and_eq_true, ← hbase, List.isEmpty_iff, chainSignature]
  by_cases hchain : chain = []
  · rw [hchain, Derivation.signature_nil]
    exact ⟨fun hs => ⟨rfl, hs⟩, And.right⟩
  · exact iff_of_false (Derivation.binding_signature_ne_empty types _ hchain) fun hs => hchain hs.1

/-! ## Parameters -/

/-- A parameter without a derivation whose specifiers name nothing. -/
def Declaration.isSilent (p : Declaration) : Bool :=
  p.declarators.head?.all (·.chain.isEmpty) && namesNothing .plain p.specifiers

theorem Declaration.signature_eq_empty_iff {types : TypeTable} (h : types.NoVoid)
    (p : Declaration) : p.signature .binding types = "" ↔ p.isSilent = true := by
  unfold isSilent
  cases hds : p.declarators with
  | nil =>
    obtain ⟨specifiers, declarators, isTypedef, location, text⟩ := p
    cases hds
    rw [signature]
    exact Specifier.signatureFrom_eq_empty_iff h .plain specifiers
  | cons d ds =>
    rw [signature_cons .binding types p d ds hds]
    exact (chainSignature_eq_empty_iff h p.specifiers d.chain).trans (by simp)

/-- The arguments of a function are the signatures of the parameters that are not silent. -/
theorem argumentSignatures_eq_filter {types : TypeTable} (h : types.NoVoid)
    (ps : List Declaration) :
    argumentSignatures .binding types ps
      = (ps.filter (!·.isSilent)).map (Declaration.signature .binding types) := by
  rw [argumentSignatures_eq, List.filter_map]
  congr 1
  refine List.filter_congr fun p _ => ?_
  rw [Function.comp_apply, Bool.eq_iff_iff, decide_eq_true_iff, Bool.not_eq_true', ne_eq,
    p.signature_eq_empty_iff h, Bool.not_eq_true]

end HeaderBindings
