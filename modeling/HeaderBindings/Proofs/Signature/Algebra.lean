/-
  The resolution of types over any kind of result.  `TypeAlgebra` lists the operations by which a
  type is built; `Derivation.resolve` is the recursion over declarators, with these operations in
  the place of text.

  Main statements: over text it is the recursion of the signatures (`Derivation.resolve_text`), and
  operations that keep a relation give related results on every declaration
  (`Declaration.resolve_related`).
-/
import HeaderBindings.Signature
import HeaderBindings.Proofs.Signature.Aliases
import Mathlib.Data.List.Forall2

namespace HeaderBindings

/-- The ways to build a signature `σ`, which is void or a type `τ`. -/
structure TypeAlgebra (τ σ : Type) where
  void : σ
  builtin : BaseKind → Signedness → σ
  sign : Signedness → σ
  /-- An alias, under the types recorded so far. -/
  aliasName : Table String τ → String → σ
  functionBase : σ → σ
  endPointer : σ → σ
  wrapPointer : σ → σ
  wrapArray : σ → σ
  wrapFunction : List τ → σ → σ
  /-- The type that a signature is, unless it is void. -/
  type? : σ → Option τ

variable {τ σ τ' σ' : Type}

/-! ## Resolution -/

namespace Specifier

def resolveFrom (A : TypeAlgebra τ σ) (types : Table String τ) (sign : Signedness) :
    List Specifier → σ
  | [] => A.sign sign
  | .sign s :: rest => resolveFrom A types s rest
  | .builtin kind :: _ => A.builtin kind sign
  | .typedefName name :: _ => A.aliasName types name
  | _ :: _ => A.void

def resolve (A : TypeAlgebra τ σ) (types : Table String τ) (specifiers : List Specifier) : σ :=
  resolveFrom A types .plain specifiers

end Specifier

mutual

def Declaration.resolve (A : TypeAlgebra τ σ) (types : Table String τ) : Declaration → σ
  | ⟨specifiers, [], _, _, _⟩ => Specifier.resolve A types specifiers
  | ⟨specifiers, d :: _, _, _, _⟩ => d.resolveOver A types (Specifier.resolve A types specifiers)

def Declarator.resolveOver (A : TypeAlgebra τ σ) (types : Table String τ) (base : σ) :
    Declarator → σ
  | ⟨_, chain⟩ => Derivation.resolve A types base chain

def Derivation.resolve (A : TypeAlgebra τ σ) (types : Table String τ) (base : σ) :
    List Derivation → σ
  | [] => base
  | .pointer :: .function parameters isVariadic :: rest =>
    Derivation.resolve A types (A.functionBase base) (.function parameters isVariadic :: rest)
  | [.pointer] => A.endPointer base
  | .pointer :: rest => A.wrapPointer (Derivation.resolve A types base rest)
  | .array _ :: rest => A.wrapArray (Derivation.resolve A types base rest)
  | .function parameters _ :: _ => A.wrapFunction (resolveArguments A types parameters) base

def resolveArguments (A : TypeAlgebra τ σ) (types : Table String τ) : List Declaration → List τ
  | [] => []
  | p :: rest =>
    match A.type? (p.resolve A types) with
    | none => resolveArguments A types rest
    | some t => t :: resolveArguments A types rest

end

def resolveChain (A : TypeAlgebra τ σ) (types : Table String τ) (specifiers : List Specifier)
    (chain : List Derivation) : σ :=
  Derivation.resolve A types (Specifier.resolve A types specifiers) chain

/-! ## Text -/

namespace Dialect

/-- The operations of a dialect; the empty text is void. -/
def algebra (dialect : Dialect) : TypeAlgebra String String where
  void := ""
  builtin := dialect.builtinName
  sign := dialect.signName
  aliasName types := dialect.aliasName ⟨types⟩
  functionBase := dialect.functionBase
  endPointer := dialect.endPointer
  wrapPointer := dialect.wrapPointer
  wrapArray := dialect.wrapArray
  wrapFunction := dialect.wrapFunction
  type? s := if s = "" then none else some s

end Dialect

section Text

variable (dialect : Dialect) (types : TypeTable)

theorem Specifier.resolve_text (specifiers : List Specifier) :
    Specifier.resolve dialect.algebra types.entries specifiers
      = Specifier.signature dialect types specifiers := by
  suffices h : ∀ sign, resolveFrom dialect.algebra types.entries sign specifiers
      = signatureFrom dialect types sign specifiers from h .plain
  induction specifiers with
  | nil => exact fun _ => rfl
  | cons s rest ih =>
    intro sign
    cases s with
    | sign s => exact ih s
    | _ => rfl

mutual

theorem Declaration.resolve_text :
    ∀ d : Declaration, d.resolve dialect.algebra types.entries = d.signature dialect types
  | ⟨specifiers, [], _, _, _⟩ => by
    rw [Declaration.resolve, Declaration.signature]
    exact Specifier.resolve_text dialect types specifiers
  | ⟨specifiers, ⟨_, chain⟩ :: _, _, _, _⟩ => by
    rw [Declaration.resolve, Declaration.signature, Declarator.resolveOver,
      Declarator.signatureOver, Specifier.resolve_text]
    exact Derivation.resolve_text _ chain

theorem Derivation.resolve_text (base : String) : ∀ chain : List Derivation,
    Derivation.resolve dialect.algebra types.entries base chain
      = Derivation.signature dialect types base chain
  | [] => by rw [Derivation.resolve, Derivation.signature]
  | [.pointer] => by rw [Derivation.resolve, Derivation.signature]; rfl
  | .pointer :: .function parameters _ :: _ => by
    rw [Derivation.resolve, Derivation.signature, Derivation.resolve, Derivation.signature,
      resolveArguments_text parameters]
    rfl
  | .pointer :: .pointer :: rest => by
    have ih := Derivation.resolve_text base (.pointer :: rest)
    simp only [Derivation.resolve, Derivation.signature, ih]
    rfl
  | .pointer :: .array n :: rest => by
    have ih := Derivation.resolve_text base (.array n :: rest)
    simp only [Derivation.resolve, Derivation.signature] at ih ⊢
    rw [ih]
    rfl
  | .array _ :: rest => by
    rw [Derivation.resolve, Derivation.signature, Derivation.resolve_text base rest]
    rfl
  | .function parameters _ :: _ => by
    rw [Derivation.resolve, Derivation.signature, resolveArguments_text parameters]
    rfl

theorem resolveArguments_text : ∀ ps : List Declaration,
    resolveArguments dialect.algebra types.entries ps = argumentSignatures dialect types ps
  | [] => by rw [resolveArguments, argumentSignatures]
  | p :: rest => by
    rw [resolveArguments, argumentSignatures, Declaration.resolve_text p,
      resolveArguments_text rest]
    by_cases h : p.signature dialect types = "" <;> simp [Dialect.algebra, h]

end

theorem resolveChain_text (specifiers : List Specifier) (chain : List Derivation) :
    resolveChain dialect.algebra types.entries specifiers chain
      = chainSignature dialect types specifiers chain := by
  rw [resolveChain, chainSignature, Specifier.resolve_text, Derivation.resolve_text]

end Text

/-! ## Related algebras -/

/-- The operations keep `S` on signatures, and signatures in `S` are both void or types in `T`. -/
structure TypeAlgebra.Related (A : TypeAlgebra τ σ) (B : TypeAlgebra τ' σ') (T : τ → τ' → Prop)
    (S : σ → σ' → Prop) : Prop where
  void : S A.void B.void
  builtin : ∀ kind sign, S (A.builtin kind sign) (B.builtin kind sign)
  sign : ∀ sign, S (A.sign sign) (B.sign sign)
  functionBase : ∀ {a b}, S a b → S (A.functionBase a) (B.functionBase b)
  endPointer : ∀ {a b}, S a b → S (A.endPointer a) (B.endPointer b)
  wrapPointer : ∀ {a b}, S a b → S (A.wrapPointer a) (B.wrapPointer b)
  wrapArray : ∀ {a b}, S a b → S (A.wrapArray a) (B.wrapArray b)
  wrapFunction : ∀ {ps qs a b}, List.Forall₂ T ps qs → S a b →
    S (A.wrapFunction ps a) (B.wrapFunction qs b)
  type? : ∀ {a b}, S a b → Option.Rel T (A.type? a) (B.type? b)

section Related

variable {A : TypeAlgebra τ σ} {B : TypeAlgebra τ' σ'} {T : τ → τ' → Prop} {S : σ → σ' → Prop}
variable (h : A.Related B T S) {ts : Table String τ} {us : Table String τ'}

include h

theorem Specifier.resolve_related (specifiers : List Specifier)
    (ha : ∀ n ∈ specifierAliases specifiers, S (A.aliasName ts n) (B.aliasName us n)) :
    S (resolve A ts specifiers) (resolve B us specifiers) := by
  suffices hs : ∀ sign, S (resolveFrom A ts sign specifiers) (resolveFrom B us sign specifiers)
    from hs .plain
  induction specifiers with
  | nil => exact h.sign
  | cons s rest ih =>
    intro sign
    have hrest := fun n hn => ha n (List.mem_append_right _ hn)
    cases s with
    | sign s => exact ih hrest s
    | builtin kind => exact h.builtin kind sign
    | typedefName n => exact ha n (List.mem_append_left _ (List.mem_singleton_self n))
    | _ => exact h.void

mutual

theorem Declaration.resolve_related : ∀ d : Declaration,
    (∀ n ∈ d.aliases, S (A.aliasName ts n) (B.aliasName us n)) → S (d.resolve A ts) (d.resolve B us)
  | ⟨specifiers, [], _, _, _⟩, ha => by
    rw [Declaration.resolve, Declaration.resolve]
    exact Specifier.resolve_related h specifiers fun n hn => ha n (List.mem_append_left _ hn)
  | ⟨specifiers, ⟨_, chain⟩ :: ds, _, _, _⟩, ha => by
    simp only [Declaration.aliases, declaratorAliases, Declarator.aliases, List.mem_append] at ha
    rw [Declaration.resolve, Declaration.resolve, Declarator.resolveOver, Declarator.resolveOver]
    refine Derivation.resolve_related chain (fun n hn => ha n (.inr (.inl hn))) ?_
    exact Specifier.resolve_related h specifiers fun n hn => ha n (.inl hn)

theorem Derivation.resolve_related {a : σ} {b : σ'} : ∀ chain : List Derivation,
    (∀ n ∈ chainAliases chain, S (A.aliasName ts n) (B.aliasName us n)) → S a b →
      S (Derivation.resolve A ts a chain) (Derivation.resolve B us b chain)
  | [], _, hab => by rwa [Derivation.resolve, Derivation.resolve]
  | [.pointer], _, hab => by
    rw [Derivation.resolve, Derivation.resolve]
    exact h.endPointer hab
  | .pointer :: .function parameters _ :: rest, ha, hab => by
    simp only [chainAliases, Derivation.aliases, List.nil_append, List.mem_append] at ha
    rw [Derivation.resolve, Derivation.resolve, Derivation.resolve, Derivation.resolve]
    exact h.wrapFunction (resolveArguments_related parameters fun n hn => ha n (.inl hn))
      (h.functionBase hab)
  | .pointer :: .pointer :: rest, ha, hab => by
    have ih := Derivation.resolve_related (.pointer :: rest)
      (fun n hn => ha n (List.mem_append_right _ hn)) hab
    simpa only [Derivation.resolve] using h.wrapPointer ih
  | .pointer :: .array n :: rest, ha, hab => by
    have ih := Derivation.resolve_related (.array n :: rest)
      (fun n hn => ha n (List.mem_append_right _ hn)) hab
    simpa only [Derivation.resolve] using h.wrapPointer ih
  | .array _ :: rest, ha, hab => by
    rw [Derivation.resolve, Derivation.resolve]
    exact h.wrapArray (Derivation.resolve_related rest
      (fun n hn => ha n (List.mem_append_right _ hn)) hab)
  | .function parameters _ :: rest, ha, hab => by
    rw [Derivation.resolve, Derivation.resolve]
    exact h.wrapFunction (resolveArguments_related parameters
      fun n hn => ha n (List.mem_append_left _ hn)) hab

theorem resolveArguments_related : ∀ ps : List Declaration,
    (∀ n ∈ declarationAliases ps, S (A.aliasName ts n) (B.aliasName us n)) →
      List.Forall₂ T (resolveArguments A ts ps) (resolveArguments B us ps)
  | [], _ => by
    rw [resolveArguments, resolveArguments]
    exact .nil
  | p :: rest, ha => by
    have hp := Declaration.resolve_related p fun n hn => ha n (List.mem_append_left _ hn)
    have hrest := resolveArguments_related rest fun n hn => ha n (List.mem_append_right _ hn)
    have ht := h.type? hp
    rw [resolveArguments, resolveArguments]
    revert ht
    cases A.type? (p.resolve A ts) <;> cases B.type? (p.resolve B us) <;> intro ht <;> cases ht
    case none.none => exact hrest
    case some.some ht => exact .cons ht hrest

end

theorem resolveChain_related (specifiers : List Specifier) (chain : List Derivation)
    (ha : ∀ n ∈ specifierAliases specifiers ++ chainAliases chain,
      S (A.aliasName ts n) (B.aliasName us n)) :
    S (resolveChain A ts specifiers chain) (resolveChain B us specifiers chain) :=
  Derivation.resolve_related h chain (fun n hn => ha n (List.mem_append_right _ hn))
    (Specifier.resolve_related h specifiers fun n hn => ha n (List.mem_append_left _ hn))

end Related

end HeaderBindings
