/-
  Respelling.  A rewriting of keyword sequences is applied to the arithmetic types of a declaration
  at any depth: in its specifiers, in the members of its records and in the parameters of its
  functions.  The text of the declaration is left out.

  Main statement (`Declaration.signature_respell`): a rewriting that keeps the names of a dialect
  keeps every signature of the dialect.
-/
import HeaderBindings.Proofs.Signature.Chain
import HeaderBindings.Proofs.Signature.Keywords

namespace HeaderBindings

/-! ## Respelled trees -/

section Respell

variable (g : List Keyword → List Keyword)

/-- The rewriting of a specifier sequence that is an arithmetic type; any other stays. -/
def respellKeywords (specifiers : List Specifier) : List Specifier :=
  match Specifier.keywords? specifiers with
  | some ks => if isArithmetic ks then (g ks).map Keyword.specifier else specifiers
  | none => specifiers

mutual

def Specifier.respell : Specifier → Specifier
  | .builtin kind => .builtin kind
  | .sign signedness => .sign signedness
  | .record isUnion tag members => .record isUnion tag (respellDeclarations members)
  | .recordRef isUnion tag => .recordRef isUnion tag
  | .enumeration tag enumerators => .enumeration tag enumerators
  | .enumerationRef tag => .enumerationRef tag
  | .typedefName name => .typedefName name
  | .typeOf text => .typeOf text

def respellSpecifiers : List Specifier → List Specifier
  | [] => []
  | s :: rest => s.respell :: respellSpecifiers rest

def Derivation.respell : Derivation → Derivation
  | .pointer => .pointer
  | .array length => .array length
  | .function parameters isVariadic => .function (respellDeclarations parameters) isVariadic

def respellChain : List Derivation → List Derivation
  | [] => []
  | d :: rest => d.respell :: respellChain rest

def Declarator.respell : Declarator → Declarator
  | ⟨name, chain⟩ => ⟨name, respellChain chain⟩

def respellDeclarators : List Declarator → List Declarator
  | [] => []
  | d :: rest => d.respell :: respellDeclarators rest

def Declaration.respell : Declaration → Declaration
  | ⟨specifiers, declarators, isTypedef, location, _⟩ =>
    ⟨respellKeywords g (respellSpecifiers specifiers), respellDeclarators declarators, isTypedef,
      location, ""⟩

def respellDeclarations : List Declaration → List Declaration
  | [] => []
  | d :: rest => d.respell :: respellDeclarations rest

end

/-- A specifier sequence with its members and its own keywords respelled. -/
def respellSequence (specifiers : List Specifier) : List Specifier :=
  respellKeywords g (respellSpecifiers g specifiers)

def FunctionDefinition.respell (f : FunctionDefinition) : FunctionDefinition where
  specifiers := respellSequence g f.specifiers
  declarator := f.declarator.respell g
  location := f.location

def Node.respell : Node → Node
  | .declaration d => .declaration (d.respell g)
  | .definition f => .definition (f.respell g)
  | .assembly location text => .assembly location text

end Respell

/-! ## Parts of a respelled tree -/

section Parts

variable {g : List Keyword → List Keyword}

/-- What the members of a sequence keep, and the rewriting keeps on arithmetic types, the respelled
sequence has. -/
theorem respellSequence_keeps {α : Type} {F : List Specifier → α} {specifiers : List Specifier}
    (hmembers : F (respellSpecifiers g specifiers) = F specifiers)
    (hkeywords : ∀ ks, isArithmetic ks = true →
      F ((g ks).map Keyword.specifier) = F (ks.map Keyword.specifier)) :
    F (respellSequence g specifiers) = F specifiers := by
  rw [respellSequence, ← hmembers]
  unfold respellKeywords
  split
  · rename_i ks hks
    split
    · rename_i harithmetic
      rw [hkeywords ks harithmetic, Specifier.eq_of_keywords? hks]
    · rfl
  · rfl

theorem respellSpecifiers_eq_map (specifiers : List Specifier) :
    respellSpecifiers g specifiers = specifiers.map (Specifier.respell g) := by
  induction specifiers with
  | nil => rw [respellSpecifiers, List.map_nil]
  | cons s rest ih => rw [respellSpecifiers, List.map_cons, ih]

theorem respellChain_eq_map (chain : List Derivation) :
    respellChain g chain = chain.map (Derivation.respell g) := by
  induction chain with
  | nil => rw [respellChain, List.map_nil]
  | cons d rest ih => rw [respellChain, List.map_cons, ih]

theorem respellDeclarators_eq_map (declarators : List Declarator) :
    respellDeclarators g declarators = declarators.map (Declarator.respell g) := by
  induction declarators with
  | nil => rw [respellDeclarators, List.map_nil]
  | cons d rest ih => rw [respellDeclarators, List.map_cons, ih]

theorem respellDeclarations_eq_map (ds : List Declaration) :
    respellDeclarations g ds = ds.map (Declaration.respell g) := by
  induction ds with
  | nil => rw [respellDeclarations, List.map_nil]
  | cons d rest ih => rw [respellDeclarations, List.map_cons, ih]

theorem Derivation.isFunction_respell (d : Derivation) :
    (d.respell g).isFunction = d.isFunction := by
  cases d with
  | function parameters isVariadic => rw [respell]; rfl
  | pointer | array => rw [respell]

theorem Derivation.startsWithFunction_respell (chain : List Derivation) :
    StartsWithFunction (respellChain g chain) ↔ StartsWithFunction chain := by
  cases chain with
  | nil => rw [respellChain]
  | cons d rest =>
    rw [respellChain]
    simp [StartsWithFunction, isFunction_respell]

theorem Declarator.respell_name (d : Declarator) : (d.respell g).name = d.name := by
  obtain ⟨name, chain⟩ := d
  rw [respell]

theorem Declarator.respell_chain (d : Declarator) :
    (d.respell g).chain = respellChain g d.chain := by
  obtain ⟨name, chain⟩ := d
  rw [respell]

theorem Declaration.respell_eq (d : Declaration) :
    d.respell g = { d with
      specifiers := respellSequence g d.specifiers
      declarators := d.declarators.map (Declarator.respell g)
      text := "" } := by
  obtain ⟨specifiers, declarators, isTypedef, location, text⟩ := d
  rw [respell, respellDeclarators_eq_map, respellSequence]

end Parts

/-! ## Signatures -/

/-- The rewriting keeps the names that a dialect gives, and adds no base keyword. -/
structure KeepsNames (dialect : Dialect) (g : List Keyword → List Keyword) : Prop where
  name : ∀ ks, keywordName dialect (g ks) = keywordName dialect ks
  base : ∀ ks kind, .base kind ∈ g ks → .base kind ∈ ks

section Signature

variable {dialect : Dialect} {g : List Keyword → List Keyword}

theorem Specifier.signature_respell (h : KeepsNames dialect g) (types : TypeTable)
    (specifiers : List Specifier) :
    signature dialect types (respellSequence g specifiers)
      = signature dialect types specifiers := by
  refine respellSequence_keeps (F := signature dialect types) ?_ fun ks _ => ?_
  · suffices hfrom : ∀ sign, signatureFrom dialect types sign (respellSpecifiers g specifiers)
        = signatureFrom dialect types sign specifiers from hfrom .plain
    induction specifiers with
    | nil => exact fun _ => by rw [respellSpecifiers]
    | cons s rest ih =>
      intro sign
      rw [respellSpecifiers]
      cases s with
      | sign s => rw [Specifier.respell]; exact ih s
      | _ => rw [Specifier.respell]; rfl
  · rw [signature_keywords, h.name, signature_keywords]

/-- A pointer looks one step ahead; over a chain that is no function it wraps the respelled chain. -/
theorem Derivation.signature_respell_pointer {types : TypeTable} {base : String}
    {chain : List Derivation} (hne : chain ≠ []) (hchain : ¬ StartsWithFunction chain)
    (ih : signature dialect types base (respellChain g chain)
      = signature dialect types base chain) :
    signature dialect types base (respellChain g (.pointer :: chain))
      = signature dialect types base (.pointer :: chain) := by
  have hne' : respellChain g chain ≠ [] := by
    rw [respellChain_eq_map]
    exact fun h => hne (List.map_eq_nil_iff.mp h)
  have hchain' : ¬ StartsWithFunction (respellChain g chain) := by
    rwa [startsWithFunction_respell]
  rw [respellChain, respell, signature_pointer_cons _ _ _ hne' hchain', ih,
    signature_pointer_cons _ _ _ hne hchain]

mutual

theorem Declaration.signature_respell (h : KeepsNames dialect g) (types : TypeTable) :
    ∀ d : Declaration, (d.respell g).signature dialect types = d.signature dialect types
  | ⟨specifiers, [], _, _, _⟩ => by
    rw [Declaration.respell, respellDeclarators, Declaration.signature, Declaration.signature]
    exact Specifier.signature_respell h types specifiers
  | ⟨specifiers, ⟨_, chain⟩ :: _, _, _, _⟩ => by
    rw [Declaration.respell, respellDeclarators, Declarator.respell, Declaration.signature,
      Declaration.signature, Declarator.signatureOver, Declarator.signatureOver,
      ← respellSequence, Specifier.signature_respell h types specifiers]
    exact Derivation.signature_respell h types _ chain

theorem Derivation.signature_respell (h : KeepsNames dialect g) (types : TypeTable)
    (base : String) : ∀ chain : List Derivation,
    Derivation.signature dialect types base (respellChain g chain)
      = Derivation.signature dialect types base chain
  | [] => by rw [respellChain]
  | [.pointer] => by simp only [respellChain, Derivation.respell]
  | .pointer :: .function parameters _ :: _ => by
    simp only [respellChain, Derivation.respell, Derivation.signature_pointer_function,
      argumentSignatures_respell h types parameters]
  | .pointer :: .pointer :: rest =>
    Derivation.signature_respell_pointer (List.cons_ne_nil _ _) (by rintro ⟨f, ⟨⟩, ⟨⟩⟩)
      (Derivation.signature_respell h types base (.pointer :: rest))
  | .pointer :: .array n :: rest =>
    Derivation.signature_respell_pointer (List.cons_ne_nil _ _) (by rintro ⟨f, ⟨⟩, ⟨⟩⟩)
      (Derivation.signature_respell h types base (.array n :: rest))
  | .array _ :: rest => by
    simp only [respellChain, Derivation.respell, Derivation.signature_array,
      Derivation.signature_respell h types base rest]
  | .function parameters _ :: _ => by
    simp only [respellChain, Derivation.respell, Derivation.signature_function,
      argumentSignatures_respell h types parameters]

theorem argumentSignatures_respell (h : KeepsNames dialect g) (types : TypeTable) :
    ∀ ps : List Declaration, argumentSignatures dialect types (respellDeclarations g ps)
      = argumentSignatures dialect types ps
  | [] => by rw [respellDeclarations]
  | p :: rest => by
    rw [respellDeclarations, argumentSignatures, argumentSignatures,
      Declaration.signature_respell h types p, argumentSignatures_respell h types rest]

end

theorem chainSignature_respell (h : KeepsNames dialect g) (types : TypeTable)
    (specifiers : List Specifier) (chain : List Derivation) :
    chainSignature dialect types (respellSequence g specifiers) (respellChain g chain)
      = chainSignature dialect types specifiers chain := by
  rw [chainSignature, chainSignature, Specifier.signature_respell h,
    Derivation.signature_respell h]

end Signature

end HeaderBindings
