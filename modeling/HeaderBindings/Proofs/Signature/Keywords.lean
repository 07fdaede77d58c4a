/-
  The keywords of arithmetic types.  C reads them in any order; a signature is decided by the first
  base keyword and the sign keyword that stands last before it, the leading keywords.

  Main statement (`keywordName_eq_iff`): among the orders of one arithmetic type, a signature changes
  exactly if its leading keywords do.
-/
import HeaderBindings.Signature
import Mathlib.Data.List.Permutation

namespace HeaderBindings

inductive Keyword where
  | base (kind : BaseKind)
  | sign (signedness : Signedness)
  deriving DecidableEq, Repr

def Keyword.specifier : Keyword → Specifier
  | base kind => .builtin kind
  | sign signedness => .sign signedness

/-- The keywords that a specifier sequence consists of, if it has nothing else. -/
def Specifier.keywords? : List Specifier → Option (List Keyword)
  | [] => some []
  | .builtin kind :: rest => (keywords? rest).map (.base kind :: ·)
  | .sign signedness :: rest => (keywords? rest).map (.sign signedness :: ·)
  | _ :: _ => none

theorem Specifier.eq_of_keywords? {specifiers : List Specifier} {ks : List Keyword}
    (h : keywords? specifiers = some ks) : specifiers = ks.map Keyword.specifier := by
  induction specifiers generalizing ks with
  | nil =>
    obtain rfl : [] = ks := Option.some.inj h
    rfl
  | cons s rest ih =>
    cases s with
    | builtin | sign =>
      obtain ⟨ks', hrest, rfl⟩ := Option.map_eq_some_iff.mp h
      rw [ih hrest]
      rfl
    | record | recordRef | enumeration | enumerationRef | typedefName | typeOf => cases h

/-! ## Arithmetic types -/

/-- The sequences that name an arithmetic type, each in one of its orders. -/
def arithmeticTypes : List (List Keyword) :=
  let signed := Keyword.sign .signed
  let unsigned := Keyword.sign .unsigned
  let char := Keyword.base .char
  let short := Keyword.base .short
  let int := Keyword.base .int
  let long := Keyword.base .long
  let float := Keyword.base .float
  let double := Keyword.base .double
  let complex := Keyword.base .complex
  [ [char], [signed, char], [unsigned, char],
    [short], [signed, short], [short, int], [signed, short, int],
    [unsigned, short], [unsigned, short, int],
    [int], [signed], [signed, int],
    [unsigned], [unsigned, int],
    [long], [signed, long], [long, int], [signed, long, int],
    [unsigned, long], [unsigned, long, int],
    [long, long], [signed, long, long], [long, long, int], [signed, long, long, int],
    [unsigned, long, long], [unsigned, long, long, int],
    [float], [double], [long, double], [.base .bool],
    [float, complex], [double, complex], [long, double, complex] ]

/-- The keywords name an arithmetic type, in whatever order. -/
def isArithmetic (ks : List Keyword) : Bool := arithmeticTypes.any (·.isPerm ks)

theorem isArithmetic_iff {ks : List Keyword} :
    isArithmetic ks = true ↔ ∃ t ∈ arithmeticTypes, t.Perm ks := by
  simp [isArithmetic, List.isPerm_iff]

theorem void_not_mem_of_isArithmetic {ks : List Keyword} (h : isArithmetic ks = true) :
    .base .void ∉ ks := by
  obtain ⟨t, ht, hperm⟩ := isArithmetic_iff.mp h
  have hvoid : ∀ t ∈ arithmeticTypes, Keyword.base .void ∉ t := by decide
  exact fun hmem => hvoid t ht (hperm.mem_iff.mpr hmem)

/-! ## Leading keywords -/

/-- The first base keyword and the sign in force there, as `f` reads it; the sign alone if there is
no base keyword. -/
def leadingFrom (f : BaseKind → Signedness → Signedness) (sign : Signedness) :
    List Keyword → List Keyword
  | [] => [.sign sign]
  | .sign s :: rest => leadingFrom f s rest
  | .base kind :: _ => [.sign (f kind sign), .base kind]

def leading (f : BaseKind → Signedness → Signedness) (ks : List Keyword) : List Keyword :=
  leadingFrom f .plain ks

/-- A sign as the bindings read it: only `char` tells `signed` from no sign. -/
def bindingSignedness : BaseKind → Signedness → Signedness
  | .char, sign => sign
  | _, .signed => .plain
  | _, sign => sign

/-- A sign as plain C reads it. -/
def cSignedness (_ : BaseKind) (sign : Signedness) : Signedness := sign

theorem base_mem_of_mem_leading {f : BaseKind → Signedness → Signedness} {ks : List Keyword}
    {kind : BaseKind} (h : .base kind ∈ leading f ks) : .base kind ∈ ks := by
  suffices hfrom : ∀ sign, .base kind ∈ leadingFrom f sign ks → .base kind ∈ ks from hfrom .plain h
  clear h
  induction ks with
  | nil => simp [leadingFrom]
  | cons k rest ih =>
    intro sign h
    cases k with
    | sign s => exact List.mem_cons_of_mem _ (ih s h)
    | base kind' =>
      obtain rfl : kind = kind' := by simpa [leadingFrom] using h
      exact List.mem_cons_self

/-! ## Names -/

/-- The name of a keyword sequence; no alias stands in it. -/
def keywordName (dialect : Dialect) (ks : List Keyword) : String :=
  Specifier.signature dialect {} (ks.map Keyword.specifier)

theorem signature_keywords (dialect : Dialect) (types : TypeTable) (ks : List Keyword) :
    Specifier.signature dialect types (ks.map Keyword.specifier) = keywordName dialect ks := by
  suffices h : ∀ sign, Specifier.signatureFrom dialect types sign (ks.map Keyword.specifier)
      = Specifier.signatureFrom dialect {} sign (ks.map Keyword.specifier) from h .plain
  induction ks with
  | nil => exact fun _ => rfl
  | cons k rest ih =>
    intro sign
    cases k with
    | sign s => exact ih s
    | base kind => rfl

theorem keywordName_leading {dialect : Dialect} {f : BaseKind → Signedness → Signedness}
    (hf : ∀ kind sign, dialect.builtinName kind (f kind sign) = dialect.builtinName kind sign)
    (ks : List Keyword) : keywordName dialect (leading f ks) = keywordName dialect ks := by
  suffices h : ∀ sign,
      Specifier.signature dialect {} ((leadingFrom f sign ks).map Keyword.specifier)
        = Specifier.signatureFrom dialect {} sign (ks.map Keyword.specifier) from h .plain
  induction ks with
  | nil => exact fun _ => rfl
  | cons k rest ih =>
    intro sign
    cases k with
    | sign s => exact ih s
    | base kind => exact hf kind sign

theorem bindingBuiltin_bindingSignedness (kind : BaseKind) (sign : Signedness) :
    Dialect.bindingBuiltin kind (bindingSignedness kind sign)
      = Dialect.bindingBuiltin kind sign := by
  cases kind <;> cases sign <;> rfl

/-- The orders of each arithmetic type, compared pair by pair. -/
theorem leading_eq_of_keywordName_eq :
    ∀ t ∈ arithmeticTypes, ∀ ks ∈ t.permutations', ∀ ks' ∈ t.permutations',
      (keywordName .binding ks = keywordName .binding ks' →
        leading bindingSignedness ks = leading bindingSignedness ks') ∧
      (keywordName .c ks = keywordName .c ks' →
        leading cSignedness ks = leading cSignedness ks') := by
  decide +kernel

/-- A reordering of an arithmetic type keeps its name in the bindings, or in plain C, exactly if it
keeps the leading keywords as these read them. -/
theorem keywordName_eq_iff {ks ks' : List Keyword} (h : isArithmetic ks = true)
    (hperm : ks.Perm ks') :
    (keywordName .binding ks = keywordName .binding ks'
      ↔ leading bindingSignedness ks = leading bindingSignedness ks') ∧
    (keywordName .c ks = keywordName .c ks'
      ↔ leading cSignedness ks = leading cSignedness ks') := by
  obtain ⟨t, ht, htks⟩ := isArithmetic_iff.mp h
  have hleading := leading_eq_of_keywordName_eq t ht ks (List.mem_permutations'.mpr htks.symm)
    ks' (List.mem_permutations'.mpr (htks.trans hperm).symm)
  refine ⟨⟨hleading.1, fun heq => ?_⟩, ⟨hleading.2, fun heq => ?_⟩⟩
  · rw [← keywordName_leading bindingBuiltin_bindingSignedness ks, heq,
      keywordName_leading bindingBuiltin_bindingSignedness ks']
  · have hc : ∀ kind sign, Dialect.c.builtinName kind (cSignedness kind sign)
        = Dialect.c.builtinName kind sign := fun _ _ => rfl
    rw [← keywordName_leading hc ks, heq, keywordName_leading hc ks']

end HeaderBindings
