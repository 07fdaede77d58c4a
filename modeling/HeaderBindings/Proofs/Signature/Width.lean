/-
  The widths of types in plain C.  A macro reads its arguments off a text, split at the commas, and
  a function type is printed as a list with commas; so a type takes up as many arguments as its text
  has parts, and none if the text is empty.

  Main statements: `widthAlgebra` counts the arguments by the recursion of the signatures
  (`argumentCount_chainSignature`), and a type without a function takes up one argument, unless it
  has no name (`Declaration.width_of_isFlat`).
-/
import Mathlib.Algebra.GroupWithZero.Nat
import HeaderBindings.C.Ident
import HeaderBindings.Proofs.Signature.Algebra
import HeaderBindings.Proofs.Signature.Silent

namespace HeaderBindings

/-! ## Arguments in a text -/

/-- How many arguments a macro reads in a text: commas separate them, and no text is none. -/
def argumentCount (text : String) : Nat := if text = "" then 0 else text.toList.count ',' + 1

theorem argumentCount_eq_zero_iff {text : String} : argumentCount text = 0 ↔ text = "" := by
  unfold argumentCount
  by_cases h : text = "" <;> simp [h]

theorem argumentCount_of_ne_empty {text : String} (h : text ≠ "") :
    argumentCount text = text.toList.count ',' + 1 := if_neg h

/-- An ending without a comma adds no argument, except to no text. -/
theorem argumentCount_append (text : String) {ending : String} (hne : ending ≠ "")
    (hcomma : ',' ∉ ending.toList) :
    argumentCount (text ++ ending) = max (argumentCount text) 1 := by
  have hcount : ending.toList.count ',' = 0 := List.count_eq_zero.mpr hcomma
  by_cases htext : text = ""
  · rw [htext, String.empty_append, argumentCount_of_ne_empty hne, hcount]
    rfl
  · have happend : text ++ ending ≠ "" := by simp [htext]
    rw [argumentCount_of_ne_empty happend, argumentCount_of_ne_empty htext, String.toList_append,
      List.count_append, hcount]
    omega

theorem argumentCount_comma {s t : String} (hs : s ≠ "") (ht : t ≠ "") :
    argumentCount (s ++ ", " ++ t) = argumentCount s + argumentCount t := by
  have happend : s ++ ", " ++ t ≠ "" := by simp
  rw [argumentCount_of_ne_empty happend, argumentCount_of_ne_empty hs, argumentCount_of_ne_empty ht,
    String.toList_append, String.toList_append, List.count_append, List.count_append,
    show ", ".toList.count ',' = 1 from rfl]
  omega

theorem intercalate_ne_empty {parts : List String} (hne : parts ≠ [])
    (hparts : ∀ part ∈ parts, part ≠ "") : ", ".intercalate parts ≠ "" := by
  cases parts with
  | nil => exact absurd rfl hne
  | cons part rest =>
    by_cases hrest : rest = []
    · rw [hrest, String.intercalate_singleton]
      exact hparts part List.mem_cons_self
    · rw [String.intercalate_cons_of_ne_nil hrest]
      simp

/-- The arguments of a list that skips empty texts are those of its parts. -/
theorem argumentCount_intercalate (parts : List String) :
    argumentCount (", ".intercalate (parts.filter (· ≠ ""))) = (parts.map argumentCount).sum := by
  induction parts with
  | nil => rfl
  | cons part rest ih =>
    rw [List.map_cons, List.sum_cons, ← ih, List.filter_cons]
    by_cases hpart : part = ""
    · simp [hpart, argumentCount]
    · rw [if_pos (decide_eq_true hpart)]
      by_cases hrest : rest.filter (· ≠ "") = []
      · rw [hrest, String.intercalate_singleton, String.intercalate_nil]
        rfl
      · have htail := intercalate_ne_empty hrest fun part h =>
          of_decide_eq_true (List.mem_filter.mp h).2
        rw [String.intercalate_cons_of_ne_nil hrest, argumentCount_comma hpart htail]

theorem argumentCount_identifier {name : String} (h : C.isIdentifier name.toList = true) :
    argumentCount name = 1 := by
  have hne : name ≠ "" := by
    rintro rfl
    cases h
  have hcomma : ',' ∉ name.toList := by
    intro hmem
    have hrest := C.Ident.isIdentRest_of_mem ⟨name.toList, h⟩ hmem
    revert hrest
    decide
  rw [argumentCount_of_ne_empty hne, List.count_eq_zero.mpr hcomma]

/-! ## The count of a type -/

/-- The operations of plain C on numbers of arguments. -/
def widthAlgebra : TypeAlgebra Nat Nat where
  void := 0
  builtin kind _ := if kind = .void ∨ kind = .complex then 0 else 1
  sign s := if s = .plain then 0 else 1
  aliasName _ name := argumentCount name
  functionBase width := max width 1
  endPointer width := max width 1
  wrapPointer width := max width 1
  wrapArray width := max width 1
  wrapFunction arguments result := arguments.sum + result
  type? width := if width = 0 then none else some width

/-- The text has this width. -/
def HasWidth (text : String) (width : Nat) : Prop := argumentCount text = width

theorem c_related : Dialect.c.algebra.Related widthAlgebra HasWidth HasWidth where
  void := rfl
  builtin kind sign := by cases kind <;> cases sign <;> rfl
  sign s := by cases s <;> rfl
  functionBase h := by
    rw [HasWidth, ← show _ = _ from h]
    exact argumentCount_append _ (by decide) (by decide)
  endPointer := by
    rintro text _ rfl
    change argumentCount (if text = "" then _ else _) = _
    by_cases ht : text = ""
    · rw [if_pos ht, ht]
      rfl
    · rw [if_neg ht]
      exact argumentCount_append _ (by decide) (by decide)
  wrapPointer h := by
    rw [HasWidth, ← show _ = _ from h]
    exact argumentCount_append _ (by decide) (by decide)
  wrapArray h := by
    rw [HasWidth, ← show _ = _ from h]
    exact argumentCount_append _ (by decide) (by decide)
  wrapFunction := by
    rintro arguments widths text _ h rfl
    have hwidths : arguments.map argumentCount = widths := by
      rw [← List.forall₂_eq_eq_eq, List.forall₂_map_left_iff]
      exact h
    refine (argumentCount_intercalate _).trans ?_
    rw [List.map_append, List.sum_append, hwidths, List.map_singleton, List.sum_singleton]
    rfl
  type? := by
    rintro text _ rfl
    change Option.Rel _ (if text = "" then none else some text)
      (if argumentCount text = 0 then _ else _)
    by_cases ht : text = ""
    · rw [if_pos ht, if_pos (argumentCount_eq_zero_iff.mpr ht)]
      exact .none
    · rw [if_neg ht, if_neg (mt argumentCount_eq_zero_iff.mp ht)]
      exact .some rfl

/-! ## Widths -/

/-- The arguments that a parameter takes up. -/
def Declaration.width (p : Declaration) : Nat := p.resolve widthAlgebra []

/-- The arguments that a chain over a specifier sequence takes up. -/
def chainWidth (specifiers : List Specifier) (chain : List Derivation) : Nat :=
  resolveChain widthAlgebra [] specifiers chain

theorem argumentCount_chainSignature (types : TypeTable) (specifiers : List Specifier)
    (chain : List Derivation) :
    argumentCount (chainSignature .c types specifiers chain) = chainWidth specifiers chain := by
  rw [← resolveChain_text]
  exact resolveChain_related c_related specifiers chain fun _ _ => rfl

theorem sum_resolveArguments (ps : List Declaration) :
    (resolveArguments widthAlgebra [] ps).sum = (ps.map Declaration.width).sum := by
  induction ps with
  | nil => rfl
  | cons p rest ih =>
    rw [resolveArguments, List.map_cons, List.sum_cons, ← ih, Declaration.width]
    by_cases hp : p.resolve widthAlgebra [] = 0
    · rw [show widthAlgebra.type? (p.resolve widthAlgebra []) = none from if_pos hp, hp,
        Nat.zero_add]
    · rw [show widthAlgebra.type? (p.resolve widthAlgebra []) = some _ from if_neg hp,
        List.sum_cons]

/-- A function over a base takes up the arguments of its parameters and of the base. -/
theorem argumentCount_signature_function (types : TypeTable) (base : String)
    (ps : List Declaration) (isVariadic : Bool) (rest : List Derivation) :
    argumentCount (Derivation.signature .c types base (.function ps isVariadic :: rest))
      = (ps.map Declaration.width).sum + argumentCount base := by
  have hwidth : HasWidth
      (Derivation.resolve Dialect.c.algebra types.entries base (.function ps isVariadic :: rest))
      (Derivation.resolve widthAlgebra [] (argumentCount base) (.function ps isVariadic :: rest)) :=
    Derivation.resolve_related c_related _ (fun _ _ => rfl) rfl
  rw [← Derivation.resolve_text, ← sum_resolveArguments, hwidth, Derivation.resolve]
  rfl

/-! ## Types without a function -/

/-- No step of the chain is a function. -/
def IsFlat (chain : List Derivation) : Prop := ∀ d ∈ chain, d.isFunction = false

instance (chain : List Derivation) : Decidable (IsFlat chain) :=
  inferInstanceAs (Decidable (∀ d ∈ chain, d.isFunction = false))

theorem Derivation.resolve_width_of_isFlat (base : Nat) {chain : List Derivation}
    (h : IsFlat chain) :
    resolve widthAlgebra [] base chain = if chain = [] then base else max base 1 := by
  induction chain with
  | nil => rw [resolve, if_pos rfl]
  | cons d rest ih =>
    have ih := ih fun d' hd' => h d' (List.mem_cons_of_mem d hd')
    have hwrap : max (if rest = [] then base else max base 1) 1 = max base 1 := by
      split <;> omega
    rw [if_neg (List.cons_ne_nil d rest), ← hwrap]
    cases d with
    | function => cases h _ List.mem_cons_self
    | array n =>
      rw [resolve, ih]
      rfl
    | pointer =>
      cases rest with
      | nil =>
        rw [resolve]
        rfl
      | cons d rest =>
        rw [← ih]
        cases d with
        | function => cases h _ (List.mem_cons_of_mem _ List.mem_cons_self)
        | pointer | array => simp only [resolve]; rfl

theorem Specifier.resolve_width (sign : Signedness) {specifiers : List Specifier}
    (h : ∀ n ∈ specifierAliases specifiers, C.isIdentifier n.toList = true) :
    resolveFrom widthAlgebra [] sign specifiers
      = if namesNothing sign specifiers = true then 0 else 1 := by
  induction specifiers generalizing sign with
  | nil => cases sign <;> rfl
  | cons s rest ih =>
    cases s with
    | sign s =>
      rw [resolveFrom, namesNothing_sign]
      exact ih s fun n hn => h n (List.mem_append_right _ hn)
    | builtin kind => cases kind <;> rfl
    | typedefName name =>
      have hname := h name (List.mem_append_left _ (List.mem_singleton_self name))
      exact (argumentCount_identifier hname).trans (if_neg Bool.false_ne_true).symm
    | record | recordRef | enumeration | enumerationRef | typeOf => rfl

/-- A chain without a function takes up one argument, but for a base without a name. -/
theorem chainWidth_of_isFlat {specifiers : List Specifier} {chain : List Derivation}
    (hflat : IsFlat chain)
    (h : ∀ n ∈ specifierAliases specifiers, C.isIdentifier n.toList = true) :
    chainWidth specifiers chain
      = if (chain.isEmpty && namesNothing .plain specifiers) = true then 0 else 1 := by
  rw [chainWidth, resolveChain, Specifier.resolve, Specifier.resolve_width .plain h,
    Derivation.resolve_width_of_isFlat _ hflat]
  cases chain with
  | nil => rfl
  | cons d rest => cases namesNothing .plain specifiers <;> rfl

/-- Only a function can take up nothing on top of a base. -/
theorem Derivation.resolve_width_pos (base : Nat) {chain : List Derivation} (hne : chain ≠ [])
    (hchain : ¬ StartsWithFunction chain) : 0 < resolve widthAlgebra [] base chain := by
  have hmax : ∀ width, 0 < max width 1 := by omega
  match chain with
  | [] => exact absurd rfl hne
  | .function parameters isVariadic :: rest => exact absurd ⟨_, rfl, rfl⟩ hchain
  | .array n :: rest =>
    rw [resolve]
    exact hmax _
  | [.pointer] =>
    rw [resolve]
    exact hmax _
  | .pointer :: .function parameters isVariadic :: rest =>
    rw [resolve, resolve]
    exact Nat.add_pos_right _ (hmax base)
  | .pointer :: .pointer :: rest | .pointer :: .array n :: rest =>
    rw [resolve] <;> first | exact hmax _ | simp

/-- A chain that is not headed by a function takes up no argument exactly if it is empty and the
specifiers name nothing. -/
theorem chainWidth_eq_zero_iff {specifiers : List Specifier} {chain : List Derivation}
    (hchain : ¬ Derivation.StartsWithFunction chain)
    (h : ∀ n ∈ specifierAliases specifiers, C.isIdentifier n.toList = true) :
    chainWidth specifiers chain = 0
      ↔ (chain.isEmpty && namesNothing .plain specifiers) = true := by
  rw [chainWidth, resolveChain, Specifier.resolve, Specifier.resolve_width .plain h]
  by_cases hne : chain = []
  · rw [hne, Derivation.resolve]
    cases namesNothing .plain specifiers <;> simp
  · have hpos := Derivation.resolve_width_pos
      (if namesNothing .plain specifiers = true then 0 else 1) hne hchain
    simp [hne, Nat.pos_iff_ne_zero.mp hpos]

/-- A parameter whose type holds no function takes up one argument, unless it is silent. -/
theorem Declaration.width_of_isFlat {p : Declaration}
    (hflat : ∀ d ∈ p.declarators.head?, IsFlat d.chain)
    (h : ∀ n ∈ specifierAliases p.specifiers, C.isIdentifier n.toList = true) :
    p.width = if p.isSilent = true then 0 else 1 := by
  obtain ⟨specifiers, declarators, isTypedef, location, text⟩ := p
  cases declarators with
  | nil =>
    rw [width, resolve]
    exact Specifier.resolve_width .plain h
  | cons d ds =>
    obtain ⟨name, chain⟩ := d
    rw [width, resolve, Declarator.resolveOver]
    refine (chainWidth_of_isFlat (hflat _ rfl) h).trans ?_
    simp [isSilent]

end HeaderBindings
