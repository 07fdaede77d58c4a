/-
  Chains of derivations.  A pointer or an array wraps the signature of the rest of its chain, except
  that a pointer looks one step ahead: at the end of the chain, or before a function, it acts on the
  base.

  Main statements: the steps in front of a chain wrap its signature unless the last of them is a
  pointer that looks into it (`signature_append`), and in the bindings a chain gives a text with a
  blank, but for the pointer to characters (`binding_signature_cases`).
-/
import HeaderBindings.Signature

namespace HeaderBindings.Derivation

/-! ## Steps and ends of a chain -/

def EndsInPointer (chain : List Derivation) : Prop := chain.getLast? = some .pointer

def StartsWithFunction (chain : List Derivation) : Prop := ∃ f ∈ chain.head?, f.isFunction = true

/-- What a pointer or an array does to the signature of the rest of its chain. -/
def wrap (dialect : Dialect) : Derivation → String → String
  | .pointer, inner => dialect.wrapPointer inner
  | .array _, inner => dialect.wrapArray inner
  | .function .., inner => inner

/-- The steps of a chain around a signature, the first one outermost. -/
def wrapAll (dialect : Dialect) (chain : List Derivation) (inner : String) : String :=
  chain.foldr (wrap dialect) inner

theorem endsInPointer_concat (chain : List Derivation) : EndsInPointer (chain ++ [.pointer]) := by
  simp [EndsInPointer]

theorem EndsInPointer.eq_concat {chain : List Derivation} (h : EndsInPointer chain) :
    ∃ front, chain = front ++ [.pointer] := by
  obtain ⟨front, hfront⟩ := List.getLast?_eq_some_iff.mp h
  exact ⟨front, hfront⟩

/-! ## Steps in front of a chain -/

section Signature

variable (dialect : Dialect) (types : TypeTable) (base : String)

theorem signature_nil : signature dialect types base [] = base := by
  rw [signature]

theorem signature_pointer : signature dialect types base [.pointer] = dialect.endPointer base := by
  rw [signature]

theorem signature_array (n : ArrayLength) (rest : List Derivation) :
    signature dialect types base (.array n :: rest)
      = dialect.wrapArray (signature dialect types base rest) := by
  rw [signature]

theorem signature_function (parameters : List Declaration) (isVariadic : Bool)
    (rest : List Derivation) :
    signature dialect types base (.function parameters isVariadic :: rest)
      = dialect.wrapFunction (argumentSignatures dialect types parameters) base := by
  rw [signature]

theorem signature_pointer_function (parameters : List Declaration) (isVariadic : Bool)
    (rest : List Derivation) :
    signature dialect types base (.pointer :: .function parameters isVariadic :: rest)
      = dialect.wrapFunction (argumentSignatures dialect types parameters)
          (dialect.functionBase base) := by
  rw [signature, signature_function]

theorem signature_pointer_cons {rest : List Derivation} (hne : rest ≠ [])
    (hrest : ¬ StartsWithFunction rest) :
    signature dialect types base (.pointer :: rest)
      = dialect.wrapPointer (signature dialect types base rest) := by
  cases rest with
  | nil => exact absurd rfl hne
  | cons d rest =>
    cases d with
    | function => exact absurd ⟨_, rfl, rfl⟩ hrest
    | pointer | array => rw [signature] <;> simp

/-- Steps without a function wrap the signature of what follows them, if their last one is no
pointer or the pointer finds a pointer or an array after it. -/
theorem signature_append {front rest : List Derivation} (hfront : ∀ d ∈ front, d.isFunction = false)
    (hrest : EndsInPointer front → rest ≠ [] ∧ ¬ StartsWithFunction rest) :
    signature dialect types base (front ++ rest)
      = wrapAll dialect front (signature dialect types base rest) := by
  induction front with
  | nil => rfl
  | cons d front ih =>
    have hd := hfront d List.mem_cons_self
    have hfront' := fun d' hd' => hfront d' (List.mem_cons_of_mem d hd')
    have ih := ih hfront' fun h => hrest (by
      obtain ⟨front', rfl⟩ := h.eq_concat
      exact endsInPointer_concat (d :: front'))
    cases d with
    | array n =>
      rw [List.cons_append, signature_array, ih]
      rfl
    | function => cases hd
    | pointer =>
      have hnext : front ++ rest ≠ [] ∧ ¬ StartsWithFunction (front ++ rest) := by
        cases front with
        | nil => exact hrest rfl
        | cons d' front =>
          refine ⟨List.cons_ne_nil d' _, ?_⟩
          rintro ⟨f, ⟨⟩, hf⟩
          rw [hfront' d' List.mem_cons_self] at hf
          cases hf
      rw [List.cons_append, signature_pointer_cons dialect types base hnext.1 hnext.2, ih]
      rfl

end Signature

/-! ## The bindings -/

theorem binding_wrap {d : Derivation} (hd : d.isFunction = false) (inner : String) :
    wrap .binding d inner = "Ptr (" ++ inner ++ ")" := by
  cases d with
  | function => cases hd
  | pointer | array => rfl

theorem binding_wrapAll_injective {chain : List Derivation}
    (hchain : ∀ d ∈ chain, d.isFunction = false) {s t : String}
    (h : wrapAll .binding chain s = wrapAll .binding chain t) : s = t := by
  induction chain with
  | nil => exact h
  | cons d chain ih =>
    refine ih (fun d' hd' => hchain d' (List.mem_cons_of_mem d hd')) ?_
    rw [wrapAll, wrapAll, List.foldr_cons, List.foldr_cons,
      binding_wrap (hchain d List.mem_cons_self), binding_wrap (hchain d List.mem_cons_self)] at h
    have h := congrArg String.toList h
    simp only [String.toList_append, List.append_assoc] at h
    exact String.toList_injective (List.append_cancel_right (List.append_cancel_left h))

theorem blank_mem_bindingPointer {base : String} (h : base ≠ "CChar") :
    ' ' ∈ (Dialect.bindingPointer base).toList := by
  rw [Dialect.bindingPointer, if_neg h]
  split
  · decide
  · split <;> simp [String.toList_append]

/-- A chain gives a text with a blank, but for the pointer to characters. -/
theorem binding_signature_cases (types : TypeTable) (base : String) {chain : List Derivation}
    (h : chain ≠ []) :
    (chain = [.pointer] ∧ base = "CChar" ∧ signature .binding types base chain = "CString") ∨
      ' ' ∈ (signature .binding types base chain).toList := by
  have hcall : ∀ arguments result,
      ' ' ∈ (Dialect.binding.wrapFunction arguments result).toList := by
    simp [Dialect.binding, String.toList_append]
  have hwrap : ∀ inner, ' ' ∈ ("Ptr (" ++ inner ++ ")").toList := by
    simp [String.toList_append]
  match chain with
  | [] => exact absurd rfl h
  | .array n :: rest =>
    rw [signature_array]
    exact .inr (hwrap _)
  | .function parameters isVariadic :: rest =>
    rw [signature_function]
    exact .inr (hcall _ _)
  | .pointer :: .function parameters isVariadic :: rest =>
    rw [signature_pointer_function]
    exact .inr (hcall _ _)
  | .pointer :: .pointer :: rest | .pointer :: .array n :: rest =>
    rw [signature_pointer_cons .binding types base (by simp) (by rintro ⟨f, ⟨⟩, ⟨⟩⟩)]
    exact .inr (hwrap _)
  | [.pointer] =>
    rw [signature_pointer]
    by_cases hbase : base = "CChar"
    · subst hbase
      exact .inl ⟨rfl, rfl, rfl⟩
    · exact .inr (blank_mem_bindingPointer hbase)

theorem binding_signature_ne_empty (types : TypeTable) (base : String) {chain : List Derivation}
    (h : chain ≠ []) : signature .binding types base chain ≠ "" := by
  intro hempty
  rcases binding_signature_cases types base h with ⟨_, _, hs⟩ | hs
  · rw [hempty] at hs
    revert hs
    decide
  · rw [hempty] at hs
    cases hs

end HeaderBindings.Derivation
