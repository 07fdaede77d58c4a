/-
  The closed form of a chain.  Up to its first function a chain is pointers and arrays.  A pointer
  right before the function, or at the end of a chain without one, acts on the base; the other steps
  are a shell around what comes of that, the core.

  Main statement (`signature_eq_shell_core`): the recursion over a chain, which looks one step ahead,
  gives the core wrapped once for each step of the shell.
-/
import HeaderBindings.Proofs.Signature.Chain

namespace HeaderBindings.Derivation

/-! ## Shell and core -/

instance decidableEndsInPointer (chain : List Derivation) : Decidable (EndsInPointer chain) :=
  match h : chain.getLast? with
  | some .pointer => isTrue h
  | some (.array _) | some (.function ..) | none => isFalse (by simp [EndsInPointer, h])

/-- The place of the first function in a chain; its length if there is none. -/
def functionIndex (chain : List Derivation) : Nat := chain.findIdx isFunction

/-- The steps before the first function. -/
def beforeFunction (chain : List Derivation) : List Derivation := chain.take (functionIndex chain)

/-- The steps before the first function, without a pointer that they end in. -/
def shell (chain : List Derivation) : List Derivation :=
  if EndsInPointer (beforeFunction chain) then (beforeFunction chain).dropLast
  else beforeFunction chain

/-- The signatures of parameters in order, those of them that are not empty. -/
def givenSignatures (dialect : Dialect) (types : TypeTable) (parameters : List Declaration) :
    List String :=
  (parameters.map fun p => p.signature dialect types).filter (· ≠ "")

/-- What the first function makes of the base, or the end of the chain if there is none. -/
def core (dialect : Dialect) (types : TypeTable) (base : String) (chain : List Derivation) :
    String :=
  match chain[functionIndex chain]? with
  | some (.function parameters _) =>
    dialect.wrapFunction (givenSignatures dialect types parameters)
      (if EndsInPointer (beforeFunction chain) then dialect.functionBase base else base)
  | _ => if EndsInPointer (beforeFunction chain) then dialect.endPointer base else base

/-! ## The first function of a chain -/

/-- A chain is steps without a function, and then nothing or a function. -/
theorem exists_eq_append (chain : List Derivation) :
    ∃ front rest, chain = front ++ rest ∧ (∀ d ∈ front, d.isFunction = false) ∧
      (rest = [] ∨ ∃ parameters isVariadic more,
        rest = .function parameters isVariadic :: more) := by
  induction chain with
  | nil => exact ⟨[], [], rfl, by simp, .inl rfl⟩
  | cons d chain ih =>
    cases hd : d.isFunction with
    | true =>
      cases d with
      | function parameters isVariadic =>
        exact ⟨[], _, rfl, by simp, .inr ⟨parameters, isVariadic, chain, rfl⟩⟩
      | pointer | array => cases hd
    | false =>
      obtain ⟨front, rest, rfl, hfront, hrest⟩ := ih
      exact ⟨d :: front, rest, rfl, List.forall_mem_cons.mpr ⟨hd, hfront⟩, hrest⟩

section Split

variable {front rest : List Derivation} (hfront : ∀ d ∈ front, d.isFunction = false)
variable (hrest : rest = [] ∨ ∃ parameters isVariadic more,
  rest = .function parameters isVariadic :: more)

include hfront hrest

theorem functionIndex_eq_length : functionIndex (front ++ rest) = front.length := by
  have hzero : rest.findIdx isFunction = 0 := by
    rcases hrest with rfl | ⟨parameters, isVariadic, more, rfl⟩ <;> rfl
  rw [functionIndex, List.findIdx_append, List.findIdx_eq_length_of_false hfront,
    if_neg (Nat.lt_irrefl _), hzero, Nat.zero_add]

theorem beforeFunction_eq : beforeFunction (front ++ rest) = front := by
  rw [beforeFunction, functionIndex_eq_length hfront hrest, List.take_left]

theorem getElem?_functionIndex : (front ++ rest)[functionIndex (front ++ rest)]? = rest.head? := by
  rw [functionIndex_eq_length hfront hrest, List.getElem?_append_right (Nat.le_refl _),
    Nat.sub_self, List.head?_eq_getElem?]

end Split

theorem isFunction_of_mem_shell {chain : List Derivation} :
    ∀ d ∈ shell chain, d.isFunction = false := by
  obtain ⟨front, rest, rfl, hfront, hrest⟩ := exists_eq_append chain
  rw [shell, beforeFunction_eq hfront hrest]
  split
  · exact fun d hd => hfront d (List.dropLast_subset front hd)
  · exact hfront

/-! ## The closed form -/

/-- The steps up to a pointer wrap what the pointer makes of the rest. -/
theorem signature_concat_pointer (dialect : Dialect) (types : TypeTable) (base : String)
    {front : List Derivation} (hfront : ∀ d ∈ front, d.isFunction = false)
    (rest : List Derivation) :
    signature dialect types base (front ++ [.pointer] ++ rest)
      = wrapAll dialect front (signature dialect types base (.pointer :: rest)) := by
  rw [List.append_assoc]
  refine signature_append dialect types base hfront fun _ => ⟨List.cons_ne_nil _ _, ?_⟩
  rintro ⟨f, ⟨⟩, ⟨⟩⟩

theorem signature_eq_wrapAll (dialect : Dialect) (types : TypeTable) (base : String)
    (chain : List Derivation) :
    signature dialect types base chain
      = wrapAll dialect (shell chain) (core dialect types base chain) := by
  obtain ⟨front, rest, rfl, hfront, hrest⟩ := exists_eq_append chain
  rw [shell, core, beforeFunction_eq hfront hrest, getElem?_functionIndex hfront hrest]
  by_cases hlast : EndsInPointer front
  · -- the pointer looks into what follows it, so it belongs to the core
    simp only [if_pos hlast]
    obtain ⟨steps, rfl⟩ := hlast.eq_concat
    have hsteps : ∀ d ∈ steps, d.isFunction = false := fun d hd =>
      hfront d (List.mem_append_left _ hd)
    rw [signature_concat_pointer dialect types base hsteps, List.dropLast_concat]
    rcases hrest with rfl | ⟨parameters, isVariadic, more, rfl⟩
    · rw [signature_pointer]
      rfl
    · rw [signature_pointer_function, argumentSignatures_eq]
      rfl
  · simp only [if_neg hlast]
    rw [signature_append dialect types base hfront fun h => absurd h hlast]
    rcases hrest with rfl | ⟨parameters, isVariadic, more, rfl⟩
    · rw [signature_nil]
      rfl
    · rw [signature_function, argumentSignatures_eq]
      rfl

/-- Whatever follows a chain with a function has no part in its signature. -/
theorem signature_append_of_function (dialect : Dialect) (types : TypeTable) (base : String)
    {chain : List Derivation} (hchain : functionIndex chain < chain.length)
    (rest : List Derivation) :
    signature dialect types base (chain ++ rest) = signature dialect types base chain := by
  have hindex : functionIndex (chain ++ rest) = functionIndex chain := by
    rw [functionIndex, List.findIdx_append]
    exact if_pos hchain
  have hbefore : beforeFunction (chain ++ rest) = beforeFunction chain := by
    rw [beforeFunction, hindex, List.take_append_of_le_length (Nat.le_of_lt hchain)]
    rfl
  rw [signature_eq_wrapAll, signature_eq_wrapAll dialect types base chain, shell, shell, core, core,
    hindex, hbefore, List.getElem?_append_left hchain]

theorem binding_wrapAll_replicate_pointer (k : Nat) (inner : String) :
    wrapAll .binding (List.replicate k .pointer) inner
      = String.join (List.replicate k "Ptr (") ++ inner ++ String.join (List.replicate k ")") := by
  induction k with
  | zero => simp [wrapAll]
  | succ k ih =>
    rw [List.replicate_succ, wrapAll, List.foldr_cons, ← wrapAll, ih, binding_wrap rfl,
      List.replicate_succ, String.join_cons, List.replicate_succ', String.join_append,
      String.join_cons]
    simp only [String.append_assoc, String.join_nil, String.append_empty]

/-- A chain gives its core, wrapped from the last step of its shell to the first.  So nothing after
the first function counts, and pointers in a row, but for the last one, wrap the text that the last
one gives. -/
theorem signature_eq_shell_core (dialect : Dialect) (types : TypeTable) (base : String) :
    (∀ chain, signature dialect types base chain
      = (shell chain).foldr (wrap dialect) (core dialect types base chain)) ∧
    (∀ chain, ∀ d ∈ shell chain, d.isFunction = false) ∧
    (∀ (front : List Derivation) (parameters : List Declaration) (isVariadic : Bool)
        (rest : List Derivation),
      signature dialect types base (front ++ .function parameters isVariadic :: rest)
        = signature dialect types base (front ++ [.function parameters isVariadic])) ∧
    ∀ k, signature .binding types base (List.replicate (k + 1) .pointer)
      = String.join (List.replicate k "Ptr (") ++ Dialect.binding.endPointer base
        ++ String.join (List.replicate k ")") := by
  refine ⟨signature_eq_wrapAll dialect types base, fun _ => isFunction_of_mem_shell, ?_, ?_⟩
  · intro front parameters isVariadic rest
    have hlength : functionIndex (front ++ [function parameters isVariadic])
        < (front ++ [function parameters isVariadic]).length :=
      List.findIdx_lt_length_of_exists
        ⟨function parameters isVariadic, List.mem_append_right _ (List.mem_singleton_self _), rfl⟩
    rw [← signature_append_of_function dialect types base hlength rest, List.append_assoc]
    rfl
  · intro k
    have hpointers : ∀ d ∈ List.replicate k Derivation.pointer, d.isFunction = false := by
      intro d hd
      rw [List.eq_of_mem_replicate hd]
      rfl
    have hchain := signature_concat_pointer .binding types base hpointers []
    rw [List.append_nil, signature_pointer] at hchain
    rw [List.replicate_succ', hchain, binding_wrapAll_replicate_pointer]

/-- An array of pointers to pointers to functions. -/
example (types : TypeTable) (parameters : List Declaration) :
    let chain : List Derivation := [.array .unknown, .pointer, .pointer, .function parameters false]
    shell chain = [.array .unknown, .pointer] ∧
      core .c types "int" chain
        = Dialect.c.wrapFunction (givenSignatures .c types parameters) "int *" :=
  ⟨rfl, rfl⟩

end HeaderBindings.Derivation
