/-
  The calls of the helper macros.  The name of a macro announces how many arguments its call has:
  the name of the function, its parameters, and its result unless that is void.

  Main statement (`helperCalls_arguments`): each named function with a body has one call, whose
  arguments are as many as the widths of its types add up to.  That is the announced number for types
  without functions, as long as only a lone `void` is silent; a record that is passed by value and a
  pointer to a function break it.
-/
import HeaderBindings.Proofs.Emission.Arguments
import HeaderBindings.Proofs.Emission.Relevance
import HeaderBindings.Proofs.Signature.Width

namespace HeaderBindings

/-! ## Inline functions of a header -/

/-- A named function with a body.  Its result is what `chain` makes of `specifiers`. -/
structure InlineFunction where
  name : String
  parameters : List Declaration
  specifiers : List Specifier
  chain : List Derivation

def FunctionDefinition.inline? (f : FunctionDefinition) : Option InlineFunction :=
  match f.declarator.name, f.declarator.chain with
  | some name, .function parameters _ :: chain => some ⟨name, parameters, f.specifiers, chain⟩
  | _, _ => none

/-- The named function that a node defines, if it stands in the file. -/
def Node.inline? (filename : String) (node : Node) : Option InlineFunction :=
  match node with
  | .definition f => if node.inFile filename then f.inline? else none
  | .declaration _ | .assembly .. => none

def inlineFunctions (filename : String) (nodes : List Node) : List InlineFunction :=
  nodes.filterMap (Node.inline? filename)

namespace InlineFunction

def resultWidth (f : InlineFunction) : Nat := chainWidth f.specifiers f.chain

/-- The arguments of the call: the name, and those that the parameters and the result take up. -/
def arguments (f : InlineFunction) : Nat :=
  argumentCount f.name + (f.parameters.map Declaration.width).sum + f.resultWidth

/-- The arguments that the macro announces: the name, the parameters, and the result unless the
macro is that of a void function. -/
def announced (f : InlineFunction) : Nat :=
  parameterCount f.parameters + if f.resultWidth = 0 then 1 else 2

end InlineFunction

/-- The line calls the macro for the function's number of parameters, with as many arguments as the
types of the function take up. -/
def IsHelperCall (f : InlineFunction) (line : String) : Prop :=
  ∃ text, line = "BC_INLINE" ++ toString (parameterCount f.parameters)
      ++ (if f.resultWidth = 0 then "VOID" else "") ++ "(" ++ text ++ ")" ∧
    argumentCount text = f.arguments

/-! ## The call of a function -/

/-- The call of a named function.  Its text is the name and the type of the whole function, which
prints the parameters and the result after one another. -/
theorem isHelperCall (types : TypeTable) (f : InlineFunction) (isVariadic : Bool) :
    let result := chainSignature .c types f.specifiers f.chain
    let type := Derivation.signature .c types result (.function f.parameters isVariadic :: f.chain)
    IsHelperCall f (HelperLine.inlineCall (parameterCount f.parameters) (result = "")
      ([f.name, type].filter (· ≠ ""))).render := by
  intro result type
  have hwidth : argumentCount result = f.resultWidth := argumentCount_chainSignature types _ _
  have htype : argumentCount type = (f.parameters.map Declaration.width).sum + f.resultWidth := by
    rw [← hwidth]
    exact argumentCount_signature_function types result f.parameters isVariadic f.chain
  have hvoid : (if result = "" then "VOID" else "") = if f.resultWidth = 0 then "VOID" else "" := by
    rw [← hwidth]
    simp only [argumentCount_eq_zero_iff]
  refine ⟨", ".intercalate ([f.name, type].filter (· ≠ "")), ?_, ?_⟩
  · rw [HelperLine.render, ← hvoid]
    simp only [decide_eq_true_eq]
  · rw [argumentCount_intercalate, List.map_cons, List.map_singleton, List.sum_cons,
      List.sum_singleton, htype, InlineFunction.arguments, Nat.add_assoc]

theorem FunctionDefinition.helperLine_isHelperCall (types : TypeTable) (f : FunctionDefinition) :
    List.Forall₂ IsHelperCall f.inline?.toList
      ((f.helperLine types).toList.map HelperLine.render) := by
  obtain ⟨specifiers, ⟨name, chain⟩, location, text⟩ := f
  match name, chain with
  | none, _ => exact .nil
  | some name, [] => exact .nil
  | some name, .pointer :: _ => exact .nil
  | some name, .array _ :: _ => exact .nil
  | some name, .function parameters isVariadic :: chain =>
    exact .cons (isHelperCall types ⟨name, parameters, specifiers, chain⟩ isVariadic) .nil

/-! ## Runs -/

theorem Node.steps_isHelperCall (filename : String) (node : Node) :
    List.Forall₂ IsHelperCall (node.inline? filename).toList
      (((node.steps filename).flatMap (Step.helpers {})).map HelperLine.render) := by
  cases node with
  | assembly location text => exact .nil
  | declaration decl =>
    have hnone : ((Node.declaration decl).steps filename).flatMap (Step.helpers {}) = [] := by
      rw [List.flatMap_eq_nil_iff]
      intro s hs
      rcases Declaration.mem_steps_cases hs with
        ⟨_, fallback, rfl⟩ | ⟨_, _, d, _, _, rfl⟩ | ⟨_, d, _, name, _, _, rfl⟩ <;> rfl
    rw [hnone]
    exact .nil
  | definition f =>
    rw [Node.steps, Node.inline?, FunctionDefinition.steps]
    cases (Node.definition f).inFile filename with
    | false => exact .nil
    | true =>
      rw [if_pos rfl, if_pos rfl, List.flatMap_cons, List.flatMap_singleton]
      exact f.helperLine_isHelperCall {}

theorem inlineFunctions_isHelperCall (filename : String) (nodes : List Node) :
    List.Forall₂ IsHelperCall (inlineFunctions filename nodes)
      (((headerSteps filename nodes).flatMap (Step.helpers {})).map HelperLine.render) := by
  rw [inlineFunctions, List.filterMap_eq_flatMap_toList, headerSteps]
  induction nodes with
  | nil => exact .nil
  | cons node rest ih =>
    rw [List.flatMap_cons, List.flatMap_cons, List.flatMap_append, List.map_append]
    exact List.rel_append (node.steps_isHelperCall filename) ih

/-! ## Announced arguments -/

theorem sum_width_of_isFlat {ps : List Declaration}
    (hflat : ∀ p ∈ ps, ∀ d ∈ p.declarators.head?, IsFlat d.chain)
    (hnames : ∀ p ∈ ps, ∀ n ∈ specifierAliases p.specifiers, C.isIdentifier n.toList = true) :
    (ps.map Declaration.width).sum = (ps.filter (!·.isSilent)).length := by
  induction ps with
  | nil => rfl
  | cons p rest ih =>
    have ih := ih (fun q hq => hflat q (List.mem_cons_of_mem p hq))
      (fun q hq => hnames q (List.mem_cons_of_mem p hq))
    have hp := p.width_of_isFlat (hflat p List.mem_cons_self) (hnames p List.mem_cons_self)
    rw [List.map_cons, List.sum_cons, hp, ih, List.filter_cons]
    cases p.isSilent with
    | false => simp [Nat.add_comm]
    | true => simp

/-- The names in the function are identifiers, and its types hold no further function. -/
structure InlineFunction.IsPlain (f : InlineFunction) : Prop where
  name : C.isIdentifier f.name.toList = true
  parameters : ∀ p ∈ f.parameters, ∀ d ∈ p.declarators.head?, IsFlat d.chain
  parameterAliases : ∀ p ∈ f.parameters, ∀ n ∈ specifierAliases p.specifiers,
    C.isIdentifier n.toList = true
  chain : IsFlat f.chain
  aliases : ∀ n ∈ specifierAliases f.specifiers, C.isIdentifier n.toList = true

theorem InlineFunction.IsPlain.arguments_eq_announced_iff {f : InlineFunction} (h : f.IsPlain) :
    f.arguments = f.announced
      ↔ ∀ p ∈ f.parameters, (p.isSilent = true ↔ IsLoneVoid f.parameters p) := by
  have hname : argumentCount f.name = 1 := argumentCount_identifier h.name
  have hsum := sum_width_of_isFlat h.parameters h.parameterAliases
  have hresult : f.resultWidth = 0 ∨ f.resultWidth = 1 := by
    rw [resultWidth, chainWidth_of_isFlat h.chain h.aliases]
    split
    · exact .inl rfl
    · exact .inr rfl
  rw [← length_filter_eq_parameterCount_iff, arguments, announced, hname, hsum]
  rcases hresult with hresult | hresult <;> rw [hresult] <;> simp <;> omega

/-- Each named function with a body has one helper line, in order, which calls the macro for its
number of parameters, with the arguments that its types take up.  They are as many as announced, for
a function whose types hold no further function, exactly if only a lone `void` is silent. -/
theorem helperCalls_arguments (header : Header) (filename : String) :
    List.Forall₂ IsHelperCall (inlineFunctions filename header.nodes)
      (header.bindings filename).helperText ∧
    ∀ f ∈ inlineFunctions filename header.nodes, f.IsPlain →
      (f.arguments = f.announced
        ↔ ∀ p ∈ f.parameters, (p.isSilent = true ↔ IsLoneVoid f.parameters p)) := by
  refine ⟨?_, fun f _ hplain => hplain.arguments_eq_announced_iff⟩
  have hhelpers : (header.bindings filename).helpers
      = (headerSteps filename header.nodes).flatMap (Step.helpers {}) := by
    rw [Header.bindings_eq_performAll, Output.performAll_helpers, stepHelpers_eq_flatMap]
    rfl
  rw [Output.helperText, hhelpers]
  exact inlineFunctions_isHelperCall filename header.nodes

/-- The function `size copy(char *text, struct range part)`. -/
def copyFunction : InlineFunction where
  name := "copy"
  parameters :=
    [ { specifiers := [.builtin .char]
        declarators := [{ name := some "text", chain := [.pointer] }] },
      { specifiers := [.recordRef false (some "range")]
        declarators := [{ name := some "part" }] } ]
  specifiers := [.typedefName "size"]
  chain := []

def copyHeader : Header where
  path := "t.h"
  nodes :=
    [ .definition
        { specifiers := copyFunction.specifiers, location := some { file := "t.h", line := 1 }
          declarator := { name := some copyFunction.name
                          chain := [.function copyFunction.parameters false] } } ]

theorem helperCalls_arguments_copyHeader :
    copyFunction ∈ inlineFunctions "t.h" copyHeader.nodes ∧ copyFunction.IsPlain ∧
      copyFunction.arguments ≠ copyFunction.announced := by
  have hmem : copyFunction ∈ inlineFunctions "t.h" copyHeader.nodes := List.mem_singleton_self _
  have hplain : copyFunction.IsPlain :=
    ⟨by decide, by decide, by decide, by decide, by decide⟩
  refine ⟨hmem, hplain, fun harguments => ?_⟩
  have hsilent := ((helperCalls_arguments copyHeader "t.h").2 copyFunction hmem hplain).mp
    harguments _ (List.mem_cons_of_mem _ List.mem_cons_self)
  exact absurd (hsilent.mp rfl).1 (by simp [copyFunction])

/-- The parameters of a pointer to a function become arguments of the macro. -/
example :
    let number : Declaration := { specifiers := [.builtin .int] }
    let callback : Declaration :=
      { specifiers := [.builtin .void]
        declarators := [{ chain := [.pointer, .function [number, number] false] }] }
    let defined : FunctionDefinition :=
      { specifiers := [.builtin .void], location := some { file := "t.h", line := 1 }
        declarator := { name := some "visit", chain := [.function [callback] false] } }
    Output.helperText (Header.bindings ⟨"t.h", [.definition defined]⟩ "t.h")
        = ["BC_INLINE1VOID(visit, int, int,  *)"] ∧
      parameterCount [callback] = 1 ∧ callback.width = 3 := by
  decide

end HeaderBindings
