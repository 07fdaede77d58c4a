/-
  The order of type keywords.  A header keeps its output under every rewriting of its keyword
  sequences that keeps their names; the rewriting to the leading keywords is one.

  Main statement (`leadingKeywords_decide`): headers with the same leading keywords print the same
  lines, up to the texts of comments, and record the same types, also when other keywords change
  places.  No order but that of the leading keywords matters, and that one does.
-/
import HeaderBindings.Proofs.Emission.Relevance
import HeaderBindings.Proofs.Signature.Respelling

namespace HeaderBindings

/-! ## Lines without texts -/

/-- A line with the text of a comment left out. -/
def Line.withoutText : Line → Line
  | comment _ => .comment ""
  | line => line

theorem introductions_withoutText (types : TypeTable) (fallback : String)
    (specifiers : List Specifier) :
    (introductions types fallback specifiers).map Line.withoutText
      = introductions types fallback specifiers := by
  have hkept : ∀ line ∈ introductions types fallback specifiers, line.withoutText = line := by
    intro line hline
    have hintroduction := isIntroduction_of_mem_introductions hline
    cases line with
    | comment => cases hintroduction
    | _ => rfl
  rw [List.map_congr_left hkept, List.map_id']

/-! ## Respelled declarations -/

section Respell

variable {g : List Keyword → List Keyword}

theorem Declaration.fieldLine_respell (h : KeepsNames .binding g) (types : TypeTable)
    (member : Declaration) : (member.respell g).fieldLine types = member.fieldLine types := by
  have hsignature := member.signature_respell h types
  rw [member.respell_eq] at hsignature ⊢
  unfold fieldLine
  cases hds : member.declarators with
  | nil => rfl
  | cons d ds =>
    rw [hds, List.map_cons] at hsignature
    simp only [List.map_cons, d.respell_name, d.respell_chain]
    congr 1
    funext name
    cases d.chain with
    | nil => rw [respellChain]; exact congrArg _ hsignature
    | cons step rest =>
      rw [respellChain]
      cases step with
      | array n =>
        rw [Derivation.respell]
        exact congrArg _ (chainSignature_respell h types member.specifiers rest)
      | pointer | function =>
        rw [Derivation.respell]
        exact congrArg _ hsignature

theorem Specifier.introduction_respell (h : KeepsNames .binding g) (types : TypeTable)
    (fallback : String) (s : Specifier) :
    (s.respell g).introduction types fallback = s.introduction types fallback := by
  cases s with
  | record isUnion tag members =>
    have hfields : (members.map (Declaration.respell g)).filterMap (Declaration.fieldLine types)
        = members.filterMap (Declaration.fieldLine types) := by
      rw [List.filterMap_map]
      congr 1
      funext member
      exact member.fieldLine_respell h types
    rw [Specifier.respell, respellDeclarations_eq_map, introduction, introduction, hfields]
  | builtin | sign | recordRef | enumeration | enumerationRef | typedefName | typeOf =>
    rw [Specifier.respell]

theorem introductions_keywords (types : TypeTable) (fallback : String) (ks : List Keyword) :
    introductions types fallback (ks.map Keyword.specifier) = [] := by
  rw [introductions, List.flatMap_map, List.flatMap_eq_nil_iff]
  intro k _
  cases k <;> rfl

theorem introductions_respell (h : KeepsNames .binding g) (types : TypeTable) (fallback : String)
    (specifiers : List Specifier) :
    introductions types fallback (respellSequence g specifiers)
      = introductions types fallback specifiers := by
  refine respellSequence_keeps (F := introductions types fallback) ?_ fun ks _ => ?_
  · rw [respellSpecifiers_eq_map, introductions, introductions, List.flatMap_map]
    simp only [Specifier.introduction_respell h]
  · rw [introductions_keywords, introductions_keywords]

theorem Declarator.parameters_respell (d : Declarator) :
    (d.respell g).parameters = respellDeclarations g d.parameters := by
  rw [parameters, parameters, d.respell_chain]
  cases d.chain with
  | nil => rw [respellChain, respellDeclarations]
  | cons step rest =>
    rw [respellChain]
    cases step with
    | function parameters isVariadic => rw [Derivation.respell]
    | pointer | array => rw [Derivation.respell, respellDeclarations]

theorem functionLine_respell (h : KeepsNames .binding g) (types : TypeTable) (marker : Marker)
    (specifiers : List Specifier) (d : Declarator) :
    functionLine types marker (respellSequence g specifiers) (d.respell g)
      = functionLine types marker specifiers d := by
  have htail : (respellChain g d.chain).tail = respellChain g d.chain.tail := by
    rw [respellChain_eq_map, respellChain_eq_map, List.map_tail]
  rw [functionLine, functionLine, d.respell_name, d.parameters_respell, d.respell_chain, htail,
    argumentSignatures_respell h, chainSignature_respell h]

/-- What only `void` has among the keywords, and a respelled specifier has with the specifier, a
sequence has with its respelling. -/
theorem any_respellSequence {dialect : Dialect} (h : KeepsNames dialect g) {q : Specifier → Bool}
    (hq : ∀ s : Specifier, q (s.respell g) = q s)
    (hvoid : ∀ k : Keyword, q k.specifier = true → k = .base .void) (specifiers : List Specifier) :
    (respellSequence g specifiers).any q = specifiers.any q := by
  have hkeywords : ∀ ks : List Keyword, .base .void ∉ ks →
      (ks.map Keyword.specifier).any q = false := by
    intro ks hks
    rw [List.any_map, List.any_eq_false]
    exact fun k hk hqk => hks (hvoid k hqk ▸ hk)
  refine respellSequence_keeps (F := fun specifiers => specifiers.any q) ?_ fun ks hks => ?_
  · rw [respellSpecifiers_eq_map, List.any_map]
    exact congrArg _ (funext hq)
  · have hnone := void_not_mem_of_isArithmetic hks
    rw [hkeywords ks hnone, hkeywords (g ks) fun hmem => hnone (h.base ks .void hmem)]

theorem Declaration.isVoidParameter_respell {dialect : Dialect} (h : KeepsNames dialect g)
    (p : Declaration) : (p.respell g).isVoidParameter = p.isVoidParameter := by
  rw [respell_eq, isVoidParameter, isVoidParameter]
  congr 1
  · cases p.declarators with
    | nil => rfl
    | cons d ds =>
      obtain ⟨name, chain⟩ := d
      cases chain <;> simp [Declarator.respell_chain, respellChain]
  · refine any_respellSequence h (fun s => ?_) (fun k hk => ?_) _
    · cases s <;> rw [Specifier.respell]
    · cases k with
      | sign => cases hk
      | base kind => cases kind with
        | void => rfl
        | _ => cases hk

theorem parameterCount_respell {dialect : Dialect} (h : KeepsNames dialect g)
    (ps : List Declaration) : parameterCount (respellDeclarations g ps) = parameterCount ps := by
  rw [respellDeclarations_eq_map]
  match ps with
  | [] => rfl
  | [p] => simp only [List.map_singleton, parameterCount, p.isVoidParameter_respell h]
  | p :: q :: rest => simp [parameterCount]

theorem FunctionDefinition.helperLine_respell (h : KeepsNames .c g) (types : TypeTable)
    (f : FunctionDefinition) : (f.respell g).helperLine types = f.helperLine types := by
  obtain ⟨specifiers, ⟨name, chain⟩, location, text⟩ := f
  rw [FunctionDefinition.respell]
  unfold helperLine
  simp only [Declarator.respell_name, Declarator.respell_chain]
  match name, chain with
  | none, _ => rfl
  | some name, [] => rw [respellChain]
  | some name, .pointer :: _ | some name, .array _ :: _ =>
    rw [respellChain, Derivation.respell]
  | some name, .function parameters isVariadic :: rest =>
    have hresult := chainSignature_respell h types specifiers rest
    simp only [respellChain, Derivation.respell, hresult, parameterCount_respell h,
      Derivation.signature_function, argumentSignatures_respell h]

/-! ## Respelled steps -/

variable (g) in
def Step.respell : Step → Step
  | introduce _ fallback specifiers => introduce "" fallback (respellSequence g specifiers)
  | call marker specifiers d => call marker (respellSequence g specifiers) (d.respell g)
  | help f => help (f.respell g)
  | record name specifiers chain => record name (respellSequence g specifiers) (respellChain g chain)

theorem Declarator.isFunction_respell (d : Declarator) :
    (d.respell g).isFunction = d.isFunction := by
  rw [isFunction, isFunction, d.respell_chain]
  cases d.chain with
  | nil => rw [respellChain]
  | cons step rest => simp [respellChain, Derivation.isFunction_respell]

theorem Declarator.recordSteps_respell (specifiers : List Specifier) (d : Declarator) :
    (d.respell g).recordSteps (respellSequence g specifiers)
      = (d.recordSteps specifiers).map (Step.respell g) := by
  obtain ⟨name, chain⟩ := d
  unfold recordSteps
  rw [respell_name, respell_chain]
  cases name with
  | none => rfl
  | some name =>
    by_cases h : name = ""
    · simp only [if_pos h, List.map_nil]
    · simp only [if_neg h, List.map_singleton, Step.respell]

theorem Declaration.declaratorSteps_respell (decl : Declaration) (inFile : Bool) (d : Declarator) :
    (decl.respell g).declaratorSteps inFile (d.respell g)
      = (decl.declaratorSteps inFile d).map (Step.respell g) := by
  rw [decl.respell_eq]
  unfold declaratorSteps
  simp only [d.isFunction_respell, d.respell_name, d.recordSteps_respell]
  cases d.isFunction <;> cases decl.isTypedef <;> cases inFile <;> rfl

theorem Declaration.steps_respell (decl : Declaration) (inFile : Bool) :
    (decl.respell g).steps inFile = (decl.steps inFile).map (Step.respell g) := by
  have hdeclarators : (decl.respell g).declarators
      = decl.declarators.map (Declarator.respell g) := by rw [decl.respell_eq]
  unfold steps
  rw [hdeclarators]
  cases decl.declarators with
  | nil =>
    rw [decl.respell_eq]
    cases inFile <;> rfl
  | cons d ds =>
    have h := fun d => decl.declaratorSteps_respell (g := g) inFile d
    simp only [List.map_cons, List.flatMap_cons, List.flatMap_map, List.map_append,
      List.map_flatMap, h]

theorem Node.steps_respell (filename : String) (node : Node) :
    (node.respell g).steps filename = (node.steps filename).map (Step.respell g) := by
  cases node with
  | declaration decl =>
    have hinFile : (Node.declaration (decl.respell g)).inFile filename
        = (Node.declaration decl).inFile filename := by rw [decl.respell_eq]; rfl
    rw [respell, steps, hinFile]
    exact decl.steps_respell _
  | definition f =>
    rw [respell, steps, steps, FunctionDefinition.steps, FunctionDefinition.steps]
    change (if (Node.definition f).inFile filename = true then _ else _) = _
    split <;> rfl
  | assembly location text => rfl

theorem headerSteps_respell (filename : String) (nodes : List Node) :
    headerSteps filename (nodes.map (Node.respell g))
      = (headerSteps filename nodes).map (Step.respell g) := by
  rw [headerSteps, headerSteps, List.flatMap_map, List.map_flatMap]
  simp only [Node.steps_respell]

theorem Step.lines_respell (h : KeepsNames .binding g) (types : TypeTable) (s : Step) :
    (s.respell g).lines types = (s.lines types).map Line.withoutText := by
  cases s with
  | introduce text fallback specifiers =>
    rw [respell, lines, lines, introductions_respell h, List.map_cons, introductions_withoutText]
    rfl
  | call marker specifiers d =>
    rw [respell, lines, lines, functionLine_respell h]
    rfl
  | help | record => rfl

theorem Step.types_respell (h : KeepsNames .binding g) (types : TypeTable) (s : Step) :
    (s.respell g).types types = s.types types := by
  cases s with
  | record name specifiers chain =>
    rw [respell, Step.types, Step.types, chainSignature_respell h]
  | introduce | call | help => rfl

theorem Step.helpers_respell (h : KeepsNames .c g) (types : TypeTable) (s : Step) :
    (s.respell g).helpers types = s.helpers types := by
  cases s with
  | help f => rw [respell, helpers, helpers, f.helperLine_respell h]
  | introduce | call | record => rfl

/-! ## Runs -/

/-- Respelled steps print the same lines without texts, and record the same. -/
theorem stepLines_respell (h : KeepsNames .binding g) (types : TypeTable) (steps : List Step) :
    stepLines types (steps.map (Step.respell g)) = (stepLines types steps).map Line.withoutText ∧
      stepTypes types (steps.map (Step.respell g)) = stepTypes types steps := by
  induction steps generalizing types with
  | nil => exact ⟨rfl, rfl⟩
  | cons s rest ih =>
    obtain ⟨hlines, htypes⟩ := ih (s.types types)
    refine ⟨?_, ?_⟩
    · rw [List.map_cons, stepLines, stepLines, List.map_append, s.lines_respell h,
        s.types_respell h, hlines]
    · rw [List.map_cons, stepTypes, List.foldl_cons, s.types_respell h]
      exact htypes

theorem Line.withoutText_withoutText (line : Line) :
    line.withoutText.withoutText = line.withoutText := by
  cases line <;> rfl

theorem emitAll_respell (h : KeepsNames .binding g) (filename : String) (out : Output)
    (nodes : List Node) :
    (out.emitAll filename (nodes.map (Node.respell g))).lines.map Line.withoutText
        = (out.emitAll filename nodes).lines.map Line.withoutText ∧
      (out.emitAll filename (nodes.map (Node.respell g))).types
        = (out.emitAll filename nodes).types := by
  obtain ⟨hlines, htypes⟩ := stepLines_respell h out.types (headerSteps filename nodes)
  rw [Output.emitAll_eq_performAll, Output.emitAll_eq_performAll, headerSteps_respell]
  simp only [Output.performAll_lines, Output.performAll_types, hlines, htypes, List.map_append,
    List.map_map, Function.comp_def, Line.withoutText_withoutText, and_self]

theorem emitAll_helpers_respell (h : KeepsNames .c g) (filename : String) (out : Output)
    (nodes : List Node) :
    (out.emitAll filename (nodes.map (Node.respell g))).helpers
      = (out.emitAll filename nodes).helpers := by
  rw [Output.emitAll_eq_performAll, Output.emitAll_eq_performAll, headerSteps_respell,
    Output.performAll_helpers, Output.performAll_helpers, stepHelpers_eq_flatMap,
    stepHelpers_eq_flatMap, List.flatMap_map]
  simp only [Step.helpers_respell h]

end Respell

/-! ## The order of keywords -/

/-- The nodes are the same but for texts and for the keywords of arithmetic types behind the leading
ones. -/
def SameLeading (f : BaseKind → Signedness → Signedness) (nodes nodes' : List Node) : Prop :=
  nodes.map (Node.respell (leading f)) = nodes'.map (Node.respell (leading f))

theorem keepsNames_bindingSignedness : KeepsNames .binding (leading bindingSignedness) where
  name := keywordName_leading bindingBuiltin_bindingSignedness
  base _ _ := base_mem_of_mem_leading

theorem keepsNames_cSignedness : KeepsNames .c (leading cSignedness) where
  name := keywordName_leading fun _ _ => rfl
  base _ _ := base_mem_of_mem_leading

/-- Headers with the same leading keywords, as the bindings read them, print the same lines but for
the texts of comments and record the same types; with the same leading keywords of plain C they
print the same helper lines.  Among the orders of one arithmetic type no others give the same
name. -/
theorem leadingKeywords_decide (filename : String) (out : Output) (nodes nodes' : List Node) :
    (SameLeading bindingSignedness nodes nodes' →
      (out.emitAll filename nodes).lines.map Line.withoutText
          = (out.emitAll filename nodes').lines.map Line.withoutText ∧
        (out.emitAll filename nodes).types = (out.emitAll filename nodes').types) ∧
    (SameLeading cSignedness nodes nodes' →
      (out.emitAll filename nodes).helpers = (out.emitAll filename nodes').helpers) ∧
    ∀ ks ks', isArithmetic ks = true → ks.Perm ks' →
      (keywordName .binding ks = keywordName .binding ks'
        ↔ leading bindingSignedness ks = leading bindingSignedness ks') ∧
      (keywordName .c ks = keywordName .c ks'
        ↔ leading cSignedness ks = leading cSignedness ks') := by
  refine ⟨fun h => ?_, fun h => ?_, fun ks ks' => keywordName_eq_iff⟩
  · obtain ⟨hlines, htypes⟩ := emitAll_respell keepsNames_bindingSignedness filename out nodes
    obtain ⟨hlines', htypes'⟩ := emitAll_respell keepsNames_bindingSignedness filename out nodes'
    exact ⟨hlines.symm.trans (h ▸ hlines'), htypes.symm.trans (h ▸ htypes')⟩
  · have hhelpers := emitAll_helpers_respell keepsNames_cSignedness filename out nodes
    have hhelpers' := emitAll_helpers_respell keepsNames_cSignedness filename out nodes'
    exact hhelpers.symm.trans (h ▸ hhelpers')

/-- An alias of another file, a record with a member of the type and an inline function that takes
and returns it, all of them spelled with the same keywords. -/
def spelledWith (ks : List Keyword) : List Node :=
  let place : Option Location := some { file := "t.h", line := 1 }
  let specifiers := ks.map Keyword.specifier
  let member : Declaration :=
    { specifiers, declarators := [{ name := some "used", chain := [.array .unknown] }] }
  [ .declaration
      { specifiers, isTypedef := true, location := some { file := "stddef.h", line := 1 }
        declarators := [{ name := some "size_t" }] },
    .declaration { specifiers := [.record false (some "buffer") [member]], location := place },
    .definition
      { specifiers, location := place
        declarator := { name := some "grow", chain := [.function [{ specifiers }] false] } } ]

def longUnsignedInt : List Keyword := [.base .long, .sign .unsigned, .base .int]

def longIntUnsigned : List Keyword := [.base .long, .base .int, .sign .unsigned]

def unsignedLongInt : List Keyword := [.sign .unsigned, .base .long, .base .int]

/-- Neither order has a sign before the first base keyword. -/
theorem leadingKeywords_decide_longIntUnsigned :
    let o := Output.emitAll "t.h" {} (spelledWith longUnsignedInt)
    let p := Output.emitAll "t.h" {} (spelledWith longIntUnsigned)
    SameLeading bindingSignedness (spelledWith longUnsignedInt) (spelledWith longIntUnsigned) ∧
    SameLeading cSignedness (spelledWith longUnsignedInt) (spelledWith longIntUnsigned) ∧
    o.lines.map Line.withoutText = p.lines.map Line.withoutText ∧
    o.types = p.types ∧ o.helpers = p.helpers := by
  have hbinding : SameLeading bindingSignedness (spelledWith longUnsignedInt)
      (spelledWith longIntUnsigned) := rfl
  have hc : SameLeading cSignedness (spelledWith longUnsignedInt)
      (spelledWith longIntUnsigned) := rfl
  obtain ⟨hlines, hhelpers, _⟩ :=
    leadingKeywords_decide "t.h" {} (spelledWith longUnsignedInt) (spelledWith longIntUnsigned)
  exact ⟨hbinding, hc, (hlines hbinding).1, (hlines hbinding).2, hhelpers hc⟩

/-- One order has the sign before the first base keyword and the other has not: the two are the same
type of C, and print and record different ones. -/
theorem keywordOrder_unsignedLongInt :
    let o := Output.emitAll "t.h" {} (spelledWith longUnsignedInt)
    let p := Output.emitAll "t.h" {} (spelledWith unsignedLongInt)
    isArithmetic longUnsignedInt = true ∧ longUnsignedInt.Perm unsignedLongInt ∧
    o.lines.map Line.withoutText ≠ p.lines.map Line.withoutText ∧
    o.helpers ≠ p.helpers ∧ o.types ≠ p.types := by
  decide

end HeaderBindings
