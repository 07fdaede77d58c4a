/-
  The arguments of printed functions.  A function prints the signatures of its parameters that are
  not silent, in their order, under the typedef table that it meets.

  Main statement (`bindings_arguments`): the function lines of a header are those of its functions,
  and the arguments of one are as many as its parameters exactly if the silent parameters are those
  that are not counted: a lone `void`.
-/
import HeaderBindings.Proofs.Emission.Filter
import HeaderBindings.Proofs.Signature.Silent

namespace HeaderBindings

/-! ## Functions of a header -/

/-- A declared or defined function and the word that its line opens with. -/
structure Callable where
  marker : Marker
  specifiers : List Specifier
  declarator : Declarator

/-- The functions that a node declares or defines, if it stands in the file. -/
def Node.callables (filename : String) (node : Node) : List Callable :=
  match node with
  | .declaration d =>
    if node.inFile filename && !d.isTypedef then
      (d.declarators.filter Declarator.isFunction).map (⟨.ccall, d.specifiers, ·⟩)
    else []
  | .definition f =>
    if node.inFile filename then [⟨.cinline, f.specifiers, f.declarator⟩] else []
  | .assembly .. => []

/-- A function and the table that it meets. -/
structure CallSite where
  types : TypeTable
  callable : Callable

namespace CallSite

def parameters (site : CallSite) : List Declaration := site.callable.declarator.parameters

def line (site : CallSite) : Line :=
  functionLine site.types site.callable.marker site.callable.specifiers site.callable.declarator

end CallSite

/-- The functions of a header in order, each with the table after the nodes before its own. -/
def callSites (filename : String) (out : Output) : List Node → List CallSite
  | [] => []
  | node :: rest =>
    (node.callables filename).map (⟨out.types, ·⟩)
      ++ callSites filename (out.emit filename node) rest

/-! ## Function lines -/

def Line.isFunction : Line → Bool
  | function .. => true
  | _ => false

/-- The argument types of a function line. -/
def Line.arguments : Line → List String
  | function _ _ arguments _ => arguments
  | _ => []

def Step.callables : Step → List Callable
  | call marker specifiers d => [⟨marker, specifiers, d⟩]
  | introduce .. | help _ | record .. => []

theorem introductions_filter_isFunction (types : TypeTable) (fallback : String)
    (specifiers : List Specifier) :
    (introductions types fallback specifiers).filter Line.isFunction = [] := by
  rw [List.filter_eq_nil_iff]
  intro line hline hfunction
  have hintroduction := isIntroduction_of_mem_introductions hline
  cases line with
  | function => cases hintroduction
  | _ => cases hfunction

theorem Step.lines_filter_isFunction (types : TypeTable) (s : Step) :
    (s.lines types).filter Line.isFunction
      = s.callables.map fun c => CallSite.line ⟨types, c⟩ := by
  cases s with
  | introduce text fallback specifiers =>
    exact introductions_filter_isFunction types fallback specifiers
  | call marker specifiers d => rfl
  | help f => rfl
  | record name specifiers chain => rfl

theorem stepLines_filter_of_callables_nil {steps : List Step}
    (h : ∀ s ∈ steps, s.callables = []) (types : TypeTable) :
    (stepLines types steps).filter Line.isFunction = [] := by
  induction steps generalizing types with
  | nil => rfl
  | cons s rest ih =>
    rw [stepLines, List.filter_append, s.lines_filter_isFunction, h s List.mem_cons_self,
      ih fun s' hs' => h s' (List.mem_cons_of_mem s hs')]
    rfl

/-- Steps that record nothing print the lines of their functions under one table. -/
theorem stepLines_filter_of_isRecord_false {steps : List Step}
    (h : ∀ s ∈ steps, s.isRecord = false) (types : TypeTable) :
    (stepLines types steps).filter Line.isFunction
      = (steps.flatMap Step.callables).map fun c => CallSite.line ⟨types, c⟩ := by
  induction steps with
  | nil => rfl
  | cons s rest ih =>
    have htypes : s.types types = types := by
      have hs := h s List.mem_cons_self
      cases s with
      | record => cases hs
      | introduce | call | help => rfl
    rw [stepLines, List.filter_append, s.lines_filter_isFunction, htypes,
      ih fun s' hs' => h s' (List.mem_cons_of_mem s hs'), List.flatMap_cons, List.map_append]

/-! ## Runs -/

theorem Declarator.callables_of_mem_recordSteps {specifiers : List Specifier} {d : Declarator}
    {s : Step} (h : s ∈ d.recordSteps specifiers) : s.callables = [] := by
  obtain ⟨name, _, _, rfl⟩ := mem_recordSteps_cases h
  rfl

theorem Declaration.declaratorSteps_callables (decl : Declaration) (inFile : Bool)
    (d : Declarator) :
    (decl.declaratorSteps inFile d).flatMap Step.callables
      = if inFile && !decl.isTypedef && d.isFunction then [⟨.ccall, decl.specifiers, d⟩]
        else [] := by
  have hrecord : (d.recordSteps decl.specifiers).flatMap Step.callables = [] :=
    List.flatMap_eq_nil_iff.mpr fun s hs => Declarator.callables_of_mem_recordSteps hs
  unfold declaratorSteps
  cases decl.isTypedef <;> cases d.isFunction <;> cases inFile <;>
    simp [Step.callables, hrecord]

theorem Declaration.callables_of_declarators (decl : Declaration) (inFile : Bool)
    (ds : List Declarator) :
    (ds.flatMap (decl.declaratorSteps inFile)).flatMap Step.callables
      = if inFile && !decl.isTypedef then
          (ds.filter Declarator.isFunction).map (⟨.ccall, decl.specifiers, ·⟩)
        else [] := by
  induction ds with
  | nil => simp
  | cons d ds ih =>
    rw [List.flatMap_cons, List.flatMap_append, ih, declaratorSteps_callables, List.filter_cons]
    cases inFile && !decl.isTypedef <;> cases d.isFunction <;> rfl

theorem Node.steps_callables (filename : String) (node : Node) :
    (node.steps filename).flatMap Step.callables = node.callables filename := by
  cases node with
  | declaration decl =>
    rw [Node.steps, Declaration.steps, Node.callables]
    generalize (Node.declaration decl).inFile filename = inFile
    cases hds : decl.declarators with
    | nil => cases inFile <;> cases decl.isTypedef <;> rfl
    | cons d ds => exact decl.callables_of_declarators inFile (d :: ds)
  | definition f =>
    rw [Node.steps, FunctionDefinition.steps, Node.callables]
    split <;> rfl
  | assembly location text => rfl

/-- A node prints the lines of its functions under the table that it meets. -/
theorem emit_filter_isFunction (filename : String) (out : Output) (node : Node) :
    (out.emit filename node).lines.filter Line.isFunction
      = out.lines.filter Line.isFunction
        ++ (node.callables filename).map fun c => CallSite.line ⟨out.types, c⟩ := by
  rw [Output.emit_eq_performAll, Output.performAll_lines, List.filter_append,
    ← node.steps_callables]
  congr 1
  cases htypedef : node.isTypedef with
  | false =>
    refine stepLines_filter_of_isRecord_false (fun s hs => ?_) out.types
    have hnone : (node.steps filename).filter Step.isRecord = [] := by
      rw [Node.steps_filter, Node.recordSteps_of_not_isTypedef htypedef]
    exact Bool.not_eq_true _ ▸ List.filter_eq_nil_iff.mp hnone s hs
  | true =>
    have hnone : node.callables filename = [] := by
      cases node with
      | declaration d =>
        rw [Node.callables, show d.isTypedef = true from htypedef, Bool.not_true, Bool.and_false]
        rfl
      | definition | assembly => cases htypedef
    rw [node.steps_callables, hnone]
    rw [← node.steps_callables, List.flatMap_eq_nil_iff] at hnone
    exact stepLines_filter_of_callables_nil hnone out.types

theorem emitAll_filter_isFunction (filename : String) (out : Output) (nodes : List Node) :
    (out.emitAll filename nodes).lines.filter Line.isFunction
      = out.lines.filter Line.isFunction
        ++ (callSites filename out nodes).map CallSite.line := by
  induction nodes generalizing out with
  | nil => simp [Output.emitAll, callSites]
  | cons node rest ih =>
    rw [Output.emitAll, List.foldl_cons, ← Output.emitAll, ih, emit_filter_isFunction, callSites,
      List.map_append, List.map_map, List.append_assoc]
    rfl

theorem TypeTable.NoVoid.step {types : TypeTable} (h : types.NoVoid) (s : Step) :
    (s.types types).NoVoid := by
  cases s with
  | record name specifiers chain =>
    rw [Step.types]
    by_cases hs : chainSignature .binding types specifiers chain = ""
    · rw [if_pos hs]
      exact h
    · rw [if_neg hs]
      exact h.define hs
  | introduce | call | help => exact h

theorem TypeTable.NoVoid.run {types : TypeTable} (h : types.NoVoid) (steps : List Step) :
    (stepTypes types steps).NoVoid := by
  induction steps generalizing types with
  | nil => exact h
  | cons s rest ih => exact ih (h.step s)

theorem callSites_noVoid {filename : String} {out : Output} (h : out.types.NoVoid)
    (nodes : List Node) : ∀ site ∈ callSites filename out nodes, site.types.NoVoid := by
  induction nodes generalizing out with
  | nil => rintro site ⟨⟩
  | cons node rest ih =>
    intro site hsite
    rcases List.mem_append.mp hsite with hsite | hsite
    · obtain ⟨callable, _, rfl⟩ := List.mem_map.mp hsite
      exact h
    · refine ih ?_ site hsite
      rw [Output.emit_eq_performAll, Output.performAll_types]
      exact h.run _

/-! ## Counting -/

/-- A parameter that is not counted: a lone `void`. -/
def IsLoneVoid (parameters : List Declaration) (p : Declaration) : Prop :=
  parameters = [p] ∧ p.isVoidParameter = true

/-- As many parameters print as are counted exactly if the silent ones are those not counted. -/
theorem length_filter_eq_parameterCount_iff (ps : List Declaration) :
    (ps.filter (!·.isSilent)).length = parameterCount ps
      ↔ ∀ p ∈ ps, (p.isSilent = true ↔ IsLoneVoid ps p) := by
  match ps with
  | [] => simp [parameterCount]
  | [p] =>
    rw [List.forall_mem_singleton, IsLoneVoid, parameterCount, List.filter_cons, List.filter_nil]
    generalize p.isSilent = silent, p.isVoidParameter = void
    cases silent <;> cases void <;> simp
  | p :: q :: rest =>
    have hlone : ∀ p', ¬ IsLoneVoid (p :: q :: rest) p' := by
      rintro p' ⟨⟨⟩, _⟩
    rw [parameterCount, List.length_filter_eq_length_iff]
    · simp [hlone]
    · simp

/-- Each function of a header prints one line, with the signatures of those parameters that are not
silent.  They are as many as the function has parameters exactly if only a lone `void` is silent;
a record or an enumeration that is passed by value is lost. -/
theorem bindings_arguments (header : Header) (filename : String) :
    (header.bindings filename).lines.filter Line.isFunction
        = (callSites filename {} header.nodes).map CallSite.line ∧
    ∀ site ∈ callSites filename {} header.nodes,
      site.line.arguments = (site.parameters.filter (!·.isSilent)).map
        (Declaration.signature .binding site.types) ∧
      (site.line.arguments.length = parameterCount site.parameters
        ↔ ∀ p ∈ site.parameters, (p.isSilent = true ↔ IsLoneVoid site.parameters p)) := by
  refine ⟨emitAll_filter_isFunction filename {} header.nodes, fun site hsite => ?_⟩
  have htypes := callSites_noVoid TypeTable.noVoid_empty header.nodes site hsite
  have harguments := argumentSignatures_eq_filter htypes site.parameters
  refine ⟨harguments, ?_⟩
  rw [← length_filter_eq_parameterCount_iff, ← List.length_map (Declaration.signature .binding
    site.types), ← harguments]
  rfl

/-- A record passed by value is no argument of its function. -/
example :
    let byValue : Declaration := { specifiers := [.recordRef false (some "s")] }
    let declared : Declaration :=
      { specifiers := [.builtin .void], location := some { file := "t.h", line := 1 }
        declarators := [{ name := some "f", chain := [.function [byValue] false] }] }
    Output.bindingText (Header.bindings ⟨"t.h", [.declaration declared]⟩ "t.h")
        = ["#ccall f , IO ()"] ∧ parameterCount [byValue] = 1 := by
  decide

end HeaderBindings
