/-
  Emission as a list of steps.  Which steps a node takes follows from the node and the file name
  alone (`Node.steps`); the typedef table only decides what a step prints and records.

  Main statements: emission performs the steps of its nodes in order (`emitAll_eq_performAll`), and
  a run of steps appends its lines and leaves those of before untouched (`performAll_lines`).
-/
import HeaderBindings.Bindings.Emission

namespace HeaderBindings

/-- What emission does in one go: print a comment with the introductions of the records and
enumerations in a declaration, print the line of a function, print the helper line of an inline
function, or record an alias. -/
inductive Step where
  | introduce (text fallback : String) (specifiers : List Specifier)
  | call (marker : Marker) (specifiers : List Specifier) (d : Declarator)
  | help (f : FunctionDefinition)
  | record (name : String) (specifiers : List Specifier) (chain : List Derivation)

namespace Step

def lines (types : TypeTable) : Step → List Line
  | introduce text fallback specifiers => .comment text :: introductions types fallback specifiers
  | call marker specifiers d => [functionLine types marker specifiers d]
  | help _ | record .. => []

def helpers (types : TypeTable) : Step → List HelperLine
  | help f => (f.helperLine types).toList
  | introduce .. | call .. | record .. => []

/-- The table after a step; void is not recorded. -/
def types (types : TypeTable) : Step → TypeTable
  | record name specifiers chain =>
    let signature := chainSignature .binding types specifiers chain
    if signature = "" then types else types.define name signature
  | introduce .. | call .. | help _ => types

end Step

/-! ## Lines of introductions -/

/-- A line of a record or an enumeration. -/
def Line.isIntroduction : Line → Bool
  | opaqueType _ | startType _ | field .. | arrayField .. | stopType | integral _ | number _ => true
  | comment _ | function .. | verbatim _ => false

theorem Declaration.isIntroduction_of_mem_fieldLine {types : TypeTable} {member : Declaration}
    {line : Line} (h : member.fieldLine types = some line) : line.isIntroduction = true := by
  unfold fieldLine at h
  split at h
  · cases h
  · obtain ⟨name, _, rfl⟩ := Option.map_eq_some_iff.mp h
    split <;> rfl

theorem isIntroduction_of_mem_introductions {types : TypeTable} {fallback : String}
    {specifiers : List Specifier} {line : Line}
    (h : line ∈ introductions types fallback specifiers) : line.isIntroduction = true := by
  obtain ⟨s, _, hline⟩ := List.mem_flatMap.mp h
  cases s with
  | record isUnion tag members =>
    rcases List.mem_append.mp hline with hline | hline
    · rcases List.mem_cons.mp hline with rfl | hline
      · rfl
      · obtain ⟨member, _, hmember⟩ := List.mem_filterMap.mp hline
        exact Declaration.isIntroduction_of_mem_fieldLine hmember
    · rw [List.mem_singleton.mp hline]
      rfl
  | enumeration tag enumerators =>
    rcases List.mem_cons.mp hline with rfl | hline
    · rfl
    · obtain ⟨name, _, rfl⟩ := List.mem_map.mp hline
      rfl
  | recordRef | enumerationRef =>
    rw [List.mem_singleton.mp hline]
    rfl
  | builtin | sign | typedefName | typeOf => cases hline

/-! ## The steps of a node -/

/-- The alias of a typedef, if it has a name. -/
def Declarator.recordSteps (specifiers : List Specifier) (d : Declarator) : List Step :=
  match d.name with
  | none => []
  | some name => if name = "" then [] else [.record name specifiers d.chain]

def Declaration.declaratorSteps (decl : Declaration) (inFile : Bool) (d : Declarator) :
    List Step :=
  if d.isFunction && !decl.isTypedef then
    if inFile then [.call .ccall decl.specifiers d] else []
  else
    (if inFile then [.introduce decl.text (d.name.getD "") decl.specifiers] else [])
      ++ if decl.isTypedef then d.recordSteps decl.specifiers else []

def Declaration.steps (decl : Declaration) (inFile : Bool) : List Step :=
  match decl.declarators with
  | [] => if inFile then [.introduce decl.text "" decl.specifiers] else []
  | ds => ds.flatMap (decl.declaratorSteps inFile)

def FunctionDefinition.steps (f : FunctionDefinition) (inFile : Bool) : List Step :=
  if inFile then [.call .cinline f.specifiers f.declarator, .help f] else []

def Node.steps (filename : String) (node : Node) : List Step :=
  match node with
  | .declaration d => d.steps (node.inFile filename)
  | .definition f => f.steps (node.inFile filename)
  | .assembly .. => []

/-- The steps of a whole header. -/
def headerSteps (filename : String) (nodes : List Node) : List Step :=
  nodes.flatMap (Node.steps filename)

theorem Declarator.mem_recordSteps_cases {specifiers : List Specifier} {d : Declarator} {s : Step}
    (hs : s ∈ d.recordSteps specifiers) :
    ∃ name ∈ d.name, name ≠ "" ∧ s = .record name specifiers d.chain := by
  unfold recordSteps at hs
  split at hs
  · cases hs
  · rename_i name hname
    by_cases hempty : name = ""
    · rw [if_pos hempty] at hs
      cases hs
    · rw [if_neg hempty] at hs
      exact ⟨name, hname, hempty, List.mem_singleton.mp hs⟩

/-- A declaration of the file introduces what its specifiers define and prints its functions; a
typedef of any file records its aliases. -/
theorem Declaration.mem_steps_cases {decl : Declaration} {inFile : Bool} {s : Step}
    (hs : s ∈ decl.steps inFile) :
    (inFile = true ∧ ∃ fallback, s = .introduce decl.text fallback decl.specifiers) ∨
    (inFile = true ∧ decl.isTypedef = false ∧
      ∃ d ∈ decl.declarators, d.isFunction = true ∧ s = .call .ccall decl.specifiers d) ∨
    (decl.isTypedef = true ∧
      ∃ d ∈ decl.declarators, ∃ name ∈ d.name, name ≠ "" ∧
        s = .record name decl.specifiers d.chain) := by
  unfold steps at hs
  split at hs
  · cases inFile with
    | false => cases hs
    | true => exact .inl ⟨rfl, "", List.mem_singleton.mp hs⟩
  · obtain ⟨d, hd, hs⟩ := List.mem_flatMap.mp hs
    unfold declaratorSteps at hs
    split at hs
    · rename_i hfunction
      rw [Bool.and_eq_true, Bool.not_eq_true'] at hfunction
      cases inFile with
      | false => cases hs
      | true =>
        exact .inr (.inl ⟨rfl, hfunction.2, d, hd, hfunction.1, List.mem_singleton.mp hs⟩)
    · rcases List.mem_append.mp hs with hs | hs
      · cases inFile with
        | false => cases hs
        | true => exact .inl ⟨rfl, _, List.mem_singleton.mp hs⟩
      · cases htypedef : decl.isTypedef with
        | false =>
          rw [htypedef] at hs
          cases hs
        | true =>
          rw [htypedef] at hs
          exact .inr (.inr ⟨rfl, d, hd, Declarator.mem_recordSteps_cases hs⟩)

theorem FunctionDefinition.mem_steps_cases {f : FunctionDefinition} {inFile : Bool} {s : Step}
    (hs : s ∈ f.steps inFile) :
    inFile = true ∧ (s = .call .cinline f.specifiers f.declarator ∨ s = .help f) := by
  cases inFile with
  | false => cases hs
  | true => exact ⟨rfl, by simpa [steps] using hs⟩

/-! ## Performing steps -/

/-- The lines that steps print, from a table on. -/
def stepLines (types : TypeTable) : List Step → List Line
  | [] => []
  | s :: rest => s.lines types ++ stepLines (s.types types) rest

def stepHelpers (types : TypeTable) : List Step → List HelperLine
  | [] => []
  | s :: rest => s.helpers types ++ stepHelpers (s.types types) rest

/-- A line of a run is a line of one of its steps, at the table that the step meets. -/
theorem exists_step_of_mem_stepLines {types : TypeTable} {steps : List Step} {line : Line}
    (h : line ∈ stepLines types steps) : ∃ s ∈ steps, ∃ types', line ∈ s.lines types' := by
  induction steps generalizing types with
  | nil => cases h
  | cons s rest ih =>
    rcases List.mem_append.mp h with h | h
    · exact ⟨s, List.mem_cons_self, types, h⟩
    · obtain ⟨s', hs', hline⟩ := ih h
      exact ⟨s', List.mem_cons_of_mem s hs', hline⟩

/-- The table after steps. -/
def stepTypes (types : TypeTable) (steps : List Step) : TypeTable := steps.foldl Step.types types

namespace Output

def perform (out : Output) (s : Step) : Output :=
  { lines := out.lines ++ s.lines out.types
    helpers := out.helpers ++ s.helpers out.types
    types := s.types out.types }

def performAll (out : Output) (steps : List Step) : Output := steps.foldl perform out

theorem performAll_append (out : Output) (steps steps' : List Step) :
    out.performAll (steps ++ steps') = (out.performAll steps).performAll steps' :=
  List.foldl_append

theorem performAll_lines (out : Output) (steps : List Step) :
    (out.performAll steps).lines = out.lines ++ stepLines out.types steps := by
  induction steps generalizing out with
  | nil => simp [performAll, stepLines]
  | cons s rest ih =>
    rw [performAll, List.foldl_cons, ← performAll, ih, stepLines, ← List.append_assoc]
    rfl

theorem performAll_helpers (out : Output) (steps : List Step) :
    (out.performAll steps).helpers = out.helpers ++ stepHelpers out.types steps := by
  induction steps generalizing out with
  | nil => simp [performAll, stepHelpers]
  | cons s rest ih =>
    rw [performAll, List.foldl_cons, ← performAll, ih, stepHelpers, ← List.append_assoc]
    rfl

theorem performAll_types (out : Output) (steps : List Step) :
    (out.performAll steps).types = stepTypes out.types steps := by
  induction steps generalizing out with
  | nil => rfl
  | cons s rest ih => exact ih (out.perform s)

theorem performAll_eq (out : Output) (steps : List Step) :
    out.performAll steps
      = { lines := out.lines ++ stepLines out.types steps
          helpers := out.helpers ++ stepHelpers out.types steps
          types := stepTypes out.types steps } := by
  rw [← performAll_lines, ← performAll_helpers, ← performAll_types]

/-! ## Emission performs the steps -/

theorem perform_record (out : Output) (specifiers : List Specifier) (d : Declarator) :
    out.record specifiers d = out.performAll (d.recordSteps specifiers) := by
  obtain ⟨name, chain⟩ := d
  cases name with
  | none => rfl
  | some name =>
    by_cases hname : name = ""
    · simp [record, Declarator.recordSteps, performAll, hname]
    · by_cases hs : chainSignature .binding out.types specifiers chain = "" <;>
        simp [record, Declarator.recordSteps, Declarator.signature, performAll, perform,
          Step.lines, Step.helpers, Step.types, define, hname, hs]

theorem addLines_eq_perform (out : Output) (text fallback : String)
    (specifiers : List Specifier) :
    out.addLines (.comment text :: introductions out.types fallback specifiers)
      = out.perform (.introduce text fallback specifiers) := by
  simp [addLines, perform, Step.lines, Step.helpers, Step.types]

theorem addLine_eq_perform (out : Output) (marker : Marker) (specifiers : List Specifier)
    (d : Declarator) :
    out.addLine (functionLine out.types marker specifiers d)
      = out.perform (.call marker specifiers d) := by
  simp [addLine, addLines, perform, Step.lines, Step.helpers, Step.types]

theorem emitDeclarator_eq_performAll (out : Output) (decl : Declaration) (inFile : Bool)
    (d : Declarator) :
    emitDeclarator decl inFile out d = out.performAll (decl.declaratorSteps inFile d) := by
  unfold emitDeclarator Declaration.declaratorSteps
  by_cases hf : (d.isFunction && !decl.isTypedef) = true
  · rw [if_pos hf, if_pos hf, addLine_eq_perform]
    cases inFile <;> rfl
  · rw [if_neg hf, if_neg hf, performAll_append, addLines_eq_perform]
    cases decl.isTypedef <;> cases inFile <;> simp only [perform_record] <;> rfl

theorem emitDeclaration_eq_performAll (out : Output) (filename : String) (decl : Declaration) :
    out.emitDeclaration filename decl
      = out.performAll (decl.steps ((Node.declaration decl).inFile filename)) := by
  unfold emitDeclaration Declaration.steps
  generalize (Node.declaration decl).inFile filename = inFile
  cases hds : decl.declarators with
  | nil => cases inFile <;> simp [addLines_eq_perform] <;> rfl
  | cons d ds =>
    simp only
    rw [performAll, List.foldl_flatMap]
    congr 1
    funext out d
    exact emitDeclarator_eq_performAll out decl inFile d

theorem emitDefinition_eq_performAll (out : Output) (filename : String) (f : FunctionDefinition) :
    out.emitDefinition filename f
      = out.performAll (f.steps ((Node.definition f).inFile filename)) := by
  rw [emitDefinition, FunctionDefinition.steps, addLine_eq_perform]
  cases (Node.definition f).inFile filename with
  | false => rfl
  | true =>
    cases h : f.helperLine out.types <;>
      simp [performAll, perform, Step.lines, Step.helpers, Step.types, addHelper, h]

theorem emit_eq_performAll (filename : String) (out : Output) (node : Node) :
    emit filename out node = out.performAll (node.steps filename) := by
  cases node with
  | declaration d => exact emitDeclaration_eq_performAll out filename d
  | definition f => exact emitDefinition_eq_performAll out filename f
  | assembly => rfl

/-- Emission performs the steps of its nodes in order. -/
theorem emitAll_eq_performAll (filename : String) (out : Output) (nodes : List Node) :
    emitAll filename out nodes = out.performAll (headerSteps filename nodes) := by
  rw [emitAll, headerSteps, performAll, List.foldl_flatMap]
  congr 1
  funext out node
  exact emit_eq_performAll filename out node

end Output

theorem Header.bindings_eq_performAll (header : Header) (filename : String) :
    header.bindings filename = Output.performAll {} (headerSteps filename header.nodes) :=
  Output.emitAll_eq_performAll filename {} header.nodes

theorem Header.exists_step_of_mem_lines {header : Header} {filename : String} {line : Line}
    (h : line ∈ (header.bindings filename).lines) :
    ∃ s ∈ headerSteps filename header.nodes, ∃ types, line ∈ s.lines types := by
  rw [bindings_eq_performAll, Output.performAll_lines] at h
  exact exists_step_of_mem_stepLines h

end HeaderBindings
