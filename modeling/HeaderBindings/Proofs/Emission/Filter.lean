/-
  The file filter and the typedef table.  Nodes from other files are foreign: they print nothing,
  and a foreign typedef is recorded all the same.

  Main statements: the recording steps of a header do not depend on the file name
  (`headerSteps_filter_isRecord`), so neither does the table (`emitAll_types_eq`), and a header may
  lose its foreign nodes that are no typedefs and have the others relabelled with the same output
  (`filter_noninterference`).
-/
import HeaderBindings.Proofs.Emission.Steps

namespace HeaderBindings

/-- A node without a location, or from a file of another base name. -/
def Node.IsForeign (filename : String) (node : Node) : Prop :=
  ∀ place ∈ node.location, Path.baseName place.file ≠ Path.baseName filename

theorem Node.isForeign_iff {filename : String} {node : Node} :
    node.IsForeign filename ↔ node.inFile filename = false := by
  cases h : node.location <;> simp [IsForeign, inFile, h]

/-! ## Recording steps -/

def Step.isRecord : Step → Bool
  | record .. => true
  | introduce .. | call .. | help _ => false

def Declaration.recordSteps (decl : Declaration) : List Step :=
  if decl.isTypedef then decl.declarators.flatMap (Declarator.recordSteps decl.specifiers) else []

/-- The steps of a node that record an alias. -/
def Node.recordSteps : Node → List Step
  | .declaration d => d.recordSteps
  | .definition _ | .assembly .. => []

theorem Declarator.isRecord_of_mem (specifiers : List Specifier) (d : Declarator) :
    ∀ s ∈ d.recordSteps specifiers, s.isRecord = true := by
  intro s hs
  obtain ⟨name, _, _, rfl⟩ := mem_recordSteps_cases hs
  rfl

theorem Node.isRecord_of_mem (node : Node) : ∀ s ∈ node.recordSteps, s.isRecord = true := by
  cases node with
  | declaration decl =>
    intro s hs
    rw [recordSteps, Declaration.recordSteps] at hs
    split at hs
    · obtain ⟨d, _, hd⟩ := List.mem_flatMap.mp hs
      exact d.isRecord_of_mem decl.specifiers s hd
    · simp at hs
  | definition f => simp [recordSteps]
  | assembly location text => simp [recordSteps]

theorem declaratorSteps_filter (decl : Declaration) (inFile : Bool) (d : Declarator) :
    (decl.declaratorSteps inFile d).filter Step.isRecord
      = if decl.isTypedef then d.recordSteps decl.specifiers else [] := by
  have hrecord := List.filter_eq_self.mpr (d.isRecord_of_mem decl.specifiers)
  unfold Declaration.declaratorSteps
  cases decl.isTypedef <;> cases d.isFunction <;> cases inFile <;> simp [Step.isRecord, hrecord]

theorem Declaration.steps_filter (decl : Declaration) (inFile : Bool) :
    (decl.steps inFile).filter Step.isRecord = decl.recordSteps := by
  unfold Declaration.steps Declaration.recordSteps
  cases hds : decl.declarators with
  | nil => cases inFile <;> simp [Step.isRecord]
  | cons d ds =>
    simp only [List.filter_flatMap, declaratorSteps_filter]
    cases decl.isTypedef <;> simp

theorem Node.steps_filter (filename : String) (node : Node) :
    (node.steps filename).filter Step.isRecord = node.recordSteps := by
  cases node with
  | declaration d => exact d.steps_filter _
  | definition f =>
    rw [Node.steps, FunctionDefinition.steps]
    split <;> simp [Step.isRecord, Node.recordSteps]
  | assembly location text => rfl

/-- Which aliases a header records, and in which order, does not depend on the file. -/
theorem headerSteps_filter_isRecord (filename : String) (nodes : List Node) :
    (headerSteps filename nodes).filter Step.isRecord = nodes.flatMap Node.recordSteps := by
  rw [headerSteps, List.filter_flatMap]
  congr 1
  funext node
  exact node.steps_filter filename

/-- Only recording steps act on the table. -/
theorem stepTypes_filter_isRecord (types : TypeTable) (steps : List Step) :
    stepTypes types (steps.filter Step.isRecord) = stepTypes types steps := by
  induction steps generalizing types with
  | nil => rfl
  | cons s rest ih =>
    cases s with
    | record name specifiers chain => exact ih _
    | introduce text fallback specifiers => exact ih types
    | call marker specifiers d => exact ih types
    | help f => exact ih types

/-- The table after a header is the same for every file name. -/
theorem emitAll_types_eq (filename : String) (out : Output) (nodes : List Node) :
    (out.emitAll filename nodes).types = stepTypes out.types (nodes.flatMap Node.recordSteps) := by
  rw [Output.emitAll_eq_performAll, Output.performAll_types, ← headerSteps_filter_isRecord filename,
    stepTypes_filter_isRecord]

/-! ## Foreign nodes -/

theorem declaratorSteps_false (decl : Declaration) :
    decl.declaratorSteps false
      = fun d => if decl.isTypedef then d.recordSteps decl.specifiers else [] := by
  funext d
  unfold Declaration.declaratorSteps
  cases decl.isTypedef <;> cases d.isFunction <;> rfl

/-- All that a foreign node does is to record its aliases. -/
theorem Node.steps_of_isForeign {filename : String} {node : Node} (h : node.IsForeign filename) :
    node.steps filename = node.recordSteps := by
  have hfile := Node.isForeign_iff.mp h
  cases node with
  | declaration decl =>
    rw [Node.steps, hfile, Node.recordSteps, Declaration.steps, Declaration.recordSteps]
    cases hds : decl.declarators with
    | nil => simp
    | cons d ds =>
      simp only [declaratorSteps_false]
      cases decl.isTypedef <;> simp
  | definition f =>
    rw [Node.steps, hfile]
    rfl
  | assembly location text => rfl

theorem stepLines_of_isRecord {steps : List Step} (h : ∀ s ∈ steps, s.isRecord = true)
    (types : TypeTable) : stepLines types steps = [] ∧ stepHelpers types steps = [] := by
  induction steps generalizing types with
  | nil => exact ⟨rfl, rfl⟩
  | cons s rest ih =>
    have hs := h s List.mem_cons_self
    obtain ⟨hlines, hhelpers⟩ := ih (fun s' h' => h s' (List.mem_cons_of_mem _ h')) (s.types types)
    cases s with
    | record name specifiers chain =>
      rw [stepLines, stepHelpers, hlines, hhelpers]
      exact ⟨rfl, rfl⟩
    | _ => cases hs

theorem emit_of_isForeign {filename : String} {node : Node} (h : node.IsForeign filename)
    (out : Output) :
    (out.emit filename node).lines = out.lines ∧
      (out.emit filename node).helpers = out.helpers := by
  obtain ⟨hlines, hhelpers⟩ := stepLines_of_isRecord node.isRecord_of_mem out.types
  rw [Output.emit_eq_performAll, Node.steps_of_isForeign h, Output.performAll_lines,
    Output.performAll_helpers, hlines, hhelpers, List.append_nil, List.append_nil]
  exact ⟨rfl, rfl⟩

/-! ## Trimmed headers -/

def Node.isTypedef : Node → Bool
  | .declaration d => d.isTypedef
  | .definition _ | .assembly .. => false

/-- A header without its foreign nodes that are no typedefs, each other foreign node under any
foreign location and any text. -/
inductive Trimmed (filename : String) : List Node → List Node → Prop where
  | nil : Trimmed filename [] []
  | keep {node nodes trimmed} : ¬ node.IsForeign filename → Trimmed filename nodes trimmed →
      Trimmed filename (node :: nodes) (node :: trimmed)
  | delete {node nodes trimmed} : node.IsForeign filename → node.isTypedef = false →
      Trimmed filename nodes trimmed → Trimmed filename (node :: nodes) trimmed
  | relabel {d nodes trimmed} (location : Option Location) (text : String) :
      d.isTypedef = true → (Node.declaration d).IsForeign filename →
      (Node.declaration { d with location, text }).IsForeign filename →
      Trimmed filename nodes trimmed →
      Trimmed filename (.declaration d :: nodes) (.declaration { d with location, text } :: trimmed)

theorem Node.recordSteps_of_not_isTypedef {node : Node} (h : node.isTypedef = false) :
    node.recordSteps = [] := by
  cases node with
  | declaration d => exact if_neg (by rw [show d.isTypedef = false from h]; decide)
  | definition f => rfl
  | assembly location text => rfl

theorem Trimmed.headerSteps_eq {filename : String} {nodes trimmed : List Node}
    (h : Trimmed filename nodes trimmed) :
    headerSteps filename trimmed = headerSteps filename nodes := by
  induction h with
  | nil => rfl
  | keep _ _ ih => rw [headerSteps, headerSteps, List.flatMap_cons, List.flatMap_cons,
      ← headerSteps, ← headerSteps, ih]
  | delete hforeign htypedef _ ih =>
    rw [headerSteps, headerSteps, List.flatMap_cons, ← headerSteps, ← headerSteps, ih,
      Node.steps_of_isForeign hforeign, Node.recordSteps_of_not_isTypedef htypedef,
      List.nil_append]
  | relabel location text _ hforeign hforeign' _ ih =>
    rw [headerSteps, headerSteps, List.flatMap_cons, List.flatMap_cons, ← headerSteps,
      ← headerSteps, ih, Node.steps_of_isForeign hforeign, Node.steps_of_isForeign hforeign']
    rfl

/-- The filter decides on what is printed only.  The table is the same for every file name; of the
foreign nodes only the typedefs matter, whatever their text and place; and no foreign node prints
anything. -/
theorem filter_noninterference (filename : String) (nodes : List Node) (out : Output) :
    (∀ other, (out.emitAll other nodes).types = (out.emitAll filename nodes).types) ∧
    (∀ trimmed, Trimmed filename nodes trimmed →
      out.emitAll filename trimmed = out.emitAll filename nodes) ∧
    ∀ node : Node, node.IsForeign filename → ∀ before : Output,
      (before.emit filename node).lines = before.lines ∧
      (before.emit filename node).helpers = before.helpers := by
  refine ⟨?_, ?_, ?_⟩
  · intro other
    rw [emitAll_types_eq, emitAll_types_eq]
  · intro trimmed h
    rw [Output.emitAll_eq_performAll, Output.emitAll_eq_performAll, h.headerSteps_eq]
  · intro node hforeign before
    exact emit_of_isForeign hforeign before

/-- A function and an alias of another file, and a function that uses the alias. -/
def includingHeader : List Node :=
  [ .declaration
      { specifiers := [.builtin .int], location := some { file := "include/size.h", line := 1 }
        declarators := [{ name := some "measure", chain := [.function [] false] }] },
    .declaration
      { specifiers := [.sign .unsigned, .builtin .long], isTypedef := true, text := "size"
        location := some { file := "include/size.h", line := 2 }
        declarators := [{ name := some "size" }] },
    .declaration
      { specifiers := [.typedefName "size"], location := some { file := "include/t.h", line := 1 }
        declarators := [{ name := some "length", chain := [.function [] false] }] } ]

/-- The same without the function of the other file, the alias moved to no file. -/
def includingHeaderTrimmed : List Node :=
  [ .declaration
      { specifiers := [.sign .unsigned, .builtin .long], isTypedef := true
        declarators := [{ name := some "size" }] },
    .declaration
      { specifiers := [.typedefName "size"], location := some { file := "include/t.h", line := 1 }
        declarators := [{ name := some "length", chain := [.function [] false] }] } ]

theorem trimmed_includingHeader : Trimmed "t.h" includingHeader includingHeaderTrimmed := by
  refine .delete (Node.isForeign_iff.mpr (by decide)) rfl (.relabel none "" rfl ?_ ?_ ?_)
  · exact Node.isForeign_iff.mpr (by decide)
  · exact Node.isForeign_iff.mpr (by decide)
  · exact .keep (mt Node.isForeign_iff.mp (by decide)) .nil

theorem filter_noninterference_includingHeader :
    Trimmed "t.h" includingHeader includingHeaderTrimmed ∧
      Output.emitAll "t.h" {} includingHeaderTrimmed = Output.emitAll "t.h" {} includingHeader :=
  ⟨trimmed_includingHeader,
    (filter_noninterference "t.h" includingHeader {}).2.1 _ trimmed_includingHeader⟩

end HeaderBindings
