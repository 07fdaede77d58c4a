/-
  The functions of a header in both outputs.  The binding lines of functions and the helper lines
  are written by different rules; both go through the same functions in the order of the header.

  Main statement (`callables_transcribed`): the lines that open with the word for a function are, one
  for one and in order, those of the functions that the header declares or defines, and the helper
  lines those of the named functions with a body among them.
-/
import HeaderBindings.Proofs.Emission.Arguments
import HeaderBindings.Proofs.Emission.Blocks
import HeaderBindings.Proofs.Emission.Relevance

namespace HeaderBindings

/-! ## Functions and their lines -/

/-- The functions that a header declares or defines, in order.  Typedefs, variables, assembly and the
nodes of other files give none. -/
def Header.callables (header : Header) (filename : String) : List Callable :=
  header.nodes.flatMap (Node.callables filename)

namespace Callable

/-- A function with a body that has a name and is declared as a function. -/
def isWrapped (c : Callable) : Bool :=
  c.marker = .cinline && c.declarator.name.isSome && c.declarator.isFunction

/-- The line opens with the function's marker and its name. -/
def HasLine (c : Callable) (line : String) : Prop :=
  ∃ type, line = c.marker.render ++ " " ++ c.declarator.name.getD "<no name>" ++ " , " ++ type

/-- The line calls a helper macro with the function's name as the first argument. -/
def HasHelper (c : Callable) (line : String) : Prop :=
  ∃ name ∈ c.declarator.name, ∃ arity variant arguments,
    line = "BC_INLINE" ++ arity ++ variant ++ "(" ++ ", ".intercalate (name :: arguments) ++ ")"

end Callable

/-- The line opens with the word for a declared or for an inline function. -/
def isCallText (line : String) : Bool :=
  "#ccall ".toList.isPrefixOf line.toList || "#cinline ".toList.isPrefixOf line.toList

/-! ## Binding lines -/

theorem Line.isCallText_render {line : Line} (h : line.IsMarked) :
    isCallText line.render = line.isFunction := by
  cases line with
  | function marker name arguments result =>
    rcases h with rfl | rfl <;>
      simp [isCallText, render, Marker.render, String.toList_append, isFunction]
  | verbatim => cases h
  | comment | opaqueType | startType | field | arrayField | stopType | integral | number =>
    simp [isCallText, render, String.toList_append, List.isPrefixOf, isFunction]

/-- The lines of a header that open with the word for a function are those of its functions. -/
theorem bindingText_filter_isCallText (header : Header) (filename : String) :
    (header.bindings filename).bindingText.filter isCallText
      = (callSites filename {} header.nodes).map fun site => site.line.render := by
  have hsites : (header.bindings filename).lines.filter Line.isFunction
      = (callSites filename {} header.nodes).map CallSite.line :=
    emitAll_filter_isFunction filename {} header.nodes
  have hfilter : (header.bindings filename).lines.filter (isCallText ∘ Line.render)
      = (header.bindings filename).lines.filter Line.isFunction :=
    List.filter_congr fun line hline =>
      Line.isCallText_render (Header.isMarked_of_mem_lines hline)
  rw [Output.bindingText, List.filter_map, hfilter, hsites, List.map_map]
  rfl

/-- The functions of a header do not depend on the tables that they meet. -/
theorem callSites_callable (filename : String) (out : Output) (nodes : List Node) :
    (callSites filename out nodes).map CallSite.callable
      = nodes.flatMap (Node.callables filename) := by
  induction nodes generalizing out with
  | nil => rfl
  | cons node rest ih =>
    rw [callSites, List.map_append, ih, List.map_map, List.flatMap_cons]
    congr 1
    exact List.map_id _

/-- The line of a function whose name is not empty. -/
theorem CallSite.hasLine (site : CallSite) (h : site.callable.declarator.name ≠ some "") :
    site.callable.HasLine site.line.render := by
  have hname : site.callable.declarator.name.filter (· ≠ "") = site.callable.declarator.name := by
    cases hd : site.callable.declarator.name with
    | none => rfl
    | some name => simpa [hd] using h
  rw [CallSite.line, functionLine, Line.render, hname]
  exact ⟨_, rfl⟩

/-! ## Helper lines -/

/-- A definition has a helper line exactly if it is wrapped. -/
theorem FunctionDefinition.helperLine_hasHelper (types : TypeTable) (f : FunctionDefinition)
    (h : f.declarator.name ≠ some "") :
    List.Forall₂ Callable.HasHelper
      ([⟨.cinline, f.specifiers, f.declarator⟩].filter Callable.isWrapped)
      ((f.helperLine types).toList.map HelperLine.render) := by
  obtain ⟨specifiers, ⟨name, chain⟩, location, text⟩ := f
  match name, chain with
  | none, _ => exact .nil
  | some name, [] => exact .nil
  | some name, .pointer :: _ => exact .nil
  | some name, .array _ :: _ => exact .nil
  | some name, .function parameters isVariadic :: chain =>
    have hne : name ≠ "" := fun hname => h (congrArg some hname)
    refine .cons ⟨name, rfl, ?_⟩ .nil
    rw [HelperLine.render, List.filter_cons_of_pos (by simpa using hne)]
    exact ⟨_, _, _, rfl⟩

theorem Node.steps_hasHelper (filename : String) (node : Node)
    (h : ∀ c ∈ node.callables filename, c.declarator.name ≠ some "") :
    List.Forall₂ Callable.HasHelper ((node.callables filename).filter Callable.isWrapped)
      (((node.steps filename).flatMap (Step.helpers {})).map HelperLine.render) := by
  cases node with
  | assembly location text => exact .nil
  | declaration decl =>
    have hnone : ((Node.declaration decl).steps filename).flatMap (Step.helpers {}) = [] := by
      rw [List.flatMap_eq_nil_iff]
      intro s hs
      rcases Declaration.mem_steps_cases hs with
        ⟨_, fallback, rfl⟩ | ⟨_, _, d, _, _, rfl⟩ | ⟨_, d, _, name, _, _, rfl⟩ <;> rfl
    have hwrapped : ((Node.declaration decl).callables filename).filter Callable.isWrapped = [] := by
      rw [Node.callables, List.filter_eq_nil_iff]
      intro c hc
      split at hc
      · obtain ⟨d, _, rfl⟩ := List.mem_map.mp hc
        simp [Callable.isWrapped]
      · cases hc
    rw [hnone, hwrapped]
    exact .nil
  | definition f =>
    rw [Node.steps, FunctionDefinition.steps]
    rw [Node.callables] at h ⊢
    cases hfile : (Node.definition f).inFile filename with
    | false => exact .nil
    | true =>
      rw [hfile, if_pos rfl] at h
      rw [if_pos rfl, if_pos rfl, List.flatMap_cons, List.flatMap_singleton]
      exact f.helperLine_hasHelper {} (h _ (List.mem_singleton_self _))

theorem headerSteps_hasHelper (filename : String) {nodes : List Node}
    (h : ∀ c ∈ nodes.flatMap (Node.callables filename), c.declarator.name ≠ some "") :
    List.Forall₂ Callable.HasHelper
      ((nodes.flatMap (Node.callables filename)).filter Callable.isWrapped)
      (((headerSteps filename nodes).flatMap (Step.helpers {})).map HelperLine.render) := by
  rw [headerSteps]
  induction nodes with
  | nil => exact .nil
  | cons node rest ih =>
    rw [List.flatMap_cons, List.forall_mem_append] at h
    rw [List.flatMap_cons, List.filter_append, List.flatMap_cons, List.flatMap_append,
      List.map_append]
    exact List.rel_append (node.steps_hasHelper filename h.1) (ih h.2)

/-! ## Both outputs -/

/-- The lines that belong to some of the functions are, in order, some of the lines. -/
theorem exists_sublist_of_forall₂ {α β : Type} {R : α → β → Prop} (p : α → Bool) {xs : List α}
    {ys : List β} (h : List.Forall₂ R xs ys) :
    ∃ zs, zs.Sublist ys ∧ List.Forall₂ R (xs.filter p) zs := by
  induction h with
  | nil => exact ⟨[], .refl _, .nil⟩
  | @cons x y xs ys hxy _ ih =>
    obtain ⟨zs, hzs, hR⟩ := ih
    rw [List.filter_cons]
    split
    · exact ⟨y :: zs, hzs.cons_cons y, .cons hxy hR⟩
    · exact ⟨zs, hzs.cons y, hR⟩

/-- The functions of a header have one binding line each, in order.  The named functions with a body
among them have one helper line each as well, in the order of their binding lines. -/
theorem callables_transcribed (header : Header) (filename : String)
    (hnames : ∀ c ∈ header.callables filename, c.declarator.name ≠ some "") :
    let calls := (header.bindings filename).bindingText.filter isCallText
    List.Forall₂ Callable.HasLine (header.callables filename) calls ∧
    ∃ inlined, inlined.Sublist calls ∧
      List.Forall₂ Callable.HasLine ((header.callables filename).filter Callable.isWrapped)
        inlined ∧
      List.Forall₂ Callable.HasHelper ((header.callables filename).filter Callable.isWrapped)
        (header.bindings filename).helperText := by
  intro calls
  have hcallables := callSites_callable filename {} header.nodes
  have hlines : List.Forall₂ Callable.HasLine (header.callables filename) calls := by
    change List.Forall₂ _ _ (List.filter _ _)
    rw [Header.callables, ← hcallables, bindingText_filter_isCallText, List.forall₂_map_left_iff,
      List.forall₂_map_right_iff, List.forall₂_same]
    intro site hsite
    refine site.hasLine (hnames _ ?_)
    rw [Header.callables, ← hcallables]
    exact List.mem_map_of_mem hsite
  obtain ⟨inlined, hsublist, hinlined⟩ := exists_sublist_of_forall₂ Callable.isWrapped hlines
  refine ⟨hlines, inlined, hsublist, hinlined, ?_⟩
  have hhelpers : (header.bindings filename).helpers
      = (headerSteps filename header.nodes).flatMap (Step.helpers {}) := by
    rw [Header.bindings_eq_performAll, Output.performAll_helpers, stepHelpers_eq_flatMap]
    rfl
  rw [Output.helperText, hhelpers]
  exact headerSteps_hasHelper filename hnames

/-- Two functions in one declaration, a typedef of a function, a function of another file, an inline
function and one without a name. -/
def mixedHeader : Header where
  path := "t.h"
  nodes :=
    let here : Location := { file := "t.h", line := 1 }
    let function : List Derivation := [.function [] false]
    [ .declaration
        { specifiers := [.builtin .int], location := some here
          declarators := [{ name := some "f", chain := function }, { name := some "x" },
            { name := some "g", chain := function }] },
      .declaration
        { specifiers := [.builtin .int], location := some here, isTypedef := true
          declarators := [{ name := some "callback", chain := function }] },
      .declaration
        { specifiers := [.builtin .int], location := some { file := "other.h", line := 1 }
          declarators := [{ name := some "foreign", chain := function }] },
      .definition
        { specifiers := [.builtin .int], location := some here
          declarator := { name := some "h", chain := function } },
      .definition
        { specifiers := [.builtin .int], location := some here
          declarator := { chain := function } } ]

theorem callables_transcribed_mixedHeader :
    let calls := (mixedHeader.bindings "t.h").bindingText.filter isCallText
    (∀ c ∈ mixedHeader.callables "t.h", c.declarator.name ≠ some "") ∧
    calls = ["#ccall f , IO (CInt)", "#ccall g , IO (CInt)", "#cinline h , IO (CInt)",
      "#cinline <no name> , IO (CInt)"] ∧
    List.Forall₂ Callable.HasLine (mixedHeader.callables "t.h") calls ∧
    ∃ inlined, inlined.Sublist calls ∧
      List.Forall₂ Callable.HasLine ((mixedHeader.callables "t.h").filter Callable.isWrapped)
        inlined ∧
      List.Forall₂ Callable.HasHelper ((mixedHeader.callables "t.h").filter Callable.isWrapped)
        (mixedHeader.bindings "t.h").helperText := by
  have hnames : ∀ c ∈ mixedHeader.callables "t.h", c.declarator.name ≠ some "" := by decide
  exact ⟨hnames, by decide, callables_transcribed mixedHeader "t.h" hnames⟩

end HeaderBindings
