/-
  The order of nodes.  A foreign typedef only records its aliases, so it can change places with a
  neighbour that neither refers to these aliases nor records one of them, and none of whose own
  aliases it refers to.  The table then has its entries in another order.

  Main statement (`exchange_foreign`): the exchange leaves the lines, the helper lines and what each
  name is looked up as.
-/
import HeaderBindings.Proofs.Emission.Filter
import HeaderBindings.Proofs.Emission.Recorded

namespace HeaderBindings

/-! ## Tables up to order -/

/-- The same lines and helper lines, and tables with the same entries in any order. -/
structure Output.SameUpToOrder (o p : Output) : Prop where
  lines : o.lines = p.lines
  helpers : o.helpers = p.helpers
  lookup? : ∀ n, o.types.lookup? n = p.types.lookup? n

theorem Output.SameUpToOrder.trans {o p q : Output} (h : o.SameUpToOrder p)
    (h' : p.SameUpToOrder q) : o.SameUpToOrder q where
  lines := h.lines.trans h'.lines
  helpers := h.helpers.trans h'.helpers
  lookup? n := (h.lookup? n).trans (h'.lookup? n)

/-! ## Independent steps -/

namespace Step

theorem lookup?_types_of_not_mem {types : TypeTable} {s : Step} {n : String}
    (h : n ∉ s.declared) : (s.types types).lookup? n = types.lookup? n :=
  lookup?_types fun hn => h (recordedName?_mem_declared hn)

theorem added?_name {types : TypeTable} {s : Step} {e : String × String}
    (h : s.added? types = some e) : e.1 ∈ s.declared := by
  have hmem : e.1 ∈ (s.recordedName? types).toList := by
    rw [recordedName?_eq, h]
    exact List.mem_singleton_self e.1
  exact recordedName?_mem_declared hmem

theorem lookup?_types_congr {ts us : TypeTable} {s : Step}
    (h : ∀ n, ts.lookup? n = us.lookup? n) (n : String) :
    (s.types ts).lookup? n = (s.types us).lookup? n := by
  rw [types_eq, types_eq, added?_congr fun n _ => h n]
  cases s.added? us with
  | none => exact h n
  | some e => simp only [Option.elim_some, TypeTable.lookup?_define, h n]

/-- Neither step refers to what the other records, and they record different aliases. -/
structure Independent (r s : Step) : Prop where
  left : ∀ n ∈ r.declared, n ∉ s.aliases
  right : ∀ n ∈ s.declared, n ∉ r.aliases
  apart : ∀ n ∈ r.declared, n ∉ s.declared

theorem agreeOn_types {types : TypeTable} {r s : Step} (h : ∀ n ∈ r.declared, n ∉ s.aliases) :
    TypeTable.AgreeOn s.aliases (r.types types) types :=
  fun n hn => lookup?_types_of_not_mem fun hr => h n hr hn

/-- Independent steps record the same entries in either order. -/
theorem Independent.lookup?_types {r s : Step} (h : r.Independent s) (types : TypeTable)
    (n : String) :
    (s.types (r.types types)).lookup? n = (r.types (s.types types)).lookup? n := by
  have hs : s.types (r.types types)
      = (s.added? types).elim (r.types types) fun e => (r.types types).define e.1 e.2 := by
    rw [types_eq, added?_congr (agreeOn_types h.left)]
  have hr : r.types (s.types types)
      = (r.added? types).elim (s.types types) fun e => (s.types types).define e.1 e.2 := by
    rw [types_eq, added?_congr (agreeOn_types h.right)]
  rw [hs, hr, types_eq types r, types_eq types s]
  cases her : r.added? types with
  | none => rfl
  | some e =>
    cases hes : s.added? types with
    | none => rfl
    | some f =>
      have hne : e.1 ≠ f.1 := fun hef => h.apart _ (added?_name her) (hef ▸ added?_name hes)
      simp only [Option.elim_some, TypeTable.lookup?_define]
      by_cases hn : n = e.1
      · have hf : n ≠ f.1 := hn ▸ hne
        rw [if_neg hf, if_pos hn, if_pos hn]
      · rw [if_neg hn, if_neg hn]

end Step

/-! ## Runs -/

namespace Output

open Step

theorem SameUpToOrder.perform {o p : Output} (h : o.SameUpToOrder p) (s : Step) :
    (o.perform s).SameUpToOrder (p.perform s) where
  lines := by
    have hlines : s.lines o.types = s.lines p.types := s.lines_congr fun n _ => h.lookup? n
    simp only [Output.perform, h.lines, hlines]
  helpers := by simp only [Output.perform, h.helpers, s.helpers_eq o.types p.types]
  lookup? := lookup?_types_congr h.lookup?

theorem SameUpToOrder.performAll {o p : Output} (h : o.SameUpToOrder p) (steps : List Step) :
    (o.performAll steps).SameUpToOrder (p.performAll steps) := by
  induction steps generalizing o p with
  | nil => exact h
  | cons s rest ih => exact ih (h.perform s)

/-- A recording step changes places with an independent one. -/
theorem perform_comm (o : Output) {r s : Step} (hr : r.isRecord = true) (h : r.Independent s) :
    ((o.perform r).perform s).SameUpToOrder ((o.perform s).perform r) := by
  obtain ⟨hlines, hhelpers⟩ : (∀ types, r.lines types = []) ∧ ∀ types, r.helpers types = [] := by
    cases r with
    | record => exact ⟨fun _ => rfl, fun _ => rfl⟩
    | introduce | call | help => cases hr
  refine ⟨?_, ?_, h.lookup?_types o.types⟩
  · simp only [perform, hlines, List.append_nil, s.lines_congr (agreeOn_types h.left)]
  · simp only [perform, hhelpers, List.append_nil, s.helpers_eq _ o.types]

theorem perform_performAll_comm (o : Output) {r : Step} {steps : List Step}
    (hr : r.isRecord = true) (h : ∀ s ∈ steps, r.Independent s) :
    ((o.perform r).performAll steps).SameUpToOrder ((o.performAll steps).perform r) := by
  induction steps generalizing o with
  | nil => exact ⟨rfl, rfl, fun _ => rfl⟩
  | cons s rest ih =>
    have hs := (o.perform_comm hr (h s List.mem_cons_self)).performAll rest
    exact hs.trans (ih (o.perform s) fun s' hs' => h s' (List.mem_cons_of_mem s hs'))

/-- Recording steps change places with steps that are independent of each of them. -/
theorem performAll_comm (o : Output) {records steps : List Step}
    (hrecords : ∀ r ∈ records, r.isRecord = true)
    (h : ∀ r ∈ records, ∀ s ∈ steps, r.Independent s) :
    ((o.performAll records).performAll steps).SameUpToOrder
      ((o.performAll steps).performAll records) := by
  induction records generalizing o with
  | nil => exact ⟨rfl, rfl, fun _ => rfl⟩
  | cons r rest ih =>
    have hrest := ih (o.perform r) (fun r' hr' => hrecords r' (List.mem_cons_of_mem r hr'))
      fun r' hr' => h r' (List.mem_cons_of_mem r hr')
    have hr := o.perform_performAll_comm (hrecords r List.mem_cons_self) (h r List.mem_cons_self)
    exact hrest.trans (hr.performAll rest)

end Output

/-! ## Nodes -/

/-- The aliases that a node declares: the names of a typedef. -/
def Node.declaredAliases : Node → List String
  | .declaration d =>
    if d.isTypedef then d.declarators.filterMap fun x => x.name.filter (· ≠ "") else []
  | .definition _ | .assembly .. => []

theorem Node.mem_declaredAliases_of_mem_steps {filename : String} {node : Node} {s : Step}
    (hs : s ∈ node.steps filename) {n : String} (hn : n ∈ s.declared) :
    n ∈ node.declaredAliases := by
  cases node with
  | declaration decl =>
    rcases Declaration.mem_steps_cases hs with
      ⟨_, fallback, rfl⟩ | ⟨_, _, d, _, _, rfl⟩ | ⟨htypedef, d, hd, name, hname, hne, rfl⟩
    · cases hn
    · cases hn
    · rw [List.mem_singleton.mp hn, declaredAliases, if_pos htypedef, List.mem_filterMap]
      exact ⟨d, hd, by rw [hname]; simp [hne]⟩
  | definition f =>
    rcases (FunctionDefinition.mem_steps_cases hs).2 with rfl | rfl <;> cases hn
  | assembly location text => cases hs

theorem Output.emitAll_append (filename : String) (out : Output) (nodes nodes' : List Node) :
    out.emitAll filename (nodes ++ nodes')
      = (out.emitAll filename nodes).emitAll filename nodes' :=
  List.foldl_append

/-- A foreign node changes places with its neighbour, wherever the two stand, if none of the aliases
that it declares is referred to or declared by the neighbour, and it refers to none that the
neighbour declares. -/
theorem exchange_foreign (filename : String) (out : Output) (before after : List Node)
    (foreign node : Node) (hforeign : foreign.IsForeign filename)
    (hdeclared : ∀ n ∈ foreign.declaredAliases, n ∉ node.aliases ∧ n ∉ node.declaredAliases)
    (hreferred : ∀ n ∈ node.declaredAliases, n ∉ foreign.aliases) :
    (out.emitAll filename (before ++ [foreign, node] ++ after)).SameUpToOrder
      (out.emitAll filename (before ++ [node, foreign] ++ after)) := by
  have hindependent : ∀ r ∈ foreign.steps filename, ∀ s ∈ node.steps filename,
      r.Independent s := by
    intro r hr s hs
    refine ⟨fun n hn hmem => ?_, fun n hn hmem => ?_, fun n hn hmem => ?_⟩
    · exact (hdeclared n (Node.mem_declaredAliases_of_mem_steps hr hn)).1
        (node.mem_aliases_of_mem_steps hs hmem)
    · exact hreferred n (Node.mem_declaredAliases_of_mem_steps hs hn)
        (foreign.mem_aliases_of_mem_steps hr hmem)
    · exact (hdeclared n (Node.mem_declaredAliases_of_mem_steps hr hn)).2
        (Node.mem_declaredAliases_of_mem_steps hs hmem)
  have hrecords : ∀ r ∈ foreign.steps filename, r.isRecord = true := by
    rw [Node.steps_of_isForeign hforeign]
    exact foreign.isRecord_of_mem
  have hsplit : ∀ x y : Node, out.emitAll filename (before ++ [x, y] ++ after)
      = (((out.emitAll filename before).performAll (x.steps filename)).performAll
          (y.steps filename)).performAll (headerSteps filename after) := by
    intro x y
    rw [Output.emitAll_append, Output.emitAll_append, Output.emitAll_eq_performAll _ _ after]
    simp only [Output.emitAll, List.foldl_cons, List.foldl_nil, Output.emit_eq_performAll]
  rw [hsplit, hsplit]
  exact (Output.performAll_comm _ hrecords hindependent).performAll _

/-- The alias `size` of another file. -/
def foreignSize : Node :=
  .declaration
    { specifiers := [.sign .unsigned, .builtin .long], isTypedef := true
      location := some { file := "size.h", line := 1 }, declarators := [{ name := some "size" }] }

/-- The alias `sizes` of another file, a pointer to `size`. -/
def foreignSizes : Node :=
  .declaration
    { specifiers := [.typedefName "size"], isTypedef := true
      location := some { file := "size.h", line := 2 }
      declarators := [{ name := some "sizes", chain := [.pointer] }] }

/-- The alias `measure` of the file, a pointer to a function that takes and returns a `size`. -/
def measureTypedef : Node :=
  .declaration
    { specifiers := [.typedefName "size"], isTypedef := true
      location := some { file := "t.h", line := 1 }
      declarators :=
        [{ name := some "measure"
           chain := [.pointer, .function [{ specifiers := [.typedefName "size"] }] false] }] }

/-- A function that takes a `measure` and returns `sizes`. -/
def collectFunction : Node :=
  .declaration
    { specifiers := [.typedefName "sizes"], location := some { file := "t.h", line := 2 }
      declarators :=
        [{ name := some "collect"
           chain := [.function [{ specifiers := [.typedefName "measure"] }] false] }] }

theorem exchange_foreign_sizes :
    foreignSizes.IsForeign "t.h" ∧
    (∀ n ∈ foreignSizes.declaredAliases,
      n ∉ measureTypedef.aliases ∧ n ∉ measureTypedef.declaredAliases) ∧
    (∀ n ∈ measureTypedef.declaredAliases, n ∉ foreignSizes.aliases) ∧
    (Output.emitAll "t.h" {}
        [foreignSize, foreignSizes, measureTypedef, collectFunction]).SameUpToOrder
      (Output.emitAll "t.h" {} [foreignSize, measureTypedef, foreignSizes, collectFunction]) := by
  have hforeign : foreignSizes.IsForeign "t.h" := Node.isForeign_iff.mpr (by decide)
  have hdeclared : ∀ n ∈ foreignSizes.declaredAliases,
      n ∉ measureTypedef.aliases ∧ n ∉ measureTypedef.declaredAliases := by decide
  have hreferred : ∀ n ∈ measureTypedef.declaredAliases, n ∉ foreignSizes.aliases := by decide
  exact ⟨hforeign, hdeclared, hreferred,
    exchange_foreign "t.h" {} [foreignSize] [collectFunction] foreignSizes measureTypedef hforeign
      hdeclared hreferred⟩

/-- The order of the nodes shows in the order of the table. -/
example :
    (Output.emitAll "t.h" {} [foreignSize, foreignSizes, measureTypedef]).types.names
        = ["size", "sizes", "measure"] ∧
      (Output.emitAll "t.h" {} [foreignSize, measureTypedef, foreignSizes]).types.names
        = ["size", "measure", "sizes"] := by
  decide

end HeaderBindings
