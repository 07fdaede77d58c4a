/-
  Printed types are unambiguous.  A run over trees takes the steps of a header with parses in the
  place of text, and starts from the parses of what is recorded.

  Main statement (`emitAll_reads`): if the aliases of a header are identifiers and every recorded
  signature has a parse, then after the run every recorded signature and every type on an added
  line has exactly one parse, which is the tree that the run over trees has there.
-/
import HeaderBindings.Proofs.Emission.Transcript
import HeaderBindings.Proofs.Signature.Reading

namespace HeaderBindings

/-- A printed line and the trees of its types, each the one parse of the text at its place. -/
inductive Reads : String → TypedLine TypeTree (Option TypeTree) → Prop where
  | plain (line : Line) (h) : Reads line.render (.plain line h)
  | field (name : String) {type s} : OnlyParse (SignatureParse type) s →
      Reads ("#field " ++ name ++ " , " ++ type) (.field name s)
  | arrayField (name : String) {type s} : OnlyParse (SignatureParse type) s →
      Reads ("#array_field " ++ name ++ " , " ++ type) (.arrayField name s)
  | function (marker : Marker) (name : String) {type ts s} :
      OnlyParse (ArrowParse type) (.ofParts ts s) →
      Reads (marker.render ++ " " ++ name ++ " , " ++ type) (.function marker name ts s)

theorem reads_of_rel {line : TypedLine String String} {tree : TypedLine TypeTree (Option TypeTree)}
    (h : TypedLine.Rel TypeParse SignatureParse line tree) : Reads line.toLine.render tree := by
  cases h with
  | plain line h => exact .plain line h
  | field name hs => exact .field name hs.only
  | arrayField name hs => exact .arrayField name hs.only
  | function marker name hts hs =>
    rw [TypedLine.toLine, Line.render_function]
    exact .function marker name (ofParts_parse hts hs).only

/-! ## Runs -/

/-- Every type that a run prints or records has one parse, the tree of the same run over trees. -/
theorem emitAll_reads (filename : String) (nodes : List Node) (out : Output)
    (hnames : ∀ node ∈ nodes, ∀ name ∈ node.aliases, C.isIdentifier name.toList = true)
    (hout : ∀ entry ∈ out.types.entries, ∃ t, TypeParse entry.2 t) :
    ∃ trees : Table String TypeTree,
      Table.Rel (fun text => OnlyParse (TypeParse text)) out.types.entries trees ∧
      Table.Rel (fun text => OnlyParse (TypeParse text)) (out.emitAll filename nodes).types.entries
        (typedTypes treeAlgebra trees (headerSteps filename nodes)) ∧
      ∃ added, (out.emitAll filename nodes).bindingText = out.bindingText ++ added ∧
        List.Forall₂ Reads added (typedLines treeAlgebra trees (headerSteps filename nodes)) := by
  obtain ⟨trees, htrees⟩ := Table.exists_rel hout
  have hsteps : ∀ s ∈ headerSteps filename nodes, ∀ n ∈ s.aliases,
      C.isIdentifier n.toList = true := by
    intro s hs n hn
    obtain ⟨node, hnode, hs⟩ := List.mem_flatMap.mp hs
    exact hnames node hnode n (node.mem_aliases_of_mem_steps hs hn)
  obtain ⟨hlines, htypes⟩ := typedRun_related binding_related aliasName_parse _ hsteps htrees
  refine ⟨trees, htrees.imp fun _ _ h => h.only, ?_,
    (stepLines out.types (headerSteps filename nodes)).map Line.render, ?_, ?_⟩
  · rw [Output.emitAll_eq_performAll, Output.performAll_types, stepTypes_entries]
    exact htypes.imp fun _ _ h => h.only
  · rw [Output.emitAll_eq_performAll, Output.bindingText, Output.performAll_lines, List.map_append]
    rfl
  · rw [stepLines_eq_map, List.forall₂_map_left_iff, List.forall₂_map_left_iff]
    exact hlines.imp fun _ _ h => reads_of_rel h

/-- Read after `size`: an alias of a string, an alias of a function type over it and over a name
that is not recorded, and a function that takes the latter. -/
def aliasHeader : List Node :=
  let place : Option Location := some { file := "include/t.h", line := 1 }
  let text : Declaration := { specifiers := [.typedefName "text"] }
  let file : Declaration :=
    { specifiers := [.typedefName "file"], declarators := [{ chain := [.pointer] }] }
  let reader : Declaration := { specifiers := [.typedefName "reader"] }
  [ .declaration
      { specifiers := [.builtin .char], isTypedef := true, location := place
        declarators := [{ name := some "text", chain := [.pointer] }] },
    .declaration
      { specifiers := [.typedefName "size"], isTypedef := true, location := place
        declarators :=
          [{ name := some "reader", chain := [.pointer, .function [text, file] false] }] },
    .declaration
      { specifiers := [.builtin .void], location := place
        declarators := [{ name := some "install", chain := [.function [reader] false] }] } ]

/-- An output with the alias `size`. -/
def sizeOutput : Output := { types := ⟨[("size", "CULong")]⟩ }

theorem emitAll_reads_aliasHeader :
    (∀ node ∈ aliasHeader, ∀ name ∈ node.aliases, C.isIdentifier name.toList = true) ∧
    (∀ entry ∈ sizeOutput.types.entries, ∃ t, TypeParse entry.2 t) ∧
    ∃ trees : Table String TypeTree,
      Table.Rel (fun text => OnlyParse (TypeParse text))
        (sizeOutput.emitAll "t.h" aliasHeader).types.entries
        (typedTypes treeAlgebra trees (headerSteps "t.h" aliasHeader)) ∧
      List.Forall₂ Reads (sizeOutput.emitAll "t.h" aliasHeader).bindingText
        (typedLines treeAlgebra trees (headerSteps "t.h" aliasHeader)) := by
  have hnames : ∀ node ∈ aliasHeader, ∀ name ∈ node.aliases,
      C.isIdentifier name.toList = true := by decide
  have hout : ∀ entry ∈ sizeOutput.types.entries, ∃ t, TypeParse entry.2 t := by
    intro entry hentry
    rw [List.mem_singleton.mp hentry]
    exact ⟨.atom (.base .ulong), trivial, rfl⟩
  obtain ⟨trees, _, htypes, added, hadded, hreads⟩ :=
    emitAll_reads "t.h" aliasHeader sizeOutput hnames hout
  refine ⟨hnames, hout, trees, htypes, ?_⟩
  rw [hadded]
  exact hreads

end HeaderBindings
