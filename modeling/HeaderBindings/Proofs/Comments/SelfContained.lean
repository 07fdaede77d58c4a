/-
  The comments of a header.  A declaration is shown in a comment as it is, whatever stands in it, so
  the comment closes where it ends exactly if the shown text closes the comments that it opens.

  This holds of every header, whatever its declarations were read by
  (`Header.comment_selfContained_iff`).

  Main statement (`comments_selfContained_iff`): of a header that was read from C, the declarations
  are printed from their trees, and a plain one always gives a comment that closes where it ends.  A
  list that begins with a negative number gives none.
-/
import HeaderBindings.C.Reading
import HeaderBindings.Proofs.Comments.Printed
import HeaderBindings.Proofs.Emission.Steps

namespace HeaderBindings

open BlockComment

theorem C.Decl.isChain_line {decl : C.Decl} (h : decl.isPlain = true) :
    decl.line.toList.IsChain Fits :=
  isChain_collapseBlanks ((decl.clean_text 0 h).append (by decide)).chain

/-- A comment shows a declaration of the header. -/
theorem Header.exists_declaration_of_mem_lines {header : Header} {filename text : String}
    (h : .comment text ∈ (header.bindings filename).lines) :
    ∃ decl, .declaration decl ∈ header.nodes ∧ decl.text = text := by
  obtain ⟨s, hs, types, hline⟩ := exists_step_of_mem_lines h
  obtain ⟨node, hnode, hs⟩ := List.mem_flatMap.mp hs
  -- only an introduction prints a comment, and only a declaration takes one
  cases s with
  | introduce shown fallback specifiers =>
    rcases List.mem_cons.mp hline with heq | hline
    · obtain rfl : text = shown := by injection heq
      cases node with
      | declaration decl =>
        rcases Declaration.mem_steps_cases hs with
          ⟨_, _, heq⟩ | ⟨_, _, _, _, _, heq⟩ | ⟨_, _, _, _, _, _, heq⟩
        · injection heq with htext
          exact ⟨decl, hnode, htext.symm⟩
        · cases heq
        · cases heq
      | definition f =>
        rcases (FunctionDefinition.mem_steps_cases hs).2 with heq | heq <;> cases heq
      | assembly => cases hs
    · cases isIntroduction_of_mem_introductions hline
  | call marker specifiers d => cases List.mem_singleton.mp hline
  | help f => cases hline
  | record name specifiers chain => cases hline

/-- A comment of a header shows one of its declarations, and closes where it ends exactly if the
shown text closes the comments that it opens and no more. -/
theorem Header.comment_selfContained_iff {header : Header} {filename shown : String}
    (h : .comment shown ∈ (header.bindings filename).lines) :
    (∃ decl, .declaration decl ∈ header.nodes ∧ decl.text = shown) ∧
      (SelfContained (Line.comment shown).render ↔ balance 0 shown.toList = some 0) :=
  ⟨exists_declaration_of_mem_lines h, selfContained_comment_iff shown⟩

theorem C.External.exists_decl_of_node? {file : String} {e : C.External} {decl : Declaration}
    (h : e.node? file = some (.declaration decl)) :
    ∃ d, e = .declaration d ∧ decl.text = d.line := by
  cases e with
  | declaration d =>
    injection h with h
    injection h with h
    refine ⟨d, rfl, ?_⟩
    cases d <;> rw [← h, C.Decl.declaration]
  | definition => cases h
  | silent => cases h

theorem C.read_eq_ok {text : List Char} {path : String} {header : Header}
    (h : C.read text path = .ok header) :
    ∃ externals, C.parse text path = .ok externals ∧
      header.nodes = externals.filterMap (C.External.node? path) := by
  unfold C.read at h
  cases hparse : C.parse text path with
  | error fault =>
    rw [hparse] at h
    cases h
  | ok externals =>
    rw [hparse] at h
    cases h
    exact ⟨externals, rfl, rfl⟩

/-- Every comment of a header that was read from C shows one of its declarations.  It closes where
it ends exactly if the shown text closes the comments that it opens and no more, and it does if the
declaration is plain. -/
theorem comments_selfContained_iff (text : List Char) (path filename shown : String)
    {header : Header} (hread : C.read text path = .ok header)
    (hshown : .comment shown ∈ (header.bindings filename).lines) :
    ∃ externals, C.parse text path = .ok externals ∧
    ∃ decl, .declaration decl ∈ externals ∧ shown = decl.line ∧
      (SelfContained (Line.comment shown).render ↔ balance 0 shown.toList = some 0) ∧
      (decl.isPlain = true → SelfContained (Line.comment shown).render) := by
  obtain ⟨externals, hparse, hnodes⟩ := C.read_eq_ok hread
  obtain ⟨⟨declaration, hdeclaration, rfl⟩, hclosed⟩ := Header.comment_selfContained_iff hshown
  rw [hnodes] at hdeclaration
  obtain ⟨e, he, hnode⟩ := List.mem_filterMap.mp hdeclaration
  obtain ⟨decl, rfl, hline⟩ := C.External.exists_decl_of_node? hnode
  refine ⟨externals, hparse, decl, he, hline, hclosed, fun hplain => hclosed.mpr ?_⟩
  rw [hline]
  exact balance_of_isChain 0 (C.Decl.isChain_line hplain)

/-- A table whose negative number does not come first. -/
theorem comments_selfContained_iff_table :
    let text := "int table[] = \x7b3, -1, 4\x7d;"
    ∃ header, C.read text.toList "t.h" = .ok header ∧
      .comment text ∈ (header.bindings "include/t.h").lines ∧
      SelfContained ("\x7b- " ++ text ++ " -\x7d") := by
  intro text
  have hlines : (C.read text.toList "t.h").toOption.map
      (fun header => (header.bindings "include/t.h").lines) = some [.comment text] := by
    decide +kernel
  obtain ⟨header, hheader, hline⟩ := Option.map_eq_some_iff.mp hlines
  have hread : C.read text.toList "t.h" = .ok header := by
    cases h : C.read text.toList "t.h" with
    | error fault =>
      rw [h] at hheader
      cases hheader
    | ok _ =>
      rw [h] at hheader
      exact congrArg Except.ok (Option.some.inj hheader)
  have hshown : .comment text ∈ (header.bindings "include/t.h").lines := by
    rw [hline]
    exact List.mem_singleton_self _
  obtain ⟨_, _, _, _, _, hclosed, _⟩ :=
    comments_selfContained_iff text.toList "t.h" "include/t.h" text hread hshown
  exact ⟨header, hread, hshown, hclosed.mpr (by decide)⟩

/-- Where the negative number comes first, the comment is left open. -/
example : (C.read "int table[] = \x7b-1, 4\x7d;".toList "t.h").toOption.map
    (fun header => (header.bindings "t.h").lines.map fun line => decide (SelfContained line.render))
      = some [false] := by
  decide +kernel

end HeaderBindings
