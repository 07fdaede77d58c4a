/-
  Reading back the files of a header.  A file is its lines with a line feed after each, so it is cut
  into them again at the line feeds, as long as none of them holds one.

  Main statements (`pieces_moduleText`, `pieces_helperFileText`): the binding module is cut into its
  preamble, one import for each local include and the binding lines, the helper file into its two
  includes, the local includes, a blank line and the helper lines; what is left over is empty.
-/
import HeaderBindings.Module.Text
import HeaderBindings.Proofs.Module.Names
import HeaderBindings.Proofs.Text.Lines

namespace HeaderBindings

namespace Module

open Text (pieces)

/-! ## Lines of files -/

theorem fileText_eq_intercalate {lines : List String} (hne : lines ≠ []) :
    fileText lines = "\n".intercalate (lines ++ [""]) := by
  rw [fileText]
  induction lines with
  | nil => exact absurd rfl hne
  | cons line rest ih =>
    cases rest with
    | nil => simp
    | cons next rest =>
      rw [List.cons_append, List.cons_append, String.intercalate_cons_cons,
        String.intercalate_cons_cons, String.append_assoc, ih (List.cons_ne_nil next rest)]
      rfl

theorem pieces_fileText {lines : List String} (hlines : ∀ line ∈ lines, '\n' ∉ line.toList)
    (hne : lines ≠ []) : pieces (fileText lines) = lines ++ [""] := by
  rw [fileText_eq_intercalate hne]
  refine Text.pieces_intercalate ?_ (by simp)
  exact List.forall_mem_append.mpr ⟨hlines, List.forall_mem_singleton.mpr (by decide)⟩

theorem newline_not_mem_append {s t : String} (hs : '\n' ∉ s.toList) (ht : '\n' ∉ t.toList) :
    '\n' ∉ (s ++ t).toList := by
  rw [String.toList_append, List.mem_append]
  exact not_or.mpr ⟨hs, ht⟩

theorem newline_not_mem_baseName {path : String} (h : '\n' ∉ path.toList) :
    '\n' ∉ (Path.baseName path).toList := by
  rw [Path.baseName, String.toList_ofList]
  exact fun hmem => h (Path.baseNameChars_subset _ hmem)

theorem newline_not_mem_name {path : String} (h : '\n' ∉ path.toList) :
    '\n' ∉ (name path).toList := fun hmem =>
  newline_not_mem_baseName h (mem_baseName_of_mem_name (by decide) hmem)

theorem oneLine_of_mem_localIncludes {source line : String} (h : line ∈ localIncludes source) :
    OneLine line :=
  Text.oneLine_of_mem_splitLines (List.mem_filter.mp h).1

theorem newline_not_mem_importLine {pre line : String} (hpre : '\n' ∉ pre.toList)
    (hline : OneLine line) : '\n' ∉ (importLine pre line).toList := by
  have hpath : '\n' ∉ (String.ofList ((line.toList.drop includeOpening.length).takeWhile
      (· ≠ '"'))).toList := by
    rw [String.toList_ofList]
    exact fun hmem => hline.newline_not_mem
      (List.mem_of_mem_drop ((List.takeWhile_sublist _).subset hmem))
  have hopening : '\n' ∉ "import ".toList := by decide
  have hdot : '\n' ∉ ".".toList := by decide
  exact newline_not_mem_append
    (newline_not_mem_append (newline_not_mem_append hopening hpre) hdot)
    (newline_not_mem_name hpath)

theorem newline_not_mem_ownInclude {filename : String} (h : '\n' ∉ filename.toList) :
    '\n' ∉ ("#include <" ++ Path.baseName filename ++ ">").toList := by
  have hopening : '\n' ∉ "#include <".toList := by decide
  exact newline_not_mem_append (newline_not_mem_append hopening (newline_not_mem_baseName h))
    (by decide)

theorem newline_not_mem_preamble {pre filename : String} (hpre : '\n' ∉ pre.toList)
    (hfilename : '\n' ∉ filename.toList) :
    ∀ line ∈ preamble pre filename, '\n' ∉ line.toList := by
  have hmodule : '\n' ∉ "module ".toList := by decide
  have hwhere : '\n' ∉ " where".toList := by decide
  have hdot : '\n' ∉ ".".toList := by decide
  have hheading := newline_not_mem_append (newline_not_mem_append (newline_not_mem_append
    (newline_not_mem_append hmodule hpre) hdot) (newline_not_mem_name hfilename)) hwhere
  rw [preamble]
  simp only [List.forall_mem_cons, List.not_mem_nil, false_imp_iff, implies_true, and_true]
  exact ⟨by decide, newline_not_mem_ownInclude hfilename, hheading, by decide, by decide⟩

end Module

/-! ## The files of a header -/

namespace Output

open HeaderBindings.Module HeaderBindings.Text

variable {out : Output} {pre filename : String} (source : String)

theorem pieces_moduleText (hpre : '\n' ∉ pre.toList) (hfilename : '\n' ∉ filename.toList)
    (hlines : ∀ line ∈ out.bindingText, OneLine line) :
    pieces (out.moduleText pre filename source)
      = preamble pre filename ++ (localIncludes source).map (importLine pre) ++ out.bindingText
        ++ [""] := by
  refine pieces_fileText ?_ (by simp [preamble])
  refine List.forall_mem_append.mpr ⟨List.forall_mem_append.mpr ⟨?_, ?_⟩, ?_⟩
  · exact newline_not_mem_preamble hpre hfilename
  · exact List.forall_mem_map.mpr fun line hline =>
      newline_not_mem_importLine hpre (oneLine_of_mem_localIncludes hline)
  · exact fun line hline => (hlines line hline).newline_not_mem

theorem pieces_helperFileText (hfilename : '\n' ∉ filename.toList)
    (hlines : ∀ line ∈ out.helperText, OneLine line) :
    pieces (out.helperFileText filename source)
      = ["#include <bindings.cmacros.h>", "#include <" ++ Path.baseName filename ++ ">"]
        ++ localIncludes source ++ [""] ++ out.helperText ++ [""] := by
  refine pieces_fileText ?_ (by simp)
  simp only [List.forall_mem_append, List.forall_mem_cons, List.not_mem_nil, false_imp_iff,
    implies_true, and_true]
  refine ⟨⟨⟨⟨by decide, newline_not_mem_ownInclude hfilename⟩, ?_⟩, by decide⟩, ?_⟩
  · exact fun line hline => (oneLine_of_mem_localIncludes hline).newline_not_mem
  · exact fun line hline => (hlines line hline).newline_not_mem

end Output

end HeaderBindings
