/-
  Imports and the modules they name.  A local include is read off a line of the source and a module
  is named after the path of its header; both names come from the base name alone, so they agree
  wherever the included header lies.

  Main statement (`imported_module_declared`): the module imported at the place of an include is the
  one that the included header's own file declares, and that file is called after it.
-/
import HeaderBindings.Proofs.Module.Includes

namespace HeaderBindings

namespace Module

/-- Headers with one base name have one module. -/
theorem name_congr {path path' : String} (h : Path.baseName path = Path.baseName path') :
    name path = name path' := by
  have hchars : Path.baseNameChars path.toList = Path.baseNameChars path'.toList :=
    String.ofList_inj.mp h
  rw [name, name, Path.stem, Path.stem, hchars]

/-- The directive in its plain spelling. -/
def includeLine (path rest : String) : String := "#include \"" ++ path ++ "\"" ++ rest

section IncludeLine

variable {path rest : String} (hquote : '"' ∉ path.toList) (hpath : OneLine path)
  (hrest : OneLine rest)

theorem includeLine_ne_empty : includeLine path rest ≠ "" := by
  rw [includeLine, String.append_assoc, String.append_assoc, ne_eq, String.append_eq_empty_iff]
  exact fun h => absurd h.1 (by decide)

theorem toList_includeLine :
    (includeLine path rest).toList = includeOpening ++ (path.toList ++ '"' :: rest.toList) := by
  rw [includeLine, String.toList_append, String.toList_append, String.toList_append,
    List.append_assoc, List.append_assoc]
  rfl

theorem isLocalInclude_includeLine : isLocalInclude (includeLine path rest) = true := by
  rw [isLocalInclude, List.isPrefixOf_iff_prefix, toList_includeLine]
  exact List.prefix_append _ _

include hquote in
/-- The path is read up to the quote that closes it. -/
theorem includeName_includeLine : includeName (includeLine path rest) = name path := by
  have hkeep : ∀ c ∈ path.toList, decide (c ≠ '"') = true := by
    intro c hc
    rw [decide_eq_true_eq]
    rintro rfl
    exact hquote hc
  have hread : (path.toList ++ '"' :: rest.toList).takeWhile (· ≠ '"') = path.toList := by
    rw [List.takeWhile_append_of_pos hkeep, List.takeWhile_cons_of_neg (by decide), List.append_nil]
  rw [includeName, toList_includeLine, List.drop_left, hread, String.ofList_toList]

include hpath hrest in
theorem oneLine_includeLine : OneLine (includeLine path rest) :=
  ((OneLine.append (by decide) hpath).append (by decide)).append hrest

include hpath hrest in
/-- The includes of a source around one of them. -/
theorem localIncludes_around {front back : String} (hfront : Text.EndsLine front)
    (hback : Text.BeginsBreak back) :
    localIncludes (front ++ includeLine path rest ++ back)
      = localIncludes front ++ includeLine path rest :: localIncludes back := by
  have hhead : (includeLine path rest ++ back).toList.head? ≠ some '\n' := by
    rw [String.toList_append, toList_includeLine]
    show some '#' ≠ some '\n'
    decide
  have hlater : localIncludes (Text.laterLines back) = localIncludes back := by
    have hempty : [Text.firstLine back].filter isLocalInclude = [] := by
      rw [Text.firstLine, Text.takeWhile_of_beginsBreak hback]
      exact List.filter_cons_of_neg (by decide)
    rw [localIncludes_eq_append back, hempty, List.nil_append]
  rw [← hlater, String.append_assoc, localIncludes, Text.splitLines_append hfront hhead,
    Text.splitLines_line includeLine_ne_empty (oneLine_includeLine hpath hrest) hback,
    List.filter_append, List.filter_cons_of_pos isLocalInclude_includeLine]
  rfl

end IncludeLine

end Module

open HeaderBindings.Module in
/-- An include of `path` in a line of a source, whatever follows the closing quote, imports the
module named after that path.  A header with the same base name, in whatever directory, declares this
module, and its binding module is written to the file of this name. -/
theorem imported_module_declared (out included : Output)
    (pre filename path rest front back header source : String)
    (hquote : '"' ∉ path.toList) (hpath : OneLine path) (hrest : OneLine rest)
    (hfront : Text.EndsLine front) (hback : Text.BeginsBreak back)
    (hheader : Path.baseName header = Path.baseName path) :
    let imported := name path
    out.moduleText pre filename (front ++ includeLine path rest ++ back)
      = fileText (preamble pre filename ++ (localIncludes front).map (importLine pre)
        ++ ["import " ++ pre ++ "." ++ imported] ++ (localIncludes back).map (importLine pre)
        ++ out.bindingText) ∧
    included.moduleText pre header source
      = fileText (["#include <bindings.dsl.h>", "#include <" ++ Path.baseName path ++ ">",
          "module " ++ pre ++ "." ++ imported ++ " where", "#strict_import", ""]
        ++ (localIncludes source).map (importLine pre) ++ included.bindingText) ∧
    ((included.files pre header source).head?).map Prod.fst = some (imported ++ ".hsc") := by
  intro imported
  have hname : name header = imported := name_congr hheader
  refine ⟨?_, ?_, ?_⟩
  · have himport : importLine pre (includeLine path rest)
        = "import " ++ pre ++ "." ++ imported := by
      rw [importLine, includeName_includeLine hquote]
    rw [Output.moduleText, localIncludes_around hpath hrest hfront hback, List.map_append,
      List.map_cons, himport]
    simp only [List.append_assoc, List.singleton_append]
  · rw [Output.moduleText, preamble, hname, hheader]
  · rw [Output.files, hname]
    rfl

open HeaderBindings.Module in
/-- An include of a header in another directory, with several dots and a comment behind it, in a
source with line breaks of two kinds. -/
theorem imported_module_declared_dotted :
    let out : Output := {}
    out.moduleText "P" "t.h" ("int x;\r\n" ++ includeLine "sub/foo_bar.v2.h" " /* x */" ++ "\ny")
      = fileText (preamble "P" "t.h" ++ ["import P.FooBar.v2"]) ∧
    out.moduleText "P" "/usr/foo_bar.v2.h" "int z;\n"
      = fileText ["#include <bindings.dsl.h>", "#include <foo_bar.v2.h>",
        "module P.FooBar.v2 where", "#strict_import", ""] ∧
    ((out.files "P" "/usr/foo_bar.v2.h" "int z;\n").head?).map Prod.fst
      = some "FooBar.v2.hsc" := by
  intro out
  obtain ⟨himport, hdeclared, hfile⟩ := imported_module_declared out out "P" "t.h"
    "sub/foo_bar.v2.h" " /* x */" "int x;\r\n" "\ny" "/usr/foo_bar.v2.h" "int z;\n" (by decide)
    (by decide) (by decide) (by decide) (by decide) (by decide +kernel)
  refine ⟨himport.trans ?_, hdeclared.trans ?_, hfile.trans ?_⟩ <;> decide +kernel

end HeaderBindings
