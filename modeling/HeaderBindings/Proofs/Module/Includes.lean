/-
  Which include directives become imports.  C lets blanks stand on both sides of the number sign and
  before the quoted name; a local include is known by one spelling only, and its line is cut at every
  line break of Unicode.

  Main statement (`includes_of_directive`): at its place among the includes of the source a directive
  gives an import and a line of the helper file exactly if it is spelled plainly, for the name and the
  line up to their first line break.
-/
import HeaderBindings.Module.Text
import HeaderBindings.Proofs.Text.Lines

namespace HeaderBindings

/-! ## Directives -/

/-- A line of C that includes a file by a quoted name; anything may follow the closing quote. -/
structure IncludeDirective where
  /-- The blanks before the number sign. -/
  before : List Char
  /-- The blanks between the number sign and the word. -/
  inner : List Char
  /-- The blanks between the word and the quoted name. -/
  after : List Char
  path : String
  rest : String
  isBlank : ∀ c ∈ before ++ inner ++ after, c = ' ' ∨ c = '\t'
  quote_not_mem : '"' ∉ path.toList
  newline_not_mem : '\n' ∉ path.toList ++ rest.toList

namespace IncludeDirective

def text (d : IncludeDirective) : String :=
  String.ofList (d.before ++ '#' :: d.inner ++ "include".toList ++ d.after
    ++ '"' :: d.path.toList ++ '"' :: d.rest.toList)

/-- The number sign stands first, the word right after it, and one space before the name. -/
def IsPlain (d : IncludeDirective) : Prop := d.before = [] ∧ d.inner = [] ∧ d.after = [' ']

instance (d : IncludeDirective) : Decidable d.IsPlain :=
  inferInstanceAs (Decidable (_ ∧ _ ∧ _))

/-- The directive before its quoted name. -/
def opening (d : IncludeDirective) : List Char :=
  d.before ++ '#' :: d.inner ++ "include".toList ++ d.after ++ ['"']

variable (d : IncludeDirective)

theorem not_isLineBreak_of_mem_opening : ∀ c ∈ d.opening, Text.isLineBreak c = false := by
  have hblank : ∀ c ∈ d.before ++ d.inner ++ d.after, Text.isLineBreak c = false := by
    intro c hc
    rcases d.isBlank c hc with rfl | rfl <;> decide
  simp only [List.forall_mem_append] at hblank
  obtain ⟨⟨hbefore, hinner⟩, hafter⟩ := hblank
  simp only [opening, List.forall_mem_append, List.forall_mem_cons]
  have hword : OneLine "include" := by decide
  exact ⟨⟨⟨⟨hbefore, by decide, hinner⟩, hword⟩, hafter⟩, by decide, by simp⟩

theorem toList_text :
    d.text.toList = d.opening ++ (d.path.toList ++ '"' :: d.rest.toList) := by
  rw [text, String.toList_ofList, opening]
  simp only [List.append_assoc, List.cons_append, List.nil_append]

/-- The first line of a directive holds its opening. -/
theorem toList_firstLine :
    (Text.firstLine d.text).toList = d.opening
      ++ (d.path.toList ++ '"' :: d.rest.toList).takeWhile (!Text.isLineBreak ·) := by
  have hopening : ∀ c ∈ d.opening, (!Text.isLineBreak c) = true := fun c hc => by
    rw [d.not_isLineBreak_of_mem_opening c hc]
    rfl
  rw [Text.firstLine, String.toList_ofList, toList_text, List.takeWhile_append_of_pos hopening]

theorem includeOpening_prefix_iff {more : List Char} :
    Module.includeOpening <+: d.opening ++ more ↔ d.IsPlain := by
  have hblank : ∀ c ∈ d.before ++ d.inner ++ d.after, c ≠ '#' ∧ c ≠ 'i' ∧ c ≠ '"' := by
    intro c hc
    rcases d.isBlank c hc with rfl | rfl <;> decide
  simp only [List.forall_mem_append] at hblank
  obtain ⟨⟨hbefore, hinner⟩, hafter⟩ := hblank
  have hknown : Module.includeOpening = '#' :: ("include".toList ++ [' ', '"']) := rfl
  have hword : "include".toList = 'i' :: "nclude".toList := rfl
  rw [hknown, opening]
  simp only [List.append_assoc, List.cons_append, List.nil_append]
  constructor
  · intro h
    -- a blank stands where the known spelling has another character
    cases hb : d.before with
    | cons b bs =>
      rw [hb] at h hbefore
      exact absurd (List.cons_prefix_cons.mp h).1.symm (hbefore b List.mem_cons_self).1
    | nil =>
      rw [hb, List.nil_append, List.cons_prefix_cons] at h
      cases hi : d.inner with
      | cons i is =>
        rw [hi, hword] at h
        rw [hi] at hinner
        exact absurd (List.cons_prefix_cons.mp h.2).1.symm (hinner i List.mem_cons_self).2.1
      | nil =>
        rw [hi, List.nil_append, List.prefix_append_right_inj] at h
        match ha : d.after with
        | [] =>
          rw [ha] at h
          exact absurd (List.cons_prefix_cons.mp h.2).1 (by decide)
        | [a] =>
          rw [ha] at h
          exact ⟨hb, hi, by rw [ha, (List.cons_prefix_cons.mp h.2).1]⟩
        | a :: a' :: rest =>
          rw [ha] at h hafter
          have hquote := (List.cons_prefix_cons.mp (List.cons_prefix_cons.mp h.2).2).1
          exact absurd hquote.symm (hafter a' (List.mem_cons_of_mem a List.mem_cons_self)).2.2
  · rintro ⟨hb, hi, ha⟩
    rw [hb, hi, ha, List.nil_append, List.nil_append, List.cons_prefix_cons,
      List.prefix_append_right_inj]
    exact ⟨rfl, List.prefix_append [' ', '"'] more⟩

/-- Only the plain spelling is known. -/
theorem isLocalInclude_firstLine :
    Module.isLocalInclude (Text.firstLine d.text) = true ↔ d.IsPlain := by
  rw [Module.isLocalInclude, List.isPrefixOf_iff_prefix, toList_firstLine, includeOpening_prefix_iff]

/-- Of a quoted name that is cut at a line break the part before that is read. -/
theorem takeWhile_quoted {name : List Char} (hname : '"' ∉ name) (rest : List Char) :
    ((name ++ '"' :: rest).takeWhile (!Text.isLineBreak ·)).takeWhile (· ≠ '"')
      = name.takeWhile (!Text.isLineBreak ·) := by
  have hquote : Text.isLineBreak '"' = false := by decide
  induction name with
  | nil => simp [hquote]
  | cons c name ih =>
    rw [List.mem_cons, not_or] at hname
    cases hc : Text.isLineBreak c with
    | true => simp [hc]
    | false => simpa [hc, Ne.symm hname.1] using ih hname.2

theorem includeName_firstLine (h : d.IsPlain) :
    Module.includeName (Text.firstLine d.text) = Module.name (Text.firstLine d.path) := by
  obtain ⟨hb, hi, ha⟩ := h
  have hlength : d.opening.length = Module.includeOpening.length := by
    rw [opening, hb, hi, ha]
    rfl
  rw [Module.includeName, toList_firstLine, ← hlength, List.drop_left,
    takeWhile_quoted d.quote_not_mem, Text.firstLine]

end IncludeDirective

/-! ## Sources -/

namespace Module

theorem isLocalInclude_empty : isLocalInclude "" = false := by decide

/-- The includes of a source are those between its line feeds, in order. -/
theorem localIncludes_eq_flatMap (source : String) :
    localIncludes source = (Text.pieces source).flatMap localIncludes :=
  Text.filter_splitLines isLocalInclude_empty source

theorem localIncludes_eq_append (s : String) :
    localIncludes s
      = [Text.firstLine s].filter isLocalInclude ++ localIncludes (Text.laterLines s) := by
  by_cases hempty : s = ""
  · subst hempty
    rfl
  · rw [localIncludes, Text.splitLines_of_ne hempty, ← List.singleton_append, List.filter_append]
    rfl

/-- The includes in the line of a directive: the directive if it is plain, cut at its first line
break, and then those after the break. -/
theorem localIncludes_text (d : IncludeDirective) :
    localIncludes d.text
      = (if d.IsPlain then [Text.firstLine d.text] else [])
        ++ localIncludes (Text.laterLines d.text) := by
  have hown : [Text.firstLine d.text].filter isLocalInclude
      = if d.IsPlain then [Text.firstLine d.text] else [] := by
    by_cases hplain : d.IsPlain
    · rw [if_pos hplain, List.filter_cons_of_pos (d.isLocalInclude_firstLine.mpr hplain),
        List.filter_nil]
    · rw [if_neg hplain, List.filter_cons_of_neg (mt d.isLocalInclude_firstLine.mp hplain),
        List.filter_nil]
  rw [localIncludes_eq_append d.text, hown]

theorem localIncludes_of_directive {source : String} {above below : List String}
    {d : IncludeDirective} (hline : Text.pieces source = above ++ d.text :: below) :
    localIncludes source
      = above.flatMap localIncludes ++ (if d.IsPlain then [Text.firstLine d.text] else [])
        ++ (localIncludes (Text.laterLines d.text) ++ below.flatMap localIncludes) := by
  rw [localIncludes_eq_flatMap, hline, List.flatMap_append, List.flatMap_cons, localIncludes_text]
  simp only [List.append_assoc]

end Module

open HeaderBindings.Module in
/-- What comes of an include directive in a line of a source.  If it is spelled plainly, it gives at
its place an import of the module named after the included file and itself as a line of the helper
file; else it gives nothing there.  A line break that is no line feed cuts the name and the line, and
what follows it in the line counts as lines of their own. -/
theorem includes_of_directive (out : Output) (pre filename source : String)
    (above below : List String) (d : IncludeDirective)
    (hline : Text.pieces source = above ++ d.text :: below) :
    let imported :=
      if d.IsPlain then ["import " ++ pre ++ "." ++ name (Text.firstLine d.path)] else []
    let shown := if d.IsPlain then [Text.firstLine d.text] else []
    let before := above.flatMap localIncludes
    let later := localIncludes (Text.laterLines d.text) ++ below.flatMap localIncludes
    out.moduleText pre filename source
      = fileText (preamble pre filename ++ before.map (importLine pre) ++ imported
        ++ later.map (importLine pre) ++ out.bindingText) ∧
    out.helperFileText filename source
      = fileText (["#include <bindings.cmacros.h>", "#include <" ++ Path.baseName filename ++ ">"]
        ++ before ++ shown ++ later ++ [""] ++ out.helperText) ∧
    (OneLine d.text → Text.firstLine d.path = d.path ∧ Text.firstLine d.text = d.text ∧
      Text.laterLines d.text = "") := by
  intro imported shown before later
  have hincludes : localIncludes source = before ++ shown ++ later :=
    localIncludes_of_directive hline
  have hshown : shown.map (importLine pre) = imported := by
    by_cases hplain : d.IsPlain
    · simp only [shown, imported, if_pos hplain, List.map_singleton, importLine,
        d.includeName_firstLine hplain]
    · simp only [shown, imported, if_neg hplain, List.map_nil]
  refine ⟨?_, ?_, fun honeLine => ⟨?_, Text.firstLine_of_oneLine honeLine,
    Text.laterLines_of_oneLine honeLine⟩⟩
  · rw [Output.moduleText, hincludes, List.map_append, List.map_append, hshown]
    simp only [List.append_assoc]
  · rw [Output.helperFileText, hincludes]
    simp only [List.append_assoc]
  · refine Text.firstLine_of_oneLine fun c hc => honeLine c ?_
    rw [d.toList_text]
    exact List.mem_append_right _ (List.mem_append_left _ hc)

/-- Blanks after the number sign hide a directive; the plain one below it is found. -/
theorem includes_of_directive_blanksAfterSign :
    let hidden : IncludeDirective :=
      { before := [], inner := [' ', ' '], after := [' '], path := "a.h", rest := "",
        isBlank := by simp, quote_not_mem := by decide, newline_not_mem := by decide }
    let source := "#  include \"a.h\"\n#include \"b.h\"\n"
    let out : Output := {}
    Text.pieces source = [] ++ hidden.text :: ["#include \"b.h\"", ""] ∧
      out.moduleText "P" "t.h" source
        = Module.fileText (Module.preamble "P" "t.h" ++ ["import P.B"]) := by
  intro hidden source out
  have hline : Text.pieces source = [] ++ hidden.text :: ["#include \"b.h\"", ""] := by
    decide +kernel
  refine ⟨hline, (includes_of_directive out "P" "t.h" source _ _ hidden hline).1.trans ?_⟩
  decide +kernel

end HeaderBindings
