/-
  What the typedef table decides.  Two runs of a header from any two outputs take the same steps, and
  meet different tables at each of them.

  Main statement (`environment_spells`): if what is recorded is never void and encloses its arrows in
  parentheses, the tables change the spelling of types only.  The lines added correspond one to one,
  with the same markers, names and numbers of arguments, the helper lines are the same, and so are
  the aliases recorded.
-/
import HeaderBindings.Proofs.Emission.Arguments
import HeaderBindings.Proofs.Emission.Recorded
import HeaderBindings.Proofs.Emission.Visits
import HeaderBindings.Proofs.Signature.Nesting

namespace HeaderBindings

/-! ## Lines without their types -/

/-- A line with its types left out; the marker, the name and the number of arguments stay. -/
def Line.eraseTypes : Line → Line
  | field name _ => .field name ""
  | arrayField name _ => .arrayField name ""
  | function marker name arguments _ => .function marker name (arguments.map fun _ => "") ""
  | line => line

section Tables

variable {ts us : TypeTable}

theorem Declaration.fieldLine_eraseTypes (ts us : TypeTable) (member : Declaration) :
    (member.fieldLine ts).map Line.eraseTypes = (member.fieldLine us).map Line.eraseTypes := by
  unfold fieldLine
  cases member.declarators with
  | nil => rfl
  | cons d ds =>
    obtain ⟨name, chain⟩ := d
    cases name with
    | none => rfl
    | some name =>
      cases chain with
      | nil => rfl
      | cons step rest => cases step <;> rfl

theorem Specifier.introduction_eraseTypes (ts us : TypeTable) (fallback : String) (s : Specifier) :
    (s.introduction ts fallback).map Line.eraseTypes
      = (s.introduction us fallback).map Line.eraseTypes := by
  cases s with
  | record isUnion tag members =>
    have hfields : (members.filterMap (Declaration.fieldLine ts)).map Line.eraseTypes
        = (members.filterMap (Declaration.fieldLine us)).map Line.eraseTypes := by
      rw [List.map_filterMap, List.map_filterMap]
      congr 1
      funext member
      exact member.fieldLine_eraseTypes ts us
    simp only [introduction, List.map_append, List.map_cons, hfields]
  | builtin | sign | recordRef | enumeration | enumerationRef | typedefName | typeOf => rfl

/-- Which parameters print does not depend on the table, as long as no alias is recorded for void. -/
theorem argumentSignatures_eraseTypes (hts : ts.NoVoid) (hus : us.NoVoid) (ps : List Declaration) :
    (argumentSignatures .binding ts ps).map (fun _ => "")
      = (argumentSignatures .binding us ps).map fun _ => "" := by
  rw [argumentSignatures_eq_filter hts, argumentSignatures_eq_filter hus, List.map_map,
    List.map_map]
  rfl

theorem Step.lines_eraseTypes (hts : ts.NoVoid) (hus : us.NoVoid) (s : Step) :
    (s.lines ts).map Line.eraseTypes = (s.lines us).map Line.eraseTypes := by
  cases s with
  | introduce text fallback specifiers =>
    simp only [lines, introductions, List.map_cons, List.map_flatMap,
      Specifier.introduction_eraseTypes ts us]
  | call marker specifiers d =>
    simp only [lines, functionLine, List.map_singleton, Line.eraseTypes,
      argumentSignatures_eraseTypes hts hus]
  | help f => rfl
  | record name specifiers chain => rfl

theorem Step.recordedName?_congr (hts : ts.NoVoid) (hus : us.NoVoid) (s : Step) :
    s.recordedName? ts = s.recordedName? us := by
  cases s with
  | record name specifiers chain =>
    simp only [recordedName?, chainSignature_eq_empty_iff hts, chainSignature_eq_empty_iff hus]
  | introduce | call | help => rfl

/-- Runs from two tables print the same but for types, and record the same aliases. -/
theorem stepLines_eraseTypes (hts : ts.NoVoid) (hus : us.NoVoid) (steps : List Step) :
    (stepLines ts steps).map Line.eraseTypes = (stepLines us steps).map Line.eraseTypes ∧
      recordedNames ts steps = recordedNames us steps := by
  induction steps generalizing ts us with
  | nil => exact ⟨rfl, rfl⟩
  | cons s rest ih =>
    -- each step records another signature in either table, but void in none
    obtain ⟨hlines, hnames⟩ := ih (hts.step s) (hus.step s)
    refine ⟨?_, ?_⟩
    · rw [stepLines, stepLines, List.map_append, List.map_append, s.lines_eraseTypes hts hus, hlines]
    · rw [recordedNames, recordedNames, s.recordedName?_congr hts hus, hnames]

end Tables

/-! ## Printed lines -/

/-- Printed lines that differ in the spelling of their types only; the arrows outside parentheses
count the argument types of a function. -/
inductive RenderedSameButTypes : String → String → Prop where
  | plain (line : Line) : line.isTyped = false → RenderedSameButTypes line.render line.render
  | field (name type type' : String) :
      RenderedSameButTypes ("#field " ++ name ++ " , " ++ type) ("#field " ++ name ++ " , " ++ type')
  | arrayField (name type type' : String) :
      RenderedSameButTypes ("#array_field " ++ name ++ " , " ++ type)
        ("#array_field " ++ name ++ " , " ++ type')
  | function (marker : Marker) (name : String) {call call' : String} :
      outerArrows 0 call.toList = outerArrows 0 call'.toList →
      RenderedSameButTypes (marker.render ++ " " ++ name ++ " , " ++ call)
        (marker.render ++ " " ++ name ++ " , " ++ call')

theorem Line.isTyped_eraseTypes (line : Line) : line.eraseTypes.isTyped = line.isTyped := by
  cases line <;> rfl

theorem Line.eraseTypes_of_not_isTyped {line : Line} (h : line.isTyped = false) :
    line.eraseTypes = line := by
  cases line with
  | field | arrayField | function => cases h
  | comment | opaqueType | startType | stopType | integral | number | verbatim => rfl

theorem outerArrows_function {marker : Marker} {name : String} {arguments : List String}
    {result : String}
    (h : ∀ type ∈ (Line.function marker name arguments result).types, IsEnclosed type) :
    outerArrows 0 (callText arguments result).toList = arguments.length :=
  (callText_scan (fun type htype => h type (List.mem_append_left _ htype))
    (h result (List.mem_append_right _ (List.mem_singleton_self result)))).2

theorem renderedSameButTypes {line line' : Line} (h : line.eraseTypes = line'.eraseTypes)
    (hline : ∀ type ∈ line.types, IsEnclosed type)
    (hline' : ∀ type ∈ line'.types, IsEnclosed type) :
    RenderedSameButTypes line.render line'.render := by
  cases htyped : line.isTyped with
  | false =>
    have htyped' : line'.isTyped = false := by
      rw [← line'.isTyped_eraseTypes, ← h, line.isTyped_eraseTypes, htyped]
    rw [Line.eraseTypes_of_not_isTyped htyped, Line.eraseTypes_of_not_isTyped htyped'] at h
    rw [← h]
    exact .plain line htyped
  | true =>
    cases line with
    | field name type =>
      cases line' with
      | field name' type' =>
        obtain rfl : name = name' := (Line.field.inj h).1
        exact .field name type type'
      | _ => cases h
    | arrayField name type =>
      cases line' with
      | arrayField name' type' =>
        obtain rfl : name = name' := (Line.arrayField.inj h).1
        exact .arrayField name type type'
      | _ => cases h
    | function marker name arguments result =>
      cases line' with
      | function marker' name' arguments' result' =>
        obtain ⟨rfl, rfl, harguments, -⟩ := Line.function.inj h
        -- the erased arguments still have their number, and the arrows of the text count them
        have hlength := congrArg List.length harguments
        rw [List.length_map, List.length_map] at hlength
        rw [Line.render_function, Line.render_function]
        refine .function marker name ?_
        rw [outerArrows_function hline, outerArrows_function hline', hlength]
      | _ => cases h
    | _ => cases htyped

/-! ## Runs -/

/-- What may be recorded before a run: types with balanced parentheses and no arrow outside them. -/
def IsRecordable (type : String) : Prop := type ≠ "" ∧ IsEnclosed type

theorem stepLines_isEnclosed {types : TypeTable} {steps : List Step} (h : types.All IsEnclosed)
    (hnames : ∀ s ∈ steps, ∀ n ∈ s.aliases, C.isIdentifier n.toList = true) :
    ∀ line ∈ stepLines types steps, ∀ type ∈ line.types, IsEnclosed type := by
  refine (stepLines_closed isEnclosed_bindingClosed h fun v hv n hn => ?_).1
  exact isEnclosed_placeholder
    (hnames v.step (step_mem_of_mem_visits hv) n (List.mem_filter.mp hn).1)

/-- What a run adds to an output: lines, helper lines, and entries for these names. -/
structure Output.Adds (before after : Output) (lines : List Line) (helpers : List HelperLine)
    (names : List String) : Prop where
  lines : after.lines = before.lines ++ lines
  helpers : after.helpers = before.helpers ++ helpers
  recorded : ∀ n ∈ names, after.types.contains n = true
  others : ∀ n, n ∉ names → after.types.lookup? n = before.types.lookup? n

theorem Output.adds_performAll (out : Output) (steps : List Step) :
    out.Adds (out.performAll steps) (stepLines out.types steps) (steps.flatMap (Step.helpers {}))
      (recordedNames out.types steps) where
  lines := performAll_lines out steps
  helpers := by rw [performAll_helpers, stepHelpers_eq_flatMap]
  recorded n hn := by
    rw [performAll_types]
    exact contains_stepTypes (.inr hn)
  others n hn := by
    rw [performAll_types]
    exact stepTypes_lookup?_of_not_mem hn

/-- The lines have the same marker, name and number of arguments, also for a reader who counts the
arrows of the text; a line without types is the same. -/
def Line.SameButTypes (line line' : Line) : Prop :=
  line.eraseTypes = line'.eraseTypes ∧ RenderedSameButTypes line.render line'.render

/-- Two runs of a header, whatever was printed and recorded before, leave that as it is and add lines
that correspond one to one and differ in the spelling of types only.  The helper lines and the
recorded aliases are the same. -/
theorem environment_spells (filename : String) (nodes : List Node) (o p : Output)
    (hnames : ∀ node ∈ nodes, ∀ n ∈ node.aliases, C.isIdentifier n.toList = true)
    (ho : o.types.All IsRecordable) (hp : p.types.All IsRecordable) :
    ∃ lines lines' helpers names,
      o.Adds (o.emitAll filename nodes) lines helpers names ∧
      p.Adds (p.emitAll filename nodes) lines' helpers names ∧
      names = recordedNames o.types (headerSteps filename nodes) ∧
      names = recordedNames p.types (headerSteps filename nodes) ∧
      List.Forall₂ Line.SameButTypes lines lines' := by
  have henclosed : ∀ s ∈ headerSteps filename nodes, ∀ n ∈ s.aliases,
      C.isIdentifier n.toList = true := aliases_of_mem_headerSteps hnames
  have hleft := stepLines_isEnclosed (ho.imp fun _ h => h.2) henclosed
  have hright := stepLines_isEnclosed (hp.imp fun _ h => h.2) henclosed
  obtain ⟨hlines, hrecorded⟩ := stepLines_eraseTypes (ho.imp fun _ h => h.1)
    (hp.imp fun _ h => h.1) (headerSteps filename nodes)
  rw [Output.emitAll_eq_performAll, Output.emitAll_eq_performAll]
  refine ⟨_, _, _, _, o.adds_performAll _, hrecorded ▸ p.adds_performAll _, rfl, hrecorded, ?_⟩
  rw [← List.forall₂_eq_eq_eq, List.forall₂_map_left_iff, List.forall₂_map_right_iff] at hlines
  have hlines := ((List.forall₂_and_left _ _).mpr ⟨hleft, hlines⟩).flip
  have hlines := ((List.forall₂_and_left _ _).mpr ⟨hright, hlines⟩).flip
  exact hlines.imp fun line line' ⟨hline', hline, herase⟩ =>
    ⟨herase, renderedSameButTypes herase hline hline'⟩

/-- A record and an inline function over `size`, with an alias in between. -/
def sizedNodes : List Node :=
  let place : Option Location := some { file := "list.h", line := 1 }
  let size : Specifier := .typedefName "size"
  let member : Declaration :=
    { specifiers := [size], declarators := [{ name := some "lengths", chain := [.array .unknown] }] }
  let parameter : Declaration :=
    { specifiers := [.typedefName "sizes"], declarators := [{ name := some "all" }] }
  [ .declaration { specifiers := [.record false (some "list") [member]], location := place },
    .declaration
      { specifiers := [size], isTypedef := true, location := place
        declarators := [{ name := some "sizes", chain := [.pointer] }] },
    .definition
      { specifiers := [size], location := place
        declarator := { name := some "total", chain := [.function [parameter] false] } } ]

/-- A table in which `size` is a number. -/
def numberOutput : Output where
  lines := [.comment "typedef unsigned long size"]
  types := TypeTable.define {} "size" "CULong"

/-- A table in which `size` is a pointer to a function. -/
def functionOutput : Output where
  types := TypeTable.define {} "size" "FunPtr (CInt -> IO (CInt))"

theorem environment_spells_sizedNodes :
    (∀ node ∈ sizedNodes, ∀ n ∈ node.aliases, C.isIdentifier n.toList = true) ∧
    numberOutput.types.All IsRecordable ∧ functionOutput.types.All IsRecordable ∧
    ∃ lines lines' helpers names,
      numberOutput.Adds (numberOutput.emitAll "list.h" sizedNodes) lines helpers names ∧
      functionOutput.Adds (functionOutput.emitAll "list.h" sizedNodes) lines' helpers names ∧
      names = recordedNames numberOutput.types (headerSteps "list.h" sizedNodes) ∧
      names = recordedNames functionOutput.types (headerSteps "list.h" sizedNodes) ∧
      List.Forall₂ Line.SameButTypes lines lines' := by
  have hnames : ∀ node ∈ sizedNodes, ∀ n ∈ node.aliases, C.isIdentifier n.toList = true := by decide
  have hnumber : numberOutput.types.All IsRecordable :=
    (TypeTable.all_empty _).define ⟨by decide, by decide, by decide⟩
  have hfunction : functionOutput.types.All IsRecordable :=
    (TypeTable.all_empty _).define ⟨by decide, by decide, by decide⟩
  exact ⟨hnames, hnumber, hfunction,
    environment_spells "list.h" sizedNodes numberOutput functionOutput hnames hnumber hfunction⟩

end HeaderBindings
