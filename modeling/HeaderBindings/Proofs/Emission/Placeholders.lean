/-
  Placeholders.  An alias that is not recorded when it is used prints as its name between angle
  brackets; what is printed is recorded in later aliases and never revised.

  Main statement (`placeholders_unresolved`): in a run from an empty output every placeholder, on a
  line or in the table, names an alias that some step did not find recorded.  A header whose steps
  find all their aliases prints and records none.
-/
import HeaderBindings.Proofs.Emission.Visits

namespace HeaderBindings

/-! ## Placeholders in a text -/

/-- Each opening bracket of the text is that of a placeholder for one of the names. -/
def PlaceholdersIn (names : List String) (text : String) : Prop :=
  ∀ before after, text.toList = before ++ '<' :: after → ∃ n ∈ names, (n ++ ">").toList <+: after

def HasPlaceholder (text : String) : Prop := ∃ name, ("<" ++ name ++ ">").toList <:+: text.toList

namespace PlaceholdersIn

variable {names : List String}

theorem of_not_mem {text : String} (h : '<' ∉ text.toList) : PlaceholdersIn names text := by
  intro before after htext
  exact absurd (htext ▸ List.mem_append_right before List.mem_cons_self) h

theorem append {s t : String} (hs : PlaceholdersIn names s) (ht : PlaceholdersIn names t) :
    PlaceholdersIn names (s ++ t) := by
  intro before after htext
  rw [String.toList_append] at htext
  -- the bracket stands in `t`, or in `s` with the rest of `s` and `t` after it
  rcases List.append_eq_append_iff.mp htext with ⟨middle, rfl, hmiddle⟩ | ⟨middle, hmiddle, hafter⟩
  · exact ht middle after hmiddle
  · cases middle with
    | nil => exact ht [] after hafter.symm
    | cons c rest =>
      rw [List.cons_append, List.cons.injEq] at hafter
      obtain ⟨rfl, rfl⟩ := hafter
      obtain ⟨n, hn, hprefix⟩ := hs before rest hmiddle
      exact ⟨n, hn, hprefix.trans (List.prefix_append rest _)⟩

theorem placeholder {name : String} (hname : C.isIdentifier name.toList = true)
    (h : name ∈ names) : PlaceholdersIn names ("<" ++ name ++ ">") := by
  intro before after htext
  have htext : '<' :: (name ++ ">").toList = before ++ '<' :: after := by
    simpa [String.toList_append] using htext
  cases before with
  | nil =>
    rw [List.nil_append, List.cons.injEq] at htext
    exact ⟨name, h, htext.2 ▸ List.prefix_rfl⟩
  | cons c rest =>
    rw [List.cons_append, List.cons.injEq] at htext
    -- no bracket opens inside an identifier
    have hmem : '<' ∈ (name ++ ">").toList := by
      rw [htext.2]
      exact List.mem_append_right rest List.mem_cons_self
    rw [String.toList_append, List.mem_append] at hmem
    rcases hmem with hmem | hmem
    · have hrest := C.Ident.isIdentRest_of_mem ⟨name.toList, hname⟩ hmem
      exact absurd hrest (by decide)
    · exact absurd hmem (by decide)

theorem call {arguments : List String} {result : String}
    (harguments : ∀ type ∈ arguments, PlaceholdersIn names type)
    (hresult : PlaceholdersIn names result) :
    PlaceholdersIn names (callText arguments result) := by
  induction arguments with
  | nil =>
    have hopen : PlaceholdersIn names "IO (" := of_not_mem (by decide)
    have hclose : PlaceholdersIn names ")" := of_not_mem (by decide)
    simpa [callText] using (hopen.append hresult).append hclose
  | cons type rest ih =>
    have harrow : PlaceholdersIn names " -> " := of_not_mem (by decide)
    rw [callText_cons]
    exact ((harguments type List.mem_cons_self).append harrow).append
      (ih fun t ht => harguments t (List.mem_cons_of_mem type ht))

/-- Of what types are spelled with, only aliases open a bracket. -/
theorem bindingClosed (names : List String) : BindingClosed (PlaceholdersIn names) where
  void := of_not_mem (by decide)
  name base := by
    apply of_not_mem
    cases base <;> decide
  pointer h := ((of_not_mem (by decide)).append h).append (of_not_mem (by decide))
  wordPointer h := (of_not_mem (by decide)).append h
  function harguments hresult :=
    ((of_not_mem (by decide)).append (call harguments hresult)).append (of_not_mem (by decide))

theorem not_hasPlaceholder {text : String} (h : PlaceholdersIn [] text) : ¬ HasPlaceholder text := by
  rintro ⟨name, before, after, htext⟩
  have hbracket : text.toList = before ++ '<' :: ((name ++ ">").toList ++ after) := by
    rw [← htext]
    simp [String.toList_append]
  obtain ⟨n, hn, _⟩ := h before _ hbracket
  cases hn

end PlaceholdersIn

/-! ## Runs -/

/-- What stands after the name on a line with types. -/
def Line.signature? : Line → Option String
  | field _ type | arrayField _ type => some type
  | function _ _ arguments result => some (callText arguments result)
  | comment _ | opaqueType _ | startType _ | stopType | integral _ | number _ | verbatim _ => none

theorem Line.placeholdersIn_signature {names : List String} {line : Line}
    (h : ∀ type ∈ line.types, PlaceholdersIn names type) :
    ∀ signature ∈ line.signature?, PlaceholdersIn names signature := by
  cases line with
  | field name type | arrayField name type =>
    rintro _ ⟨⟩
    exact h type (List.mem_singleton_self type)
  | function marker name arguments result =>
    rintro _ ⟨⟩
    exact .call (fun type htype => h type (List.mem_append_left _ htype))
      (h result (List.mem_append_right _ (List.mem_singleton_self result)))
  | comment | opaqueType | startType | stopType | integral | number | verbatim =>
    rintro _ ⟨⟩

/-- The aliases that the steps of a header refer to before they are recorded, in order. -/
def Header.unresolved (header : Header) (filename : String) : List String :=
  (visits {} (headerSteps filename header.nodes)).flatMap Visit.unresolved

theorem Header.bindings_placeholdersIn {header : Header} {filename : String}
    (hnames : ∀ node ∈ header.nodes, ∀ n ∈ node.aliases, C.isIdentifier n.toList = true)
    {names : List String}
    (h : ∀ v ∈ visits {} (headerSteps filename header.nodes), ∀ n ∈ v.unresolved, n ∈ names) :
    (header.bindings filename).types.All (PlaceholdersIn names) ∧
      ∀ line ∈ (header.bindings filename).lines, ∀ signature ∈ line.signature?,
        PlaceholdersIn names signature := by
  have hvisits : ∀ v ∈ visits {} (headerSteps filename header.nodes), ∀ n ∈ v.unresolved,
      PlaceholdersIn names ("<" ++ n ++ ">") := by
    intro v hv n hn
    have hidentifier := aliases_of_mem_headerSteps hnames v.step (step_mem_of_mem_visits hv) n
      (List.mem_filter.mp hn).1
    exact .placeholder hidentifier (h v hv n hn)
  obtain ⟨hprinted, hrecorded⟩ := stepLines_closed (PlaceholdersIn.bindingClosed names)
    (TypeTable.all_empty _) hvisits
  rw [bindings_eq_performAll, Output.performAll_types, Output.performAll_lines]
  exact ⟨hrecorded, fun line hline => line.placeholdersIn_signature (hprinted line hline)⟩

/-- In a run from an empty output every placeholder, printed or recorded, names an alias that a step
did not find recorded.  Where each step finds all its aliases there is none. -/
theorem placeholders_unresolved (header : Header) (filename : String)
    (hnames : ∀ node ∈ header.nodes, ∀ n ∈ node.aliases, C.isIdentifier n.toList = true) :
    ((header.bindings filename).types.All (PlaceholdersIn (header.unresolved filename)) ∧
      ∀ line ∈ (header.bindings filename).lines, ∀ signature ∈ line.signature?,
        PlaceholdersIn (header.unresolved filename) signature) ∧
    ((∀ v ∈ visits {} (headerSteps filename header.nodes), ∀ n ∈ v.step.aliases,
        v.types.contains n = true) →
      (header.bindings filename).types.All (¬ HasPlaceholder ·) ∧
      ∀ line ∈ (header.bindings filename).lines, ∀ signature ∈ line.signature?,
        ¬ HasPlaceholder signature) := by
  refine ⟨Header.bindings_placeholdersIn hnames fun v hv n hn =>
    List.mem_flatMap.mpr ⟨v, hv, hn⟩, fun hfound => ?_⟩
  have hnone : ∀ v ∈ visits {} (headerSteps filename header.nodes), ∀ n ∈ v.unresolved,
      n ∈ ([] : List String) := by
    intro v hv n hn
    obtain ⟨hn, hmissing⟩ := List.mem_filter.mp hn
    rw [hfound v hv n hn] at hmissing
    cases hmissing
  obtain ⟨hrecorded, hprinted⟩ := Header.bindings_placeholdersIn hnames hnone
  exact ⟨fun name signature hl => (hrecorded name signature hl).not_hasPlaceholder,
    fun line hline signature hs => (hprinted line hline signature hs).not_hasPlaceholder⟩

/-- An alias of another file, one over it, and a record and a function that use both. -/
def resolvedHeader : Header where
  path := "list.h"
  nodes :=
    let place : Option Location := some { file := "list.h", line := 1 }
    let size : Specifier := .typedefName "size"
    let sizes : Declaration :=
      { specifiers := [.typedefName "sizes"], declarators := [{ name := some "lengths" }] }
    let next : Declaration :=
      { specifiers := [.recordRef false (some "list")]
        declarators := [{ name := some "next", chain := [.pointer] }] }
    [ .declaration
        { specifiers := [.sign .unsigned, .builtin .long], isTypedef := true
          location := some { file := "size.h", line := 1 }
          declarators := [{ name := some "size" }] },
      .declaration
        { specifiers := [size], isTypedef := true, location := place
          declarators := [{ name := some "sizes", chain := [.pointer] }] },
      .declaration { specifiers := [.record false (some "list") [sizes, next]], location := place },
      .declaration
        { specifiers := [size], location := place
          declarators := [{ name := some "total", chain := [.function [sizes] false] }] } ]

theorem placeholders_unresolved_resolvedHeader :
    (∀ node ∈ resolvedHeader.nodes, ∀ n ∈ node.aliases, C.isIdentifier n.toList = true) ∧
    (∀ v ∈ visits {} (headerSteps "list.h" resolvedHeader.nodes), ∀ n ∈ v.step.aliases,
      v.types.contains n = true) ∧
    (resolvedHeader.bindings "list.h").types.All (¬ HasPlaceholder ·) ∧
    ∀ line ∈ (resolvedHeader.bindings "list.h").lines, ∀ signature ∈ line.signature?,
      ¬ HasPlaceholder signature := by
  have hnames : ∀ node ∈ resolvedHeader.nodes, ∀ n ∈ node.aliases,
      C.isIdentifier n.toList = true := by decide
  have hfound : ∀ v ∈ visits {} (headerSteps "list.h" resolvedHeader.nodes),
      ∀ n ∈ v.step.aliases, v.types.contains n = true := by decide
  exact ⟨hnames, hfound, (placeholders_unresolved resolvedHeader "list.h" hnames).2 hfound⟩

/-- An alias that is used before its typedef stays a placeholder in every alias over it. -/
example :
    let pointerTo (type name : String) : Node :=
      .declaration
        { specifiers := [.typedefName type], isTypedef := true
          declarators := [{ name := some name, chain := [.pointer] }] }
    let header : Header :=
      ⟨"t.h", [pointerTo "late" "first", pointerTo "first" "second", pointerTo "first" "late"]⟩
    header.unresolved "t.h" = ["late"] ∧
      (header.bindings "t.h").types.lookup? "second" = some "Ptr (Ptr <late>)" := by
  decide

end HeaderBindings
