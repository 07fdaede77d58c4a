/-
  Void results in both outputs.  The binding line of an inline function names its result through the
  typedef table, the helper line spells it in plain C, and each decides on its own whether the
  function is void.

  Main statement (`inline_void_iff`): in a run from an empty output the helper line of a function
  calls the macro of void functions exactly if its binding line ends in `IO ()`, for every function
  whose result is not itself a function.
-/
import HeaderBindings.Proofs.Emission.Arguments
import HeaderBindings.Proofs.Emission.Transcript
import HeaderBindings.Proofs.Signature.Reading
import HeaderBindings.Proofs.Signature.Width

namespace HeaderBindings

/-! ## The end of a binding line -/

/-- The text ends in a character that opens no parenthesis. -/
def EndsClosed (text : String) : Prop := ∃ c ∈ text.toList.getLast?, c ≠ '('

theorem endsClosed_append (text : String) {ending : String} (h : EndsClosed ending) :
    EndsClosed (text ++ ending) := by
  obtain ⟨c, hc, hne⟩ := h
  refine ⟨c, ?_, hne⟩
  rw [String.toList_append, List.getLast?_append, hc]
  rfl

theorem endsClosed_paren : EndsClosed ")" := ⟨')', rfl, by decide⟩

theorem Atom.endsClosed_text (a : Atom) : EndsClosed a.text := by
  cases a with
  | base name => cases name <;> exact ⟨_, rfl, by decide⟩
  | placeholder name => exact endsClosed_append _ ⟨'>', rfl, by decide⟩

/-- A type ends in the last character of a name or in a closing parenthesis. -/
theorem TypeTree.endsClosed_text (t : TypeTree) : EndsClosed t.text := by
  cases t with
  | atom a => exact a.endsClosed_text
  | voidPointer => exact ⟨')', rfl, by decide⟩
  | atomPointer a => exact endsClosed_append _ a.endsClosed_text
  | pointer t => exact endsClosed_append _ endsClosed_paren
  | function f => exact endsClosed_append _ endsClosed_paren

/-- What follows the name of a function ends in its result. -/
theorem callText_eq_append (arguments : List String) (result : String) :
    ∃ front, callText arguments result = front ++ "IO (" ++ result ++ ")" := by
  induction arguments with
  | nil => exact ⟨"", by simp [callText, String.append_assoc]⟩
  | cons a rest ih =>
    obtain ⟨front, hfront⟩ := ih
    refine ⟨a ++ " -> " ++ front, ?_⟩
    rw [callText_cons, hfront]
    simp only [String.append_assoc]

theorem voidSuffix_iff (front : String) {result : String} {s : Option TypeTree}
    (h : SignatureParse result s) :
    "IO ()".toList <:+ (front ++ "IO (" ++ result ++ ")").toList ↔ result = "" := by
  have htext : (front ++ "IO (" ++ result ++ ")").toList
      = (front ++ "IO (" ++ result).toList ++ [')'] := String.toList_append
  constructor
  · rintro ⟨rest, hrest⟩
    have hopen : rest ++ "IO (".toList = (front ++ "IO (" ++ result).toList := by
      have hclosed : (rest ++ "IO (".toList) ++ [')'] = rest ++ "IO ()".toList :=
        List.append_assoc _ _ _
      exact List.append_cancel_right ((hclosed.trans hrest).trans htext)
    obtain ⟨_, rfl⟩ := h
    cases s with
    | none => rfl
    | some t =>
      -- the text in front of the last parenthesis would end both in `(` and as a type does
      obtain ⟨c, hc, hne⟩ := endsClosed_append (front ++ "IO (") t.endsClosed_text
      change rest ++ "IO (".toList = (front ++ "IO (" ++ t.text).toList at hopen
      rw [← hopen, List.getLast?_append] at hc
      exact absurd (Option.some.inj hc).symm hne
  · rintro rfl
    exact ⟨front.toList, by simp [String.toList_append]⟩

/-- The line of a function ends in `IO ()` exactly if its result is void. -/
theorem voidSuffix_render_iff (marker : Marker) (name : String) (arguments : List String)
    {result : String} {s : Option TypeTree} (h : SignatureParse result s) :
    "IO ()".toList <:+ (Line.function marker name arguments result).render.toList
      ↔ result = "" := by
  obtain ⟨front, hfront⟩ := callText_eq_append arguments result
  rw [Line.render_function, hfront,
    ← voidSuffix_iff (marker.render ++ " " ++ name ++ " , " ++ front) h]
  simp only [String.append_assoc]

/-! ## The heads of the two lines -/

theorem cinline_prefix_render (name : String) (arguments : List String) (result : String) :
    "#cinline ".toList <+: (Line.function .cinline name arguments result).render.toList := by
  rw [Line.render_function, Marker.render]
  simp only [String.toList_append, List.append_assoc]
  exact List.prefix_append _ _

/-- The line of a helper opens with the macro of void functions exactly if it is one. -/
theorem voidPrefix_render_iff (arity : Nat) (isVoid : Bool) (arguments : List String) :
    ("BC_INLINE" ++ toString arity ++ "VOID(").toList
        <+: (HelperLine.inlineCall arity isVoid arguments).render.toList
      ↔ isVoid = true := by
  rw [HelperLine.render]
  cases isVoid with
  | true => simp [String.toList_append]
  | false => simp [String.toList_append, List.prefix_append_right_inj]

/-! ## Runs -/

/-- After a run from an empty output every recorded signature has a parse. -/
theorem emitAll_types_parse (filename : String) (nodes : List Node)
    (hnames : ∀ node ∈ nodes, ∀ n ∈ node.aliases, C.isIdentifier n.toList = true) :
    ∃ trees, Table.Rel TypeParse (Output.emitAll filename {} nodes).types.entries trees := by
  have hempty : Table.Rel TypeParse (TypeTable.entries {}) [] := .nil
  have hrun := typedRun_related binding_related aliasName_parse (headerSteps filename nodes)
    (aliases_of_mem_headerSteps hnames) hempty
  rw [Output.emitAll_eq_performAll, Output.performAll_types, stepTypes_entries]
  exact ⟨_, hrun.2⟩

theorem chainSignature_parse {types : TypeTable} {trees : Table String TypeTree}
    (h : Table.Rel TypeParse types.entries trees) {specifiers : List Specifier}
    {chain : List Derivation}
    (hnames : ∀ n ∈ specifierAliases specifiers ++ chainAliases chain,
      C.isIdentifier n.toList = true) :
    SignatureParse (chainSignature .binding types specifiers chain)
      (resolveChain treeAlgebra trees specifiers chain) := by
  rw [← resolveChain_text]
  exact resolveChain_related binding_related specifiers chain
    fun n hn => aliasName_parse h (hnames n hn)

/-- The two dialects find the same results void, functions apart. -/
theorem chainSignature_void_iff {types : TypeTable} (htypes : types.NoVoid)
    {specifiers : List Specifier} {chain : List Derivation}
    (hchain : ¬ Derivation.StartsWithFunction chain)
    (hnames : ∀ n ∈ specifierAliases specifiers, C.isIdentifier n.toList = true) :
    chainSignature .c types specifiers chain = ""
      ↔ chainSignature .binding types specifiers chain = "" := by
  rw [← argumentCount_eq_zero_iff, argumentCount_chainSignature,
    chainWidth_eq_zero_iff hchain hnames, chainSignature_eq_empty_iff htypes]

/-- Where an inline function stands in a header, its two lines follow those of the nodes before. -/
theorem emitAll_definition {filename : String} {f : FunctionDefinition}
    (hfile : (Node.definition f).inFile filename = true) (before after : List Node) :
    let out := Output.emitAll filename {} before
    ∃ lines helpers,
      (Output.emitAll filename {} (before ++ .definition f :: after)).lines
        = out.lines ++ functionLine out.types .cinline f.specifiers f.declarator :: lines ∧
      (Output.emitAll filename {} (before ++ .definition f :: after)).helpers
        = out.helpers ++ ((f.helperLine out.types).toList ++ helpers) := by
  intro out
  have hsteps : headerSteps filename (.definition f :: after)
      = .call .cinline f.specifiers f.declarator :: .help f :: headerSteps filename after := by
    rw [headerSteps, List.flatMap_cons, Node.steps, hfile]
    rfl
  have hrun : Output.emitAll filename {} (before ++ .definition f :: after)
      = out.performAll (headerSteps filename (.definition f :: after)) := by
    rw [Output.emitAll, List.foldl_append]
    exact Output.emitAll_eq_performAll filename out _
  rw [hrun, hsteps, Output.performAll_lines, Output.performAll_helpers]
  exact ⟨_, _, rfl, rfl⟩

/-- The two lines of an inline function agree on whether its result is void, in every table that a
run can build. -/
theorem FunctionDefinition.lines_void_iff {types : TypeTable} {trees : Table String TypeTree}
    (htrees : Table.Rel TypeParse types.entries trees) (htypes : types.NoVoid)
    {f : FunctionDefinition} {name : String} {parameters : List Declaration} {isVariadic : Bool}
    {chain : List Derivation}
    (hdeclarator : f.declarator = ⟨some name, .function parameters isVariadic :: chain⟩)
    (hchain : ¬ Derivation.StartsWithFunction chain)
    (hnames : ∀ n ∈ (Node.definition f).aliases, C.isIdentifier n.toList = true) :
    let line := functionLine types .cinline f.specifiers f.declarator
    ∃ helper, f.helperLine types = some helper ∧
      "#cinline ".toList <+: line.render.toList ∧
      (("BC_INLINE" ++ toString (parameterCount parameters) ++ "VOID(").toList
          <+: helper.render.toList
        ↔ "IO ()".toList <:+ line.render.toList) := by
  intro line
  obtain ⟨specifiers, declarator, location, text⟩ := f
  subst hdeclarator
  have haliases : ∀ n ∈ specifierAliases specifiers ++ chainAliases chain,
      C.isIdentifier n.toList = true := by
    intro n hn
    refine hnames n ?_
    rcases List.mem_append.mp hn with hn | hn
    · exact List.mem_append_left _ hn
    · exact List.mem_append_right _ (List.mem_append_right _ hn)
  obtain ⟨shown, arguments, hline⟩ : ∃ shown arguments,
      line = .function .cinline shown arguments
        (chainSignature .binding types specifiers chain) := ⟨_, _, rfl⟩
  refine ⟨.inlineCall _ _ _, rfl, ?_, ?_⟩
  · rw [hline]
    exact cinline_prefix_render shown arguments _
  · rw [voidPrefix_render_iff, decide_eq_true_iff, hline,
      voidSuffix_render_iff _ _ _ (chainSignature_parse htrees haliases)]
    exact chainSignature_void_iff htypes hchain fun n hn => haliases n (List.mem_append_left _ hn)

/-- Both lines of an inline function agree on whether its result is void, wherever the function
stands in a header: its helper line calls the macro of void functions exactly if its binding line
ends in `IO ()`. -/
theorem inline_void_iff (filename : String) (before after : List Node) (f : FunctionDefinition)
    (name : String) (parameters : List Declaration) (isVariadic : Bool) (chain : List Derivation)
    (hnames : ∀ node ∈ before ++ .definition f :: after, ∀ n ∈ node.aliases,
      C.isIdentifier n.toList = true)
    (hfile : (Node.definition f).inFile filename = true)
    (hdeclarator : f.declarator = ⟨some name, .function parameters isVariadic :: chain⟩)
    (hchain : ¬ Derivation.StartsWithFunction chain) :
    ∃ line helper lines helpers,
      (Output.emitAll filename {} (before ++ .definition f :: after)).bindingText
        = (Output.emitAll filename {} before).bindingText ++ line :: lines ∧
      (Output.emitAll filename {} (before ++ .definition f :: after)).helperText
        = (Output.emitAll filename {} before).helperText ++ helper :: helpers ∧
      "#cinline ".toList <+: line.toList ∧
      (("BC_INLINE" ++ toString (parameterCount parameters) ++ "VOID(").toList <+: helper.toList
        ↔ "IO ()".toList <:+ line.toList) := by
  obtain ⟨lines, helpers, hlines, hhelpers⟩ := emitAll_definition hfile before after
  obtain ⟨trees, htrees⟩ := emitAll_types_parse filename before fun node hnode =>
    hnames node (List.mem_append_left _ hnode)
  have htypes : (Output.emitAll filename {} before).types.NoVoid := by
    rw [Output.emitAll_eq_performAll, Output.performAll_types]
    exact TypeTable.noVoid_empty.run _
  obtain ⟨helper, hhelper, hmarker, hvoid⟩ :=
    FunctionDefinition.lines_void_iff htrees htypes hdeclarator hchain
      (hnames _ (List.mem_append_right _ List.mem_cons_self))
  rw [hhelper] at hhelpers
  refine ⟨_, helper.render, lines.map Line.render, helpers.map HelperLine.render, ?_, ?_,
    hmarker, hvoid⟩
  · rw [Output.bindingText, hlines, List.map_append]
    rfl
  · rw [Output.helperText, hhelpers, List.map_append]
    rfl

/-- The parameter `char *text`. -/
def textParameter : Declaration where
  specifiers := [.builtin .char]
  declarators := [{ name := some "text", chain := [.pointer] }]

/-- The function `size length(char *text)`. -/
def lengthFunction : FunctionDefinition where
  specifiers := [.typedefName "size"]
  declarator := { name := some "length", chain := [.function [textParameter] false] }
  location := some { file := "t.h", line := 2 }

/-- The alias `size`, which `lengthFunction` returns. -/
def sizeTypedef : Node :=
  .declaration
    { specifiers := [.sign .unsigned, .builtin .long], isTypedef := true
      declarators := [{ name := some "size" }], location := some { file := "t.h", line := 1 } }

theorem inline_void_iff_lengthFunction :
    (∀ node ∈ [sizeTypedef, .definition lengthFunction], ∀ n ∈ node.aliases,
      C.isIdentifier n.toList = true) ∧
    (Node.definition lengthFunction).inFile "t.h" = true ∧
    ¬ Derivation.StartsWithFunction [] ∧
    ∃ line helper lines helpers,
      (Output.emitAll "t.h" {} [sizeTypedef, .definition lengthFunction]).bindingText
        = (Output.emitAll "t.h" {} [sizeTypedef]).bindingText ++ line :: lines ∧
      (Output.emitAll "t.h" {} [sizeTypedef, .definition lengthFunction]).helperText
        = (Output.emitAll "t.h" {} [sizeTypedef]).helperText ++ helper :: helpers ∧
      "#cinline ".toList <+: line.toList ∧
      (("BC_INLINE" ++ toString (parameterCount [textParameter]) ++ "VOID(").toList
          <+: helper.toList
        ↔ "IO ()".toList <:+ line.toList) := by
  have hnames : ∀ node ∈ [sizeTypedef, .definition lengthFunction], ∀ n ∈ node.aliases,
      C.isIdentifier n.toList = true := by decide
  have hfile : (Node.definition lengthFunction).inFile "t.h" = true := by decide
  have hchain : ¬ Derivation.StartsWithFunction [] := by simp [Derivation.StartsWithFunction]
  exact ⟨hnames, hfile, hchain,
    inline_void_iff "t.h" [sizeTypedef] [] lengthFunction "length" [textParameter] false [] hnames
      hfile rfl hchain⟩

end HeaderBindings
