/-
  Functions and aliases of function types.  The line of a function resolves its result from the chain
  after the parameters; the alias of the same type is resolved as a whole, and there the function ends
  the walk, so that its result is the base alone.

  Main statement (`functionAlias_records_iff`): an alias is recorded as a pointer to the function
  whose line has no chain after its parameters.  That is the line of the function itself exactly if
  the chain is empty; so it is not for `char *name(void)`.
-/
import HeaderBindings.Proofs.Emission.Steps
import HeaderBindings.Proofs.Signature.Chain
import HeaderBindings.Proofs.Signature.Reading

namespace HeaderBindings

/-! ## Longer chains, longer texts -/

theorem length_lt_bindingPointer (base : String) :
    base.length < (Dialect.bindingPointer base).length := by
  unfold Dialect.bindingPointer
  split_ifs with hempty hchar
  · subst hempty; decide
  · subst hchar; decide
  all_goals simp only [String.length_append]
  · change base.length < 5 + base.length + 1
    omega
  · change base.length < 4 + base.length
    omega

theorem length_lt_callText (arguments : List String) (result : String) :
    result.length < (callText arguments result).length := by
  induction arguments with
  | nil =>
    change result.length < ("IO (" ++ result ++ ")").length
    simp only [String.length_append]
    change result.length < 4 + result.length + 1
    omega
  | cons a rest ih =>
    rw [callText_cons, String.length_append]
    omega

/-- A chain that is not empty makes the text of its base longer. -/
theorem Derivation.length_lt_signature (types : TypeTable) (base : String)
    {chain : List Derivation} (h : chain ≠ []) :
    base.length < (signature .binding types base chain).length := by
  have hwrap : ∀ inner : String, inner.length < ("Ptr (" ++ inner ++ ")").length := by
    intro inner
    simp only [String.length_append]
    change inner.length < 5 + inner.length + 1
    omega
  have hcall : ∀ arguments (result : String),
      result.length < ("FunPtr (" ++ callText arguments result ++ ")").length := by
    intro arguments result
    have := length_lt_callText arguments result
    simp only [String.length_append]
    omega
  induction chain with
  | nil => exact absurd rfl h
  | cons d rest ih =>
    have hrest : base.length ≤ (signature .binding types base rest).length := by
      cases rest with
      | nil => exact Nat.le_of_eq (congrArg String.length (signature_nil _ types base).symm)
      | cons d' rest => exact Nat.le_of_lt (ih (List.cons_ne_nil d' rest))
    cases d with
    | array n =>
      rw [signature_array]
      exact Nat.lt_of_le_of_lt hrest (hwrap _)
    | function parameters isVariadic =>
      rw [signature_function]
      exact hcall _ base
    | pointer =>
      match rest with
      | [] =>
        rw [signature_pointer]
        exact length_lt_bindingPointer base
      | .function parameters isVariadic :: rest =>
        rw [signature_pointer_function]
        exact Nat.lt_trans (length_lt_bindingPointer base) (hcall _ _)
      | .pointer :: rest | .array n :: rest =>
        rw [signature_pointer_cons .binding types base (by simp) (by rintro ⟨f, ⟨⟩, ⟨⟩⟩)]
        exact Nat.lt_of_le_of_lt hrest (hwrap _)

/-- What follows the name of a function tells its result. -/
theorem callText_injective (arguments : List String) {result result' : String}
    (h : callText arguments result = callText arguments result') : result = result' := by
  induction arguments with
  | nil =>
    have h : "IO (" ++ result ++ ")" = "IO (" ++ result' ++ ")" := h
    exact (String.append_right_inj _).mp ((String.append_left_inj _).mp h)
  | cons a rest ih =>
    rw [callText_cons, callText_cons, String.append_right_inj] at h
    exact ih h

/-! ## The two declarations -/

theorem Declaration.steps_of_singleton {decl : Declaration} {d : Declarator}
    (h : decl.declarators = [d]) (inFile : Bool) :
    decl.steps inFile = decl.declaratorSteps inFile d := by
  rw [steps, h]
  exact List.flatMap_singleton _ _

/-- The declaration prints the line of one function; `type` is what follows its name. -/
def Output.DeclaresFunction (out : Output) (filename : String) (decl : Declaration)
    (name type : String) : Prop :=
  (out.emit filename (.declaration decl)).bindingText
    = out.bindingText ++ ["#ccall " ++ name ++ " , " ++ type]

instance (out : Output) (filename : String) (decl : Declaration) (name type : String) :
    Decidable (out.DeclaresFunction filename decl name type) :=
  inferInstanceAs (Decidable (_ = _))

theorem Output.declaresFunction_iff (out : Output) (decl : Declaration) (type : String)
    {filename name : String} {parameters : List Declaration} {isVariadic : Bool}
    {rest : List Derivation} (hname : name ≠ "")
    (hdeclarators : decl.declarators = [⟨some name, .function parameters isVariadic :: rest⟩])
    (htypedef : decl.isTypedef = false)
    (hfile : (Node.declaration decl).inFile filename = true) :
    out.DeclaresFunction filename decl name type ↔
      type = callText (argumentSignatures .binding out.types parameters)
        (chainSignature .binding out.types decl.specifiers rest) := by
  have hsteps : (Node.declaration decl).steps filename
      = [.call .ccall decl.specifiers ⟨some name, .function parameters isVariadic :: rest⟩] := by
    rw [Node.steps, hfile, Declaration.steps_of_singleton hdeclarators,
      Declaration.declaratorSteps, htypedef]
    rfl
  have hshown : (some name).filter (· ≠ "") = some name := by simpa using hname
  have hline : (out.emit filename (.declaration decl)).bindingText
      = out.bindingText ++ ["#ccall " ++ name ++ " , "
        ++ callText (argumentSignatures .binding out.types parameters)
          (chainSignature .binding out.types decl.specifiers rest)] := by
    rw [Output.emit_eq_performAll, hsteps, bindingText, Output.performAll_lines, stepLines,
      stepLines, Step.lines, functionLine, List.append_nil, List.map_append, List.map_singleton,
      Line.render_function, hshown]
    rfl
  rw [DeclaresFunction, hline, List.append_right_inj, List.singleton_inj, String.append_right_inj,
    eq_comm]

/-- The alias of a function type is recorded without the chain after the parameters. -/
theorem Output.emit_functionAlias (out : Output) (decl : Declaration) {filename name : String}
    {parameters : List Declaration} {isVariadic : Bool} {rest : List Derivation} (hname : name ≠ "")
    (hdeclarators : decl.declarators = [⟨some name, .function parameters isVariadic :: rest⟩])
    (htypedef : decl.isTypedef = true) :
    (out.emit filename (.declaration decl)).types = out.types.define name
      ("FunPtr (" ++ callText (argumentSignatures .binding out.types parameters)
        (Specifier.signature .binding out.types decl.specifiers) ++ ")") := by
  have hrecord : (⟨some name, .function parameters isVariadic :: rest⟩ : Declarator).recordSteps
      decl.specifiers = [.record name decl.specifiers (.function parameters isVariadic :: rest)] := by
    simp only [Declarator.recordSteps, if_neg hname]
  have hsteps : stepTypes out.types ((Node.declaration decl).steps filename)
      = Step.types out.types
          (.record name decl.specifiers (.function parameters isVariadic :: rest)) := by
    rw [Node.steps, Declaration.steps_of_singleton hdeclarators, Declaration.declaratorSteps,
      htypedef, Bool.not_true, Bool.and_false, if_neg Bool.false_ne_true, if_pos rfl, hrecord]
    cases (Node.declaration decl).inFile filename <;> rfl
  have hsignature : chainSignature .binding out.types decl.specifiers
      (.function parameters isVariadic :: rest)
        = "FunPtr (" ++ callText (argumentSignatures .binding out.types parameters)
            (Specifier.signature .binding out.types decl.specifiers) ++ ")" :=
    Derivation.signature_function .binding out.types _ parameters isVariadic rest
  have hne : chainSignature .binding out.types decl.specifiers
      (.function parameters isVariadic :: rest) ≠ "" :=
    Derivation.binding_signature_ne_empty out.types _ (List.cons_ne_nil _ rest)
  rw [Output.emit_eq_performAll, Output.performAll_types, hsteps, Step.types]
  simp only [if_neg hne]
  rw [hsignature]

/-! ## The same type -/

/-- A function and an alias of the same type.  The declaration always prints its line, and the alias
is recorded as a pointer to what the line shows exactly if the type has no chain after its
parameters.  Whatever that chain is, the alias is a pointer to what the line without it shows. -/
theorem functionAlias_records_iff (out : Output) (filename name synonym : String)
    (specifiers : List Specifier) (parameters : List Declaration) (isVariadic : Bool)
    (rest : List Derivation) (declared aliased : Option Location) (text text' : String)
    (hname : name ≠ "") (hsynonym : synonym ≠ "")
    (hfile : ∃ place ∈ declared, Path.baseName place.file = Path.baseName filename) :
    let function (chain : List Derivation) : Declaration :=
      { specifiers, declarators := [⟨some name, .function parameters isVariadic :: chain⟩],
        location := declared, text }
    let typedefined : Declaration :=
      { specifiers, declarators := [⟨some synonym, .function parameters isVariadic :: rest⟩],
        isTypedef := true, location := aliased, text := text' }
    let recorded := (out.emit filename (.declaration typedefined)).types.lookup? synonym
    (∃ type, out.DeclaresFunction filename (function rest) name type) ∧
    (∀ type, out.DeclaresFunction filename (function rest) name type →
      (recorded = some ("FunPtr (" ++ type ++ ")") ↔ rest = [])) ∧
    ∀ type, out.DeclaresFunction filename (function []) name type →
      recorded = some ("FunPtr (" ++ type ++ ")") := by
  intro function typedefined recorded
  have hinFile : ∀ chain, (Node.declaration (function chain)).inFile filename = true := by
    obtain ⟨place, hplace, hbase⟩ := hfile
    intro chain
    change declared.any _ = true
    rw [Option.mem_def.mp hplace, Option.any_some, hbase, beq_self_eq_true]
  have hdeclares := fun chain type =>
    Output.declaresFunction_iff out (function chain) type hname rfl rfl (hinFile chain)
  have hrecorded : recorded = some ("FunPtr ("
      ++ callText (argumentSignatures .binding out.types parameters)
        (Specifier.signature .binding out.types specifiers) ++ ")") := by
    change TypeTable.lookup? _ _ = _
    rw [Output.emit_functionAlias out typedefined hsynonym rfl rfl, TypeTable.lookup?_define,
      if_pos rfl]
  have hinner : ∀ type, recorded = some ("FunPtr (" ++ type ++ ")") ↔
      callText (argumentSignatures .binding out.types parameters)
        (Specifier.signature .binding out.types specifiers) = type := by
    intro type
    rw [hrecorded, Option.some.injEq, String.append_left_inj, String.append_right_inj]
  refine ⟨⟨_, (hdeclares rest _).mpr rfl⟩, fun type htype => ?_, fun type htype => ?_⟩
  · rw [hinner, (hdeclares rest type).mp htype]
    constructor
    · intro h
      by_contra hrest
      -- a chain that is left out would have made the result longer
      have hlength := Derivation.length_lt_signature out.types
        (Specifier.signature .binding out.types specifiers) hrest
      have hresult : Specifier.signature .binding out.types specifiers
          = chainSignature .binding out.types specifiers rest := callText_injective _ h
      rw [chainSignature] at hresult
      rw [← hresult] at hlength
      exact Nat.lt_irrefl _ hlength
    · rintro rfl
      rw [chainSignature, Derivation.signature_nil]
  · rw [hinner, (hdeclares [] type).mp htype, chainSignature, Derivation.signature_nil]

/-- With `size` recorded, `size read(char *)` and an alias of its type. -/
theorem functionAlias_records_iff_reader :
    let out : Output := { types := TypeTable.ofList [("size", "CULong")] }
    let here : Location := { file := "t.h", line := 1 }
    let bytes : Declaration :=
      { specifiers := [.builtin .char], declarators := [{ chain := [.pointer] }] }
    let function : Declaration :=
      { specifiers := [.typedefName "size"], location := some here
        declarators := [⟨some "read", [.function [bytes] false]⟩] }
    let typedefined : Declaration :=
      { specifiers := [.typedefName "size"], isTypedef := true
        declarators := [⟨some "reader", [.function [bytes] false]⟩] }
    "read" ≠ "" ∧ "reader" ≠ "" ∧
    (∃ place ∈ some here, Path.baseName place.file = Path.baseName "include/t.h") ∧
    out.DeclaresFunction "include/t.h" function "read" "CString -> IO (CULong)" ∧
    (out.emit "include/t.h" (.declaration typedefined)).types.lookup? "reader"
      = some ("FunPtr (" ++ "CString -> IO (CULong)" ++ ")") := by
  intro out here bytes function typedefined
  have hfile : ∃ place ∈ some here, Path.baseName place.file = Path.baseName "include/t.h" :=
    ⟨here, rfl, by decide⟩
  have hdeclares :
      out.DeclaresFunction "include/t.h" function "read" "CString -> IO (CULong)" := by decide
  have hrecords := (functionAlias_records_iff out "include/t.h" "read" "reader"
    [.typedefName "size"] [bytes] false [] (some here) none "" "" (by decide) (by decide) hfile).2.1
  exact ⟨by decide, by decide, hfile, hdeclares, (hrecords _ hdeclares).mpr rfl⟩

/-- The function `char *name(void)` shows a string as its result, the alias of its type a
character. -/
example :
    let out : Output := {}
    let nothing : Declaration := { specifiers := [.builtin .void], declarators := [{}] }
    let function : Declaration :=
      { specifiers := [.builtin .char], location := some { file := "t.h", line := 1 }
        declarators := [⟨some "name", [.function [nothing] false, .pointer]⟩] }
    let typedefined : Declaration :=
      { specifiers := [.builtin .char], isTypedef := true
        declarators := [⟨some "namer", [.function [nothing] false, .pointer]⟩] }
    let recorded := (out.emit "t.h" (.declaration typedefined)).types.lookup? "namer"
    out.DeclaresFunction "t.h" function "name" "IO (CString)" ∧
    recorded = some "FunPtr (IO (CChar))" ∧
    recorded ≠ some ("FunPtr (" ++ "IO (CString)" ++ ")") := by
  decide

end HeaderBindings
