/-
  Runs over any kind of type.  A transcript holds the lines of a run with resolved types in the
  place of text; `Step.typedLines` and `Step.typedTypes` are emission with the operations of a type
  algebra.

  Main statements: over the binding dialect transcripts are the printed lines
  (`stepLines_eq_map`, `stepTypes_entries`), and related algebras give related transcripts
  (`typedRun_related`).
-/
import HeaderBindings.Proofs.Emission.Steps
import HeaderBindings.Proofs.Signature.Algebra
import HeaderBindings.Proofs.TableRelation

namespace HeaderBindings

/-- A line that prints types. -/
def Line.isTyped : Line → Bool
  | field .. | arrayField .. | function .. => true
  | comment _ | opaqueType _ | startType _ | stopType | integral _ | number _ | verbatim _ => false

/-- A binding line with its types resolved; `plain` is a line without types. -/
inductive TypedLine (τ σ : Type) where
  | plain (line : Line) (h : line.isTyped = false)
  | field (name : String) (type : σ)
  | arrayField (name : String) (type : σ)
  | function (marker : Marker) (name : String) (arguments : List τ) (result : σ)

variable {τ σ τ' σ' : Type}

section Typed

variable (A : TypeAlgebra τ σ) (types : Table String τ)

def Declaration.typedField (member : Declaration) : Option (TypedLine τ σ) :=
  match member.declarators with
  | [] => none
  | d :: _ =>
    d.name.map fun name =>
      match d.chain with
      | .array _ :: rest => .arrayField name (resolveChain A types member.specifiers rest)
      | _ => .field name (member.resolve A types)

def Specifier.typedIntroduction (fallback : String) : Specifier → List (TypedLine τ σ)
  | .record _ tag members =>
    .plain (.startType (introduction.nameOr fallback tag)) rfl
      :: members.filterMap (Declaration.typedField A types) ++ [.plain .stopType rfl]
  | .recordRef _ tag => [.plain (.opaqueType (introduction.nameOr fallback tag)) rfl]
  | .enumeration tag enumerators =>
    .plain (.integral (introduction.nameOr fallback tag)) rfl
      :: enumerators.map fun name => .plain (.number name) rfl
  | .enumerationRef tag => [.plain (.integral (introduction.nameOr fallback tag)) rfl]
  | _ => []

def typedFunction (marker : Marker) (specifiers : List Specifier) (d : Declarator) :
    TypedLine τ σ :=
  .function marker ((d.name.filter (· ≠ "")).getD "<no name>")
    (resolveArguments A types d.parameters) (resolveChain A types specifiers d.chain.tail)

def Step.typedLines : Step → List (TypedLine τ σ)
  | introduce text fallback specifiers =>
    .plain (.comment text) rfl :: specifiers.flatMap (Specifier.typedIntroduction A types fallback)
  | call marker specifiers d => [typedFunction A types marker specifiers d]
  | help _ | record .. => []

def Step.typedTypes : Step → Table String τ
  | record name specifiers chain =>
    match A.type? (resolveChain A types specifiers chain) with
    | none => types
    | some t => Table.put name t types
  | introduce .. | call .. | help _ => types

end Typed

def typedLines (A : TypeAlgebra τ σ) (types : Table String τ) : List Step → List (TypedLine τ σ)
  | [] => []
  | s :: rest => s.typedLines A types ++ typedLines A (s.typedTypes A types) rest

def typedTypes (A : TypeAlgebra τ σ) (types : Table String τ) (steps : List Step) :
    Table String τ :=
  steps.foldl (Step.typedTypes A) types

/-! ## Transcripts of text -/

def TypedLine.toLine : TypedLine String String → Line
  | plain line _ => line
  | field name type => .field name type
  | arrayField name type => .arrayField name type
  | function marker name arguments result => .function marker name arguments result

section Text

variable (types : TypeTable)

theorem Declaration.typedField_text (member : Declaration) :
    (member.typedField Dialect.binding.algebra types.entries).map TypedLine.toLine
      = member.fieldLine types := by
  unfold typedField fieldLine
  cases member.declarators with
  | nil => rfl
  | cons d ds =>
    simp only [Option.map_map]
    congr 1
    funext name
    simp only [Function.comp_apply, resolveChain_text, Declaration.resolve_text]
    cases d.chain with
    | nil => rfl
    | cons step rest => cases step <;> rfl

theorem Specifier.typedIntroduction_text (fallback : String) (s : Specifier) :
    (s.typedIntroduction Dialect.binding.algebra types.entries fallback).map TypedLine.toLine
      = s.introduction types fallback := by
  cases s with
  | record isUnion tag members =>
    have hfields : (members.filterMap
          (Declaration.typedField Dialect.binding.algebra types.entries)).map TypedLine.toLine
        = members.filterMap (Declaration.fieldLine types) := by
      rw [List.map_filterMap]
      congr 1
      funext member
      exact member.typedField_text types
    simp [typedIntroduction, introduction, hfields, TypedLine.toLine]
  | enumeration tag enumerators =>
    simp [typedIntroduction, introduction, TypedLine.toLine, Function.comp_def]
  | _ => simp [typedIntroduction, introduction, TypedLine.toLine]

theorem Step.typedLines_text (s : Step) :
    (s.typedLines Dialect.binding.algebra types.entries).map TypedLine.toLine = s.lines types := by
  cases s with
  | introduce text fallback specifiers =>
    simp only [typedLines, lines, introductions, List.map_cons, List.map_flatMap,
      Specifier.typedIntroduction_text]
    rfl
  | call marker specifiers d =>
    simp only [typedLines, lines, typedFunction, functionLine, List.map_cons, List.map_nil,
      resolveArguments_text, resolveChain_text]
    rfl
  | help f => rfl
  | record name specifiers chain => rfl

theorem Step.typedTypes_text (s : Step) :
    s.typedTypes Dialect.binding.algebra types.entries = (s.types types).entries := by
  cases s with
  | record name specifiers chain =>
    simp only [typedTypes, Step.types, resolveChain_text]
    by_cases h : chainSignature .binding types specifiers chain = "" <;>
      simp [Dialect.algebra, TypeTable.define, h]
  | _ => rfl

theorem stepLines_eq_map (steps : List Step) :
    stepLines types steps
      = (typedLines Dialect.binding.algebra types.entries steps).map TypedLine.toLine := by
  induction steps generalizing types with
  | nil => rfl
  | cons s rest ih =>
    rw [stepLines, typedLines, List.map_append, Step.typedLines_text, Step.typedTypes_text, ← ih]

theorem stepTypes_entries (steps : List Step) :
    (stepTypes types steps).entries = typedTypes Dialect.binding.algebra types.entries steps := by
  induction steps generalizing types with
  | nil => rfl
  | cons s rest ih =>
    rw [stepTypes, List.foldl_cons, ← stepTypes, ih, ← Step.typedTypes_text]
    rfl

end Text

/-! ## Aliases of steps -/

/-- The aliases that a step refers to. -/
def Step.aliases : Step → List String
  | introduce _ _ specifiers => specifierAliases specifiers
  | call _ specifiers d => specifierAliases specifiers ++ d.aliases
  | help _ => []
  | record _ specifiers chain => specifierAliases specifiers ++ chainAliases chain

theorem Declaration.mem_aliases_of_mem_steps {decl : Declaration} {inFile : Bool} {s : Step}
    (hs : s ∈ decl.steps inFile) {n : String} (hn : n ∈ s.aliases) : n ∈ decl.aliases := by
  have hdeclarator : ∀ d ∈ decl.declarators, n ∈ specifierAliases decl.specifiers ++ d.aliases →
      n ∈ decl.aliases := by
    intro d hd hn
    rw [aliases_eq]
    rcases List.mem_append.mp hn with hn | hn
    · exact List.mem_append_left _ hn
    · exact List.mem_append_right _ (mem_declaratorAliases.mpr ⟨d, hd, hn⟩)
  rcases mem_steps_cases hs with
    ⟨_, fallback, rfl⟩ | ⟨_, _, d, hd, _, rfl⟩ | ⟨_, d, hd, name, _, _, rfl⟩
  · rw [aliases_eq]
    exact List.mem_append_left _ hn
  · exact hdeclarator d hd hn
  · rw [Step.aliases, ← Declarator.aliases_eq] at hn
    exact hdeclarator d hd hn

theorem Node.mem_aliases_of_mem_steps {filename : String} {node : Node} {s : Step}
    (hs : s ∈ node.steps filename) {n : String} (hn : n ∈ s.aliases) : n ∈ node.aliases := by
  cases node with
  | declaration d => exact d.mem_aliases_of_mem_steps hs hn
  | definition f =>
    rcases (FunctionDefinition.mem_steps_cases hs).2 with rfl | rfl
    · exact hn
    · cases hn
  | assembly location text => cases hs

theorem aliases_of_mem_headerSteps {filename : String} {nodes : List Node} {P : String → Prop}
    (h : ∀ node ∈ nodes, ∀ n ∈ node.aliases, P n) :
    ∀ s ∈ headerSteps filename nodes, ∀ n ∈ s.aliases, P n := by
  intro s hs n hn
  obtain ⟨node, hnode, hs⟩ := List.mem_flatMap.mp hs
  exact h node hnode n (node.mem_aliases_of_mem_steps hs hn)

/-! ## Related transcripts -/

/-- Lines that differ in their types only, and there in related ones. -/
inductive TypedLine.Rel (T : τ → τ' → Prop) (S : σ → σ' → Prop) :
    TypedLine τ σ → TypedLine τ' σ' → Prop where
  | plain (line : Line) (h) : Rel T S (.plain line h) (.plain line h)
  | field (name : String) {a b} : S a b → Rel T S (.field name a) (.field name b)
  | arrayField (name : String) {a b} : S a b → Rel T S (.arrayField name a) (.arrayField name b)
  | function (marker : Marker) (name : String) {ps qs a b} : List.Forall₂ T ps qs → S a b →
      Rel T S (.function marker name ps a) (.function marker name qs b)

theorem Declarator.mem_aliases_of_parameters {d : Declarator} {n : String}
    (hn : n ∈ declarationAliases d.parameters) : n ∈ d.aliases := by
  obtain ⟨name, chain⟩ := d
  cases chain with
  | nil => simp [parameters, declarationAliases] at hn
  | cons step rest =>
    cases step with
    | function ps isVariadic => exact List.mem_append_left _ hn
    | pointer | array => simp [parameters, declarationAliases] at hn

theorem Declarator.mem_aliases_of_tail {d : Declarator} {n : String}
    (hn : n ∈ chainAliases d.chain.tail) : n ∈ d.aliases := by
  obtain ⟨name, chain⟩ := d
  cases chain with
  | nil => exact hn
  | cons step rest => exact List.mem_append_right _ hn

section Related

variable {A : TypeAlgebra τ σ} {B : TypeAlgebra τ' σ'} {T : τ → τ' → Prop} {S : σ → σ' → Prop}
variable (h : A.Related B T S) {ts : Table String τ} {us : Table String τ'}

include h

theorem Declaration.typedField_related (member : Declaration)
    (ha : ∀ n ∈ member.aliases, S (A.aliasName ts n) (B.aliasName us n)) :
    Option.Rel (TypedLine.Rel T S) (member.typedField A ts) (member.typedField B us) := by
  have hmember := member.resolve_related h ha
  obtain ⟨specifiers, declarators, isTypedef, location, text⟩ := member
  cases declarators with
  | nil => exact .none
  | cons d ds =>
    obtain ⟨name, chain⟩ := d
    simp only [Declaration.aliases, declaratorAliases, Declarator.aliases, List.mem_append] at ha
    cases name with
    | none => exact .none
    | some name =>
      cases chain with
      | nil => exact .some (.field name hmember)
      | cons step rest =>
        cases step with
        | array length =>
          refine .some (.arrayField name (resolveChain_related h specifiers rest ?_))
          intro n hn
          rcases List.mem_append.mp hn with hn | hn
          · exact ha n (.inl hn)
          · exact ha n (.inr (.inl (List.mem_append_right _ hn)))
        | pointer => exact .some (.field name hmember)
        | function parameters isVariadic => exact .some (.field name hmember)

theorem typedFields_related (members : List Declaration)
    (ha : ∀ n ∈ declarationAliases members, S (A.aliasName ts n) (B.aliasName us n)) :
    List.Forall₂ (TypedLine.Rel T S) (members.filterMap (Declaration.typedField A ts))
      (members.filterMap (Declaration.typedField B us)) := by
  induction members with
  | nil => exact .nil
  | cons m rest ih =>
    have hm := m.typedField_related h fun n hn => ha n (List.mem_append_left _ hn)
    have hrest := ih fun n hn => ha n (List.mem_append_right _ hn)
    rw [List.filterMap_cons, List.filterMap_cons]
    revert hm
    cases m.typedField A ts <;> cases m.typedField B us <;> intro hm <;> cases hm
    case none.none => exact hrest
    case some.some hm => exact .cons hm hrest

theorem Specifier.typedIntroduction_related (fallback : String) (s : Specifier)
    (ha : ∀ n ∈ s.aliases, S (A.aliasName ts n) (B.aliasName us n)) :
    List.Forall₂ (TypedLine.Rel T S) (s.typedIntroduction A ts fallback)
      (s.typedIntroduction B us fallback) := by
  cases s with
  | record isUnion tag members =>
    refine .cons (.plain _ rfl) ?_
    exact List.rel_append (typedFields_related h members ha) (.cons (.plain _ rfl) .nil)
  | recordRef isUnion tag => exact .cons (.plain _ rfl) .nil
  | enumeration tag enumerators =>
    refine .cons (.plain _ rfl) ?_
    rw [List.forall₂_map_left_iff, List.forall₂_map_right_iff, List.forall₂_same]
    exact fun name _ => .plain (.number name) rfl
  | enumerationRef tag => exact .cons (.plain _ rfl) .nil
  | builtin | sign | typedefName | typeOf => exact .nil

theorem Step.typedLines_related (s : Step)
    (ha : ∀ n ∈ s.aliases, S (A.aliasName ts n) (B.aliasName us n)) :
    List.Forall₂ (TypedLine.Rel T S) (s.typedLines A ts) (s.typedLines B us) := by
  cases s with
  | introduce text fallback specifiers =>
    refine .cons (.plain _ rfl) ?_
    induction specifiers with
    | nil => exact .nil
    | cons s rest ih =>
      rw [List.flatMap_cons, List.flatMap_cons]
      exact List.rel_append
        (s.typedIntroduction_related h fallback fun n hn => ha n (List.mem_append_left _ hn))
        (ih fun n hn => ha n (List.mem_append_right _ hn))
  | call marker specifiers d =>
    refine .cons (.function marker _ ?_ ?_) .nil
    · exact resolveArguments_related h d.parameters fun n hn =>
        ha n (List.mem_append_right _ (Declarator.mem_aliases_of_parameters hn))
    · refine resolveChain_related h specifiers d.chain.tail fun n hn => ha n ?_
      rcases List.mem_append.mp hn with hn | hn
      · exact List.mem_append_left _ hn
      · exact List.mem_append_right _ (Declarator.mem_aliases_of_tail hn)
  | help f => exact .nil
  | record name specifiers chain => exact .nil

theorem Step.typedTypes_related (s : Step) (htypes : Table.Rel T ts us)
    (ha : ∀ n ∈ s.aliases, S (A.aliasName ts n) (B.aliasName us n)) :
    Table.Rel T (s.typedTypes A ts) (s.typedTypes B us) := by
  cases s with
  | record name specifiers chain =>
    have hs := h.type? (resolveChain_related h specifiers chain ha)
    simp only [typedTypes]
    revert hs
    cases A.type? (resolveChain A ts specifiers chain) <;>
      cases B.type? (resolveChain B us specifiers chain) <;> intro hs <;> cases hs
    case none.none => exact htypes
    case some.some ht => exact htypes.put name ht
  | introduce | call | help => exact htypes

/-- Related algebras give related lines and tables, if aliases that may occur are related under
related tables. -/
theorem typedRun_related {Allowed : String → Prop}
    (halias : ∀ {ts us n}, Table.Rel T ts us → Allowed n → S (A.aliasName ts n) (B.aliasName us n))
    (steps : List Step) (hsteps : ∀ s ∈ steps, ∀ n ∈ s.aliases, Allowed n)
    (htypes : Table.Rel T ts us) :
    List.Forall₂ (TypedLine.Rel T S) (typedLines A ts steps) (typedLines B us steps) ∧
      Table.Rel T (typedTypes A ts steps) (typedTypes B us steps) := by
  induction steps generalizing ts us with
  | nil => exact ⟨.nil, htypes⟩
  | cons s rest ih =>
    have hs := fun n hn => halias htypes (hsteps s List.mem_cons_self n hn)
    obtain ⟨hlines, hrest⟩ := ih (fun s' hs' => hsteps s' (List.mem_cons_of_mem _ hs'))
      (s.typedTypes_related h htypes hs)
    exact ⟨List.rel_append (s.typedLines_related h hs) hlines, hrest⟩

end Related

end HeaderBindings
