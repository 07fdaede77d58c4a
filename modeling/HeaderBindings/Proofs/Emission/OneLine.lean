/-
  No line break in what a header prints.  The lines of a header that was read from C are made of
  fixed words, of names, which are identifiers, of types, which are spelled with fixed words and
  names, and of shown declarations, whose blanks are collapsed.

  Main statement (`C.bindings_oneLine`): each binding line and each helper line of such a header has
  no line break of any kind.
-/
import HeaderBindings.Proofs.Emission.Blocks
import HeaderBindings.Proofs.Emission.Relevance
import HeaderBindings.Proofs.Emission.Visits
import HeaderBindings.Proofs.Reading.Names
import HeaderBindings.Proofs.Text.Lines

namespace HeaderBindings

/-! ## Lines -/

/-- The texts on a line that are no types. -/
def Line.words : Line → List String
  | comment text | opaqueType text | startType text | integral text | number text
  | verbatim text => [text]
  | field name _ | arrayField name _ => [name]
  | function marker name _ _ => [marker.render, name]
  | stopType => []

theorem OneLine.call {arguments : List String} {result : String}
    (harguments : ∀ type ∈ arguments, OneLine type) (hresult : OneLine result) :
    OneLine (callText arguments result) := by
  have hopen : OneLine "IO (" := by decide
  have hclose : OneLine ")" := by decide
  refine OneLine.intercalate (by decide) (List.forall_mem_append.mpr ⟨harguments, ?_⟩)
  exact List.forall_mem_singleton.mpr ((hopen.append hresult).append hclose)

theorem Line.oneLine_render {line : Line} (hwords : ∀ word ∈ line.words, OneLine word)
    (htypes : ∀ type ∈ line.types, OneLine type) : OneLine line.render := by
  have hcomma : OneLine " , " := by decide
  cases line with
  | comment text =>
    have hopen : OneLine "\x7b- " := by decide
    have hclose : OneLine " -\x7d" := by decide
    exact (hopen.append (List.forall_mem_singleton.mp hwords)).append hclose
  | opaqueType name | startType name | integral name | number name =>
    exact OneLine.append (by decide) (List.forall_mem_singleton.mp hwords)
  | field name type | arrayField name type =>
    refine OneLine.append (OneLine.append (OneLine.append (by decide) ?_) hcomma) ?_
    · exact List.forall_mem_singleton.mp hwords
    · exact List.forall_mem_singleton.mp htypes
  | function marker name arguments result =>
    have hblank : OneLine " " := by decide
    obtain ⟨hmarker, hname⟩ := List.forall_mem_cons.mp hwords
    obtain ⟨harguments, hresult⟩ := List.forall_mem_append.mp htypes
    rw [Line.render_function]
    refine (((hmarker.append hblank).append ?_).append hcomma).append (.call harguments ?_)
    · exact List.forall_mem_singleton.mp hname
    · exact List.forall_mem_singleton.mp hresult
  | stopType => exact (by decide : OneLine "#stoptype")
  | verbatim text => exact List.forall_mem_singleton.mp hwords

theorem OneLine.bindingClosed : BindingClosed OneLine where
  void := by decide
  name base := by cases base <;> decide
  pointer h := (OneLine.append (by decide) h).append (by decide)
  wordPointer h := OneLine.append (by decide) h
  function harguments hresult :=
    (OneLine.append (by decide) (.call harguments hresult)).append (by decide)

/-! ## Steps -/

/-- The texts that a step prints as they stand: what it shows, and names. -/
def Step.words : Step → List String
  | introduce text fallback specifiers =>
    text :: fallback :: (specifiers.flatMap Specifier.names
      ++ (specifierParts specifiers).flatMap Declaration.names)
  | call _ _ d => d.name.toList
  | help f => f.declarator.name.toList ++ (Node.definition f).aliases
  | record .. => []

theorem mem_declarationParts {d : Declaration} {ds : List Declaration} (hd : d ∈ ds) :
    d ∈ declarationParts ds := by
  induction ds with
  | nil => cases hd
  | cons e rest ih =>
    rw [declarationParts, List.mem_append]
    rcases List.mem_cons.mp hd with rfl | hd
    · exact .inl (by rw [Declaration.parts_eq]; exact List.mem_cons_self)
    · exact .inr (ih hd)

theorem mem_specifierParts {isUnion : Bool} {tag : Option String} {members : List Declaration}
    {specifiers : List Specifier} (hs : .record isUnion tag members ∈ specifiers)
    {member : Declaration} (hmember : member ∈ members) : member ∈ specifierParts specifiers := by
  induction specifiers with
  | nil => cases hs
  | cons s rest ih =>
    rcases List.mem_cons.mp hs with rfl | hrest
    · rw [specifierParts]
      exact List.mem_append_left _ (mem_declarationParts hmember)
    · cases s with
      | record =>
        rw [specifierParts]
        exact List.mem_append_right _ (ih hrest)
      | builtin | sign | recordRef | enumeration | enumerationRef | typedefName | typeOf =>
        exact ih hrest

theorem Specifier.nameOr_cases (fallback : String) (tag : Option String) :
    introduction.nameOr fallback tag ∈ tag ∨ introduction.nameOr fallback tag = fallback := by
  rw [introduction.nameOr]
  cases h : tag.filter (· ≠ "") with
  | none => exact .inr rfl
  | some name => exact .inl (Option.mem_filter_iff.mp h).1

theorem Declaration.mem_names_of_mem_fieldLine {types : TypeTable} {member : Declaration}
    {line : Line} (hline : member.fieldLine types = some line) {word : String}
    (hword : word ∈ line.words) : word ∈ member.names := by
  obtain ⟨specifiers, declarators, isTypedef, location, text⟩ := member
  cases declarators with
  | nil => cases hline
  | cons d ds =>
    obtain ⟨name, hname, rfl⟩ := Option.map_eq_some_iff.mp hline
    have hwords : word = name := by
      revert hword
      split <;> exact List.mem_singleton.mp
    rw [hwords]
    exact List.mem_append_left _ (List.mem_filterMap.mpr ⟨d, List.mem_cons_self, hname⟩)

theorem mem_words_of_mem_introductions {types : TypeTable} {text fallback : String}
    {specifiers : List Specifier} {line : Line}
    (hline : line ∈ introductions types fallback specifiers) {word : String}
    (hword : word ∈ line.words) : word ∈ (Step.introduce text fallback specifiers).words := by
  obtain ⟨s, hs, hline⟩ := List.mem_flatMap.mp hline
  have hname : ∀ n ∈ s.names, n ∈ (Step.introduce text fallback specifiers).words := fun n hn =>
    List.mem_cons_of_mem _ (List.mem_cons_of_mem _
      (List.mem_append_left _ (List.mem_flatMap.mpr ⟨s, hs, hn⟩)))
  have htag : ∀ tag : Option String, (∀ n ∈ tag, n ∈ s.names) →
      Specifier.introduction.nameOr fallback tag
        ∈ (Step.introduce text fallback specifiers).words := by
    intro tag htag
    rcases Specifier.nameOr_cases fallback tag with h | h
    · exact hname _ (htag _ h)
    · rw [h]
      exact List.mem_cons_of_mem _ List.mem_cons_self
  cases s with
  | record isUnion tag members =>
    rcases List.mem_append.mp hline with hline | hline
    · rcases List.mem_cons.mp hline with rfl | hline
      · rw [List.mem_singleton.mp hword]
        exact htag tag fun n hn => Option.mem_toList.mpr hn
      · obtain ⟨member, hmember, hfield⟩ := List.mem_filterMap.mp hline
        refine List.mem_cons_of_mem _ (List.mem_cons_of_mem _ (List.mem_append_right _ ?_))
        exact List.mem_flatMap.mpr ⟨member, mem_specifierParts hs hmember,
          member.mem_names_of_mem_fieldLine hfield hword⟩
    · rw [List.mem_singleton.mp hline] at hword
      cases hword
  | enumeration tag enumerators =>
    rcases List.mem_cons.mp hline with rfl | hline
    · rw [List.mem_singleton.mp hword]
      exact htag tag fun n hn => List.mem_append_left _ (Option.mem_toList.mpr hn)
    · obtain ⟨name, hmem, rfl⟩ := List.mem_map.mp hline
      rw [List.mem_singleton.mp hword]
      exact hname name (List.mem_append_right _ hmem)
  | recordRef isUnion tag =>
    rw [List.mem_singleton.mp hline] at hword
    rw [List.mem_singleton.mp hword]
    exact htag tag fun n hn => Option.mem_toList.mpr hn
  | enumerationRef tag =>
    rw [List.mem_singleton.mp hline] at hword
    rw [List.mem_singleton.mp hword]
    exact htag tag fun n hn => Option.mem_toList.mpr hn
  | builtin | sign | typedefName | typeOf => cases hline

theorem Step.oneLine_words_of_mem_lines {types : TypeTable} {s : Step} (hmarked : s.IsMarked)
    (hwords : ∀ word ∈ s.words, OneLine word) {line : Line} (hline : line ∈ s.lines types) :
    ∀ word ∈ line.words, OneLine word := by
  cases s with
  | introduce text fallback specifiers =>
    rcases List.mem_cons.mp hline with rfl | hline
    · exact List.forall_mem_singleton.mpr (hwords text List.mem_cons_self)
    · exact fun word hword => hwords word (mem_words_of_mem_introductions hline hword)
  | call marker specifiers d =>
    rw [List.mem_singleton.mp hline]
    refine List.forall_mem_cons.mpr ⟨?_, List.forall_mem_singleton.mpr ?_⟩
    · rcases hmarked with rfl | rfl <;> decide
    · cases h : d.name.filter (· ≠ "") with
      | none => decide
      | some name =>
        exact hwords name (Option.mem_toList.mpr (Option.mem_filter_iff.mp h).1)
  | help f => cases hline
  | record name specifiers chain => cases hline

/-! ## Helper lines -/

theorem OneLine.toString (n : Nat) : OneLine (toString n) := by
  intro c hc
  have hdigit : c.isDigit = true := by
    change c ∈ n.repr.toList at hc
    rw [Nat.toList_repr] at hc
    exact Nat.isDigit_of_mem_toDigits (by decide) (by decide) hc
  have hrest : C.isIdentRest c = true := by simp [C.isIdentRest, Char.isAlphanum, hdigit]
  exact Text.not_isLineBreak_of_not_isBlank (C.Ident.not_isBlank_of_rest hrest)

theorem HelperLine.oneLine_render {arity : Nat} {isVoid : Bool} {arguments : List String}
    (h : ∀ a ∈ arguments, OneLine a) : OneLine (inlineCall arity isVoid arguments).render := by
  have hword : OneLine "BC_INLINE" := by decide
  have hvoid : OneLine (if isVoid = true then "VOID" else "") := by cases isVoid <;> decide
  have hopen : OneLine "(" := by decide
  have hclose : OneLine ")" := by decide
  exact ((((hword.append (.toString arity)).append hvoid).append hopen).append
    (.intercalate (by decide) h)).append hclose

/-- The C dialect keeps types on one line through every operation. -/
theorem OneLine.c_related :
    Dialect.c.algebra.Related Dialect.c.algebra (Diagonal OneLine) (Diagonal OneLine) where
  void := ⟨rfl, (by decide : OneLine "")⟩
  builtin kind sign := ⟨rfl, by cases kind <;> cases sign <;> decide⟩
  sign s := ⟨rfl, by cases s <;> decide⟩
  functionBase := by
    rintro a _ ⟨rfl, ha⟩
    exact ⟨rfl, ha.append (by decide)⟩
  endPointer := by
    rintro a _ ⟨rfl, ha⟩
    refine ⟨rfl, ?_⟩
    change OneLine (if a = "" then "void *" else a ++ "*")
    split
    · decide
    · exact ha.append (by decide)
  wrapPointer := by
    rintro a _ ⟨rfl, ha⟩
    exact ⟨rfl, ha.append (by decide)⟩
  wrapArray := by
    rintro a _ ⟨rfl, ha⟩
    exact ⟨rfl, ha.append (by decide)⟩
  wrapFunction := by
    rintro ps qs a _ hps ⟨rfl, ha⟩
    obtain ⟨rfl, harguments⟩ := forall_mem_of_diagonal hps
    refine ⟨rfl, .intercalate (by decide) fun t ht => ?_⟩
    exact List.forall_mem_append.mpr ⟨harguments, List.forall_mem_singleton.mpr ha⟩ t
      (List.mem_of_mem_filter ht)
  type? := Diagonal.type? .c

theorem OneLine.signature_c {types : TypeTable} {base : String} {chain : List Derivation}
    (hbase : OneLine base) (haliases : ∀ n ∈ chainAliases chain, OneLine n) :
    OneLine (Derivation.signature .c types base chain) := by
  rw [← Derivation.resolve_text]
  exact (Derivation.resolve_related OneLine.c_related chain (fun n hn => ⟨rfl, haliases n hn⟩)
    ⟨rfl, hbase⟩).2

theorem OneLine.chainSignature_c {types : TypeTable} {specifiers : List Specifier}
    {chain : List Derivation}
    (haliases : ∀ n ∈ specifierAliases specifiers ++ chainAliases chain, OneLine n) :
    OneLine (chainSignature .c types specifiers chain) := by
  rw [← resolveChain_text]
  exact (resolveChain_related OneLine.c_related specifiers chain
    fun n hn => ⟨rfl, haliases n hn⟩).2

theorem Step.oneLine_of_mem_helpers {types : TypeTable} {s : Step}
    (hwords : ∀ word ∈ s.words, OneLine word) {line : HelperLine} (hline : line ∈ s.helpers types) :
    OneLine line.render := by
  cases s with
  | help f =>
    obtain ⟨specifiers, ⟨name, chain⟩, location, text⟩ := f
    match name, chain with
    | none, _ => cases hline
    | some name, [] => cases hline
    | some name, .pointer :: _ => cases hline
    | some name, .array _ :: _ => cases hline
    | some name, .function parameters isVariadic :: chain =>
      obtain rfl := List.mem_singleton.mp hline
      obtain ⟨hname, haliases⟩ := List.forall_mem_append.mp hwords
      obtain ⟨hspecifiers, hchain⟩ := List.forall_mem_append.mp haliases
      rw [Declarator.aliases_eq] at hchain
      have hresult : OneLine (chainSignature .c types specifiers chain) :=
        .chainSignature_c (List.forall_mem_append.mpr
          ⟨hspecifiers, fun n hn => hchain n (List.mem_append_right _ hn)⟩)
      refine HelperLine.oneLine_render fun a ha => ?_
      rcases List.mem_cons.mp (List.mem_of_mem_filter ha) with rfl | ha
      · exact hname a (List.mem_singleton_self a)
      · rw [List.mem_singleton.mp ha]
        exact .signature_c hresult hchain
  | introduce | call | record => cases hline

/-! ## Words of a header -/

theorem Declaration.fallback_of_mem_steps {decl : Declaration} {inFile : Bool}
    {text fallback : String} {specifiers : List Specifier}
    (hs : .introduce text fallback specifiers ∈ decl.steps inFile) :
    fallback = "" ∨ ∃ d ∈ decl.declarators, fallback ∈ d.name := by
  unfold steps at hs
  split at hs
  · cases inFile with
    | false => cases hs
    | true =>
      obtain ⟨-, rfl, -⟩ := Step.introduce.inj (List.mem_singleton.mp hs)
      exact .inl rfl
  · obtain ⟨d, hd, hs⟩ := List.mem_flatMap.mp hs
    unfold declaratorSteps at hs
    split at hs
    · cases inFile with
      | false => cases hs
      | true => cases List.mem_singleton.mp hs
    · rcases List.mem_append.mp hs with hs | hs
      · cases inFile with
        | false => cases hs
        | true =>
          obtain ⟨-, rfl, -⟩ := Step.introduce.inj (List.mem_singleton.mp hs)
          cases hname : d.name with
          | none => exact .inl rfl
          | some name => exact .inr ⟨d, hd, hname⟩
      · cases htypedef : decl.isTypedef with
        | false =>
          rw [htypedef] at hs
          cases hs
        | true =>
          rw [htypedef] at hs
          obtain ⟨_, _, _, heq⟩ := Declarator.mem_recordSteps_cases hs
          cases heq

/-- A word of a step is the fallback of a declaration without a name, a name in the node, or the
text that the declaration is shown by. -/
theorem Node.mem_words_cases {filename : String} {node : Node} {s : Step}
    (hs : s ∈ node.steps filename) {word : String} (hword : word ∈ s.words) :
    word = "" ∨ word ∈ node.names ∨ ∃ d, node = .declaration d ∧ word = d.text := by
  cases node with
  | declaration decl =>
    have hown : ∀ n ∈ decl.names, n ∈ (Node.declaration decl).names := fun n hn => by
      rw [Node.names, Declaration.parts_eq]
      exact List.mem_append_left _ hn
    have hdeclared : ∀ d ∈ decl.declarators, ∀ n ∈ d.name, n ∈ (Node.declaration decl).names :=
      fun d hd n hn => hown n (List.mem_append_left _ (List.mem_filterMap.mpr ⟨d, hd, hn⟩))
    rcases Declaration.mem_steps_cases hs with
      ⟨_, fallback, rfl⟩ | ⟨_, _, d, hd, _, rfl⟩ | ⟨_, d, _, name, _, _, rfl⟩
    · rcases List.mem_cons.mp hword with rfl | hword
      · exact .inr (.inr ⟨decl, rfl, rfl⟩)
      · rcases List.mem_cons.mp hword with rfl | hword
        · rcases Declaration.fallback_of_mem_steps hs with rfl | ⟨d, hd, hname⟩
          · exact .inl rfl
          · exact .inr (.inl (hdeclared d hd word hname))
        · refine .inr (.inl ?_)
          rcases List.mem_append.mp hword with hword | hword
          · exact hown word (List.mem_append_right _ hword)
          · rw [Node.names, Declaration.parts_eq, List.flatMap_cons, List.flatMap_append]
            exact List.mem_append_right _ (List.mem_append_right _ hword)
    · exact .inr (.inl (hdeclared d hd word (Option.mem_toList.mp hword)))
    · cases hword
  | definition f =>
    have hname : ∀ n ∈ f.declarator.name.toList, n ∈ (Node.definition f).names := fun n hn =>
      List.mem_append_left _ (List.mem_append_left _ hn)
    rcases (FunctionDefinition.mem_steps_cases hs).2 with rfl | rfl
    · exact .inr (.inl (hname word hword))
    · rcases List.mem_append.mp hword with hword | hword
      · exact .inr (.inl (hname word hword))
      · exact .inr (.inl (Node.mem_names_of_mem_aliases hword))
  | assembly location text => cases hs

namespace C

theorem oneLine_of_isIdentifier {name : String} (h : isIdentifier name.toList = true) :
    OneLine name := fun _ hc =>
  Text.not_isLineBreak_of_not_isBlank (Ident.not_isBlank ⟨name.toList, h⟩ hc)

theorem Decl.oneLine_line (decl : Decl) : OneLine decl.line := .collapseBlanks _

variable {text : List Char} {path : String} {header : Header} (hread : read text path = .ok header)

include hread

theorem oneLine_of_mem_words (filename : String) {s : Step}
    (hs : s ∈ headerSteps filename header.nodes) {word : String} (hword : word ∈ s.words) :
    OneLine word := by
  obtain ⟨node, hnode, hs⟩ := List.mem_flatMap.mp hs
  rcases Node.mem_words_cases hs hword with rfl | hname | ⟨d, rfl, rfl⟩
  · decide
  · exact oneLine_of_isIdentifier (isIdentifier_of_mem_names hread hnode hname)
  · obtain ⟨externals, _, hnodes⟩ := read_eq_ok hread
    rw [hnodes] at hnode
    obtain ⟨e, _, he⟩ := List.mem_filterMap.mp hnode
    obtain ⟨decl, _, htext⟩ := External.exists_decl_of_node? he
    rw [htext]
    exact decl.oneLine_line

theorem oneLine_of_mem_aliases (filename : String) {s : Step}
    (hs : s ∈ headerSteps filename header.nodes) {n : String} (hn : n ∈ s.aliases) : OneLine n :=
  aliases_of_mem_headerSteps (P := OneLine) (fun _ hnode _ hn => oneLine_of_isIdentifier
    (isIdentifier_of_mem_names hread hnode (Node.mem_names_of_mem_aliases hn))) s hs n hn

theorem oneLine_of_mem_types {filename : String} {line : Line}
    (hline : line ∈ (header.bindings filename).lines) : ∀ type ∈ line.types, OneLine type := by
  rw [Header.bindings_eq_performAll, Output.performAll_lines] at hline
  refine (stepLines_closed OneLine.bindingClosed (TypeTable.all_empty _) ?_).1 line hline
  intro v hv n hn
  have halias := oneLine_of_mem_aliases hread filename (step_mem_of_mem_visits hv)
    (List.mem_filter.mp hn).1
  have hopen : OneLine "<" := by decide
  exact (hopen.append halias).append (by decide)

/-- What is printed for a header that was read from C has no line break in any line. -/
theorem bindings_oneLine (filename : String) :
    (∀ line ∈ (header.bindings filename).bindingText, OneLine line) ∧
      ∀ line ∈ (header.bindings filename).helperText, OneLine line := by
  refine ⟨List.forall_mem_map.mpr fun line hline => ?_, List.forall_mem_map.mpr fun line hline => ?_⟩
  · obtain ⟨s, hs, types, hmem⟩ := Header.exists_step_of_mem_lines hline
    refine Line.oneLine_render ?_ (oneLine_of_mem_types hread hline)
    exact Step.oneLine_words_of_mem_lines (isMarked_of_mem_headerSteps hs)
      (fun word hword => oneLine_of_mem_words hread filename hs hword) hmem
  · rw [Header.bindings_eq_performAll, Output.performAll_helpers, stepHelpers_eq_flatMap] at hline
    obtain ⟨s, hs, hmem⟩ := List.mem_flatMap.mp hline
    exact Step.oneLine_of_mem_helpers
      (fun word hword => oneLine_of_mem_words hread filename hs hword) hmem

end C

end HeaderBindings
