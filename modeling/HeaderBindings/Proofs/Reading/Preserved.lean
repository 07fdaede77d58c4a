/-
  What reading keeps of a text.  Each declaration and each function with a body becomes a node; each
  entity becomes a declaration of at most one declarator, with its name, its layers as the chain, its
  parameters and its members.

  Main statement (`externals_preserved`): all this holds at any depth, so that the bindings of the
  text print every record that they print with one line for each named member.
  `typedefParameter_dropped`: a typedef in a parameter list is no parameter.
-/
import HeaderBindings.Proofs.Emission.Blocks
import HeaderBindings.Proofs.Reading.Entities

namespace HeaderBindings.C

/-! ## Parameters, members and layers -/

/-- The parameter is a declaration, a type without a name or a bare name. -/
def Param.declares : Param → Bool
  | .declared (.decl ..) | .unnamed .. | .bare _ => true
  | .declared (.typedef ..) | .ellipsis => false

/-- The member is a declaration. -/
def Member.declares : Member → Bool
  | .field (.decl ..) => true
  | .field (.typedef ..) | .pragma _ => false

def Param.Shows (file : String) (p : Param) (d : Declaration) : Prop :=
  ∃ e, p.entity? = some e ∧ d = e.declaration file

def Member.Shows (file : String) (m : Member) (d : Declaration) : Prop :=
  ∃ e, m.entity? = some e ∧ d = e.declaration file

theorem Param.isSome_entity? (p : Param) : p.entity?.isSome = p.declares := by
  cases p with
  | declared decl => cases decl <;> rfl
  | unnamed | bare | ellipsis => rfl

theorem Member.isSome_entity? (m : Member) : m.entity?.isSome = m.declares := by
  cases m with
  | field decl => cases decl <;> rfl
  | pragma => rfl

/-- A derivation that shows a layer.  A function has one declaration for each parameter, in order, and
is variadic if its list has an ellipsis. -/
def Layer.Shows (file : String) : Layer → Derivation → Prop
  | .pointer _, .pointer => True
  | .array _ bound, .array length => length = bound.length
  | .function parameters, .function declarations isVariadic =>
    List.Forall₂ (Param.Shows file) (parameters.filter Param.declares) declarations ∧
      (isVariadic = true ↔ .ellipsis ∈ parameters)
  | _, _ => False

theorem any_isEllipsis_iff (parameters : List Param) :
    parameters.any Param.isEllipsis = true ↔ .ellipsis ∈ parameters := by
  rw [List.any_eq_true]
  constructor
  · rintro ⟨p, hp, hellipsis⟩
    cases p with
    | ellipsis => exact hp
    | declared | unnamed | bare => cases hellipsis
  · exact fun h => ⟨.ellipsis, h, rfl⟩

theorem Layer.shows_derivation (file : String) (l : Layer) : l.Shows file (l.derivation file) := by
  cases l with
  | pointer => trivial
  | array => rfl
  | function parameters =>
    refine ⟨?_, any_isEllipsis_iff parameters⟩
    rw [Param.declarations_eq]
    exact forall₂_filter_filterMap _ Param.isSome_entity? parameters

theorem Layer.forall₂_shows (file : String) (layers : List Layer) :
    List.Forall₂ (Layer.Shows file) layers (layers.map (Layer.derivation file)) := by
  rw [List.forall₂_map_right_iff, List.forall₂_same]
  exact fun l _ => l.shows_derivation file

/-! ## Entities -/

/-- The specifiers show the base: a record has one member for each declaration in it, in order. -/
def TypeTree.BaseKept (file : String) (t : TypeTree) (specifiers : List Specifier) : Prop :=
  ∀ isUnion tag members, t.base = .record isUnion tag members →
    ∃ declarations, specifiers = [.record isUnion (tag.map Ident.text) declarations] ∧
      List.Forall₂ (Member.Shows file) (members.filter Member.declares) declarations

theorem TypeTree.baseKept_specifiers (file : String) (t : TypeTree) :
    t.BaseKept file (t.specifiers file) := by
  intro isUnion tag members hbase
  refine ⟨_, ?_, forall₂_filter_filterMap _ Member.isSome_entity? members⟩
  rw [t.specifiers_eq, hbase, TypeTree.specifiers, Member.declarations_eq]

/-- What the declaration keeps of an entity: it has at most one declarator, with the name and the
layers of the entity, and lacks it only if there is neither a name nor anything around the base. -/
structure Entity.KeptBy (file : String) (e : Entity) (d : Declaration) : Prop where
  declarators : d.declarators = [] ∨ ∃ chain,
    d.declarators = [⟨e.name?.map Ident.text, chain⟩] ∧ List.Forall₂ (Layer.Shows file) e.layers chain
  named : ∀ name ∈ e.name?, ∃ chain, d.declarators = [⟨some name.text, chain⟩]
  lacking : d.declarators = [] ↔ e.name? = none ∧ ∃ t ∈ e.type?, t.shells = []
  base : ∀ t ∈ e.type?, t.BaseKept file d.specifiers

theorem declarators_cases (file : String) (name : Option Ident) (type : TypeTree) :
    (declarators name type (type.chain file) = [] ∧ name = none ∧ type.shells = []) ∨
    (declarators name type (type.chain file)
        = [⟨name.map Ident.text, type.layers.map (Layer.derivation file)⟩] ∧
      ¬ (name = none ∧ type.shells = [])) := by
  rw [type.shells_eq_nil_iff file, declarators, ← type.chain_eq file]
  cases name with
  | some name => exact .inr ⟨rfl, by simp⟩
  | none => cases type.chain file <;> cases type.isDeclared <;> simp

namespace Entity

theorem declarators_cases (file : String) (e : Entity) :
    ((e.declaration file).declarators = [] ∧ e.name? = none ∧ ∃ t ∈ e.type?, t.shells = []) ∨
    ((e.declaration file).declarators
        = [⟨e.name?.map Ident.text, e.layers.map (Layer.derivation file)⟩] ∧
      ¬ (e.name? = none ∧ ∃ t ∈ e.type?, t.shells = [])) := by
  have htype : ∀ name type, (declarators name type (type.chain file) = [] ∧
        name = none ∧ ∃ t ∈ some type, t.shells = []) ∨
      (declarators name type (type.chain file)
          = [⟨name.map Ident.text, type.layers.map (Layer.derivation file)⟩] ∧
        ¬ (name = none ∧ ∃ t ∈ some type, t.shells = [])) := by
    intro name type
    simp only [Option.mem_some, exists_eq_left']
    exact C.declarators_cases file name type
  cases e with
  | shown decl | parameter decl =>
    cases decl with
    | decl name _ _ _ type => exact htype name type
    | typedef name _ type => exact htype name type
  | unnamed type place => exact htype none type
  | bare name => exact .inr ⟨rfl, by simp [name?]⟩

theorem specifiers_declaration (file : String) {e : Entity} {t : TypeTree} (h : t ∈ e.type?) :
    (e.declaration file).specifiers = t.specifiers file := by
  cases e with
  | shown decl | parameter decl => cases decl <;> (obtain rfl := Option.some.inj h; rfl)
  | unnamed type place => obtain rfl := Option.some.inj h; rfl
  | bare name => cases h

theorem keptBy_declaration (file : String) (e : Entity) : e.KeptBy file (e.declaration file) := by
  have hcases := e.declarators_cases file
  refine ⟨?_, ?_, ?_, ?_⟩
  · exact hcases.imp And.left fun h => ⟨_, h.1, Layer.forall₂_shows file e.layers⟩
  · intro name hname
    rw [hname] at hcases
    rcases hcases with ⟨_, h, _⟩ | ⟨h, _⟩
    · cases h
    · exact ⟨_, h⟩
  · rcases hcases with ⟨h, hlacking⟩ | ⟨h, hlacking⟩
    · exact iff_of_true h hlacking
    · exact iff_of_false (by simp [h]) hlacking
  · intro t ht
    rw [specifiers_declaration file ht]
    exact t.baseKept_specifiers file

end Entity

/-! ## Top level -/

def External.declares : External → Bool
  | .declaration _ | .definition .. => true
  | .silent => false

/-- The node of what stands at the top level.  A function with a body keeps its name, its layers and
its base. -/
inductive External.Shows (file : String) : External → Node → Prop where
  | declaration (decl : Decl) :
      Shows file (.declaration decl) (.declaration ((Entity.shown decl).declaration file))
  | definition (decl : Decl) (body : List Stmt) (place : Option Place) {f : FunctionDefinition} :
      f.declarator.name = decl.name?.map Ident.text →
      List.Forall₂ (Layer.Shows file) decl.type.layers f.declarator.chain →
      decl.type.BaseKept file f.specifiers →
      Shows file (.definition decl body place) (.definition f)

theorem External.forall₂_shows (file : String) (externals : List External) :
    List.Forall₂ (External.Shows file) (externals.filter External.declares)
      (externals.filterMap (External.node? file)) := by
  induction externals with
  | nil => exact .nil
  | cons e rest ih =>
    cases e with
    | declaration decl => exact .cons (.declaration decl) ih
    | definition decl body place =>
      refine .cons (.definition decl body place rfl ?_ (decl.type.baseKept_specifiers file)) ih
      rw [decl.type.chain_eq file]
      exact Layer.forall₂_shows file decl.type.layers
    | silent => exact ih

/-! ## Records in the bindings -/

/-- The line of a member with this name. -/
def Entity.memberLine (file : String) (types : TypeTable) (e : Entity) (name : Ident) : Line :=
  let specifiers := (e.declaration file).specifiers
  match e.layers with
  | .array .. :: inner =>
    .arrayField name.text (chainSignature .binding types specifiers (inner.map (Layer.derivation file)))
  | layers =>
    .field name.text (chainSignature .binding types specifiers (layers.map (Layer.derivation file)))

theorem Entity.fieldLine_declaration (file : String) (types : TypeTable) (e : Entity) :
    (e.declaration file).fieldLine types = e.name?.map (e.memberLine file types) := by
  rcases e.declarators_cases file with ⟨hnil, hname, _⟩ | ⟨hone, _⟩
  · unfold Declaration.fieldLine
    rw [hnil, hname]
    rfl
  · have hsignature := Declaration.signature_cons .binding types (e.declaration file) _ [] hone
    unfold Declaration.fieldLine memberLine
    rw [hone]
    cases e.name? with
    | none => rfl
    | some name =>
      rw [hsignature, Declarator.signature]
      cases e.layers with
      | nil => rfl
      | cons l rest => cases l <;> rfl

/-- The lines of a record of the text: a line for each named declaration in it, in order. -/
def recordLines (file : String) (types : TypeTable) (name : String) (members : List Member) :
    List Line :=
  .startType name :: (members.filterMap Member.entity?).filterMap
    (fun e => e.name?.map (e.memberLine file types)) ++ [.stopType]

theorem Entity.memberLine_ne_startType (file : String) (types : TypeTable) (e : Entity)
    (name : Ident) (started : String) : e.memberLine file types name ≠ .startType started := by
  unfold memberLine
  simp only
  split <;> simp

theorem eq_of_startType_mem_recordLines {file : String} {types : TypeTable} {name started : String}
    {members : List Member} (h : .startType started ∈ recordLines file types name members) :
    started = name := by
  rcases List.mem_append.mp h with h | h
  · rcases List.mem_cons.mp h with h | h
    · exact Line.startType.inj h
    · obtain ⟨e, _, hline⟩ := List.mem_filterMap.mp h
      obtain ⟨n, _, hline⟩ := Option.map_eq_some_iff.mp hline
      exact absurd hline (e.memberLine_ne_startType file types n started)
  · cases List.mem_singleton.mp h

theorem introductions_record (file : String) (types : TypeTable) (fallback : String)
    {t : TypeTree} {isUnion : Bool} {tag : Option Ident} {members : List Member}
    (hbase : t.base = .record isUnion tag members) :
    introductions types fallback (t.specifiers file) = recordLines file types
      (Specifier.introduction.nameOr fallback (tag.map Ident.text)) members := by
  have hfields : (Member.declarations file members).filterMap (Declaration.fieldLine types)
      = (members.filterMap Member.entity?).filterMap
        (fun e => e.name?.map (e.memberLine file types)) := by
    rw [Member.declarations_eq, List.filterMap_map]
    exact congrArg (List.filterMap · _) (funext fun e => e.fieldLine_declaration file types)
  rw [t.specifiers_eq, hbase, TypeTree.specifiers, recordLines, ← hfields]
  exact List.append_nil _

/-- A type that prints a record has one as its base. -/
theorem exists_record_of_startType {file : String} {types : TypeTable} {fallback name : String}
    {t : TypeTree} (h : .startType name ∈ introductions types fallback (t.specifiers file)) :
    ∃ isUnion tag members, t.base = .record isUnion tag members := by
  rw [t.specifiers_eq] at h
  have hshells := t.shells_base
  cases hbase : t.base with
  | record isUnion tag members => exact ⟨isUnion, tag, members, rfl⟩
  | words keywords =>
    rw [hbase, TypeTree.specifiers] at h
    obtain ⟨s, hs, hline⟩ := List.mem_flatMap.mp h
    obtain ⟨word, _, rfl⟩ := List.mem_map.mp hs
    cases word with
    | keyword word => cases word <;> cases hline
    | typedefName => cases hline
  | recordRef | enumerationRef | named =>
    rw [hbase] at h
    simp [introductions, Specifier.introduction, TypeTree.specifiers] at h
  | enumeration tag enumerators =>
    rw [hbase] at h
    simp [introductions, Specifier.introduction, TypeTree.specifiers] at h
  | pointer | array | function | declared =>
    rw [hbase] at hshells
    cases hshells

/-- A step that prints a record prints a declaration of the text, and the record with all its
members. -/
theorem step_recordLines {file filename name : String} {externals : List External} {s : Step}
    {types : TypeTable}
    (hs : s ∈ headerSteps filename (externals.filterMap (External.node? file)))
    (hstart : .startType name ∈ s.lines types) :
    ∃ decl isUnion tag members, .declaration decl ∈ externals ∧
      decl.type.base = .record isUnion tag members ∧
      s.lines types = .comment decl.line :: recordLines file types name members := by
  obtain ⟨node, hnode, hs⟩ := List.mem_flatMap.mp hs
  obtain ⟨e, he, hread⟩ := List.mem_filterMap.mp hnode
  have hintroduce : ∀ {text fallback specifiers}, s = .introduce text fallback specifiers →
      .startType name ∈ introductions types fallback specifiers := by
    rintro text fallback specifiers rfl
    exact (List.mem_cons.mp hstart).resolve_left (by simp)
  cases e with
  | silent => cases hread
  | definition decl body place =>
    obtain rfl := Option.some.inj hread
    obtain ⟨_, rfl | rfl⟩ := FunctionDefinition.mem_steps_cases hs
    · simp [Step.lines, functionLine] at hstart
    · cases hstart
  | declaration decl =>
    obtain rfl := Option.some.inj hread
    have hspecifiers : (decl.declaration file decl.line).specifiers = decl.type.specifiers file :=
      Entity.specifiers_declaration file (e := .shown decl) rfl
    have htext : (decl.declaration file decl.line).text = decl.line := by cases decl <;> rfl
    rcases Declaration.mem_steps_cases hs with
      ⟨_, fallback, rfl⟩ | ⟨_, _, d, _, _, rfl⟩ | ⟨_, d, _, declared, _, _, rfl⟩
    · have hmem := hintroduce rfl
      rw [hspecifiers] at hmem
      obtain ⟨isUnion, tag, members, hbase⟩ := exists_record_of_startType hmem
      have hlines := introductions_record file types fallback hbase
      rw [hlines] at hmem
      refine ⟨decl, isUnion, tag, members, he, hbase, ?_⟩
      rw [Step.lines, hspecifiers, htext, hlines, eq_of_startType_mem_recordLines hmem]
    · simp [Step.lines, functionLine] at hstart
    · cases hstart

/-! ## The whole text -/

/-- A text gives one node for each declaration and each function with a body.  The declarations at
any depth of the nodes are the readings of the entities of the text, each of which is kept; and the
lines that print a record are one for each named declaration in it. -/
theorem externals_preserved (file : String) (externals : List External) :
    let nodes := externals.filterMap (External.node? file)
    let entities := externals.flatMap External.entities
    List.Forall₂ (External.Shows file) (externals.filter External.declares) nodes ∧
    nodes.flatMap Node.parts = entities.map (Entity.declaration file) ∧
    (∀ e ∈ entities, e.KeptBy file (e.declaration file)) ∧
    ∀ filename, ∀ s ∈ headerSteps filename nodes, ∀ types name, .startType name ∈ s.lines types →
      ∃ decl isUnion tag members, .declaration decl ∈ externals ∧
        decl.type.base = .record isUnion tag members ∧
        s.lines types = .comment decl.line :: recordLines file types name members := by
  intro nodes entities
  exact ⟨External.forall₂_shows file externals, External.parts_eq file externals,
    fun e _ => e.keptBy_declaration file,
    fun _ _ hs _ _ hstart => step_recordLines hs hstart⟩

/-- The parameter lists of the functions that are declared at the top level. -/
def External.parameterLists : External → List (List Param)
  | .declaration decl | .definition decl _ _ => decl.type.layers.filterMap fun
    | .function parameters => some parameters
    | .pointer _ | .array .. => none
  | .silent => []

/-- A typedef in a parameter list, which C does not allow but the parser reads, is no parameter of the
function. -/
theorem typedefParameter_dropped :
    let text := "void f(typedef int x);".toList
    (parse text "t.h").toOption.map (fun externals => (externals.flatMap
      External.parameterLists).map fun ps => (ps.filter (!·.isEllipsis)).length) = some [1] ∧
    (read text "t.h").toOption.map (fun header => header.nodes.map fun
      | .declaration d => d.declarators.map fun declarator => declarator.parameters.length
      | .definition _ | .assembly .. => []) = some [[0]] := by
  decide +kernel

end HeaderBindings.C
