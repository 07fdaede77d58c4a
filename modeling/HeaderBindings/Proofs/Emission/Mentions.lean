/-
  Mentions of records and enumerations.  A mention is one of them in the specifiers in front of a
  declarator that is no function, or in front of none.  Each mention is introduced, whether or not its
  type was introduced before: nothing is kept of the names that are taken.

  Main statement (`introductions_fresh_iff`): the lines that introduce types are those of the mentions
  of the header, in order, so their names are fresh exactly if every mention has a name and no two
  have the same (`introductions_repeated`: a record and a variable of its type have).
-/
import HeaderBindings.Bindings.Summary
import HeaderBindings.Proofs.Emission.Blocks

namespace HeaderBindings

/-! ## Mentions of a header -/

/-- A record or an enumeration, and the name declared after it, which is empty if there is none. -/
structure Mention where
  specifier : Specifier
  declared : String

namespace Mention

/-- The name that a mention goes by: its tag, or else the declared name. -/
def name (m : Mention) : String := (m.specifier.tag?.join.filter (· ≠ "")).getD m.declared

/-- The word that introduces a defined record, one that is referred to, or an enumeration. -/
def marker (m : Mention) : String :=
  match m.specifier with
  | .record .. => "#starttype"
  | .recordRef .. => "#opaque_t"
  | _ => "#integral_t"

/-- The word that introduces the type, with the name that it is introduced under. -/
def opening (m : Mention) : String × String := (m.marker, m.name)

end Mention

def mentionsBefore (specifiers : List Specifier) (declared : String) : List Mention :=
  (specifiers.filter Specifier.isIntroduced).map (⟨·, declared⟩)

/-- The mentions of a declaration, once for each declarator that is no function.  A typedef has the
mentions of its functions as well. -/
def Declaration.mentions (decl : Declaration) : List Mention :=
  match decl.declarators with
  | [] => mentionsBefore decl.specifiers ""
  | ds => (ds.filter fun d => decl.isTypedef || !d.isFunction).flatMap fun d =>
      mentionsBefore decl.specifiers (d.name.getD "")

/-- The mentions in a declaration of the file. -/
def Node.mentions (filename : String) (node : Node) : List Mention :=
  match node with
  | .declaration d => if node.inFile filename then d.mentions else []
  | .definition _ | .assembly .. => []

def Header.mentions (header : Header) (filename : String) : List Mention :=
  header.nodes.flatMap (Node.mentions filename)

/-! ## Opening lines -/

/-- The word and the name of a line that introduces a type. -/
def opening? (line : String) : Option (String × String) :=
  ["#starttype", "#opaque_t", "#integral_t"].findSome? fun marker =>
    if (marker ++ " ").toList.isPrefixOf line.toList then
      some (marker, String.ofList (line.toList.drop (marker ++ " ").toList.length))
    else none

def Line.opening? : Line → Option (String × String)
  | startType name => some ("#starttype", name)
  | opaqueType name => some ("#opaque_t", name)
  | integral name => some ("#integral_t", name)
  | comment _ | field .. | arrayField .. | stopType | number _ | function .. | verbatim _ => none

theorem Line.opening?_render {line : Line} (h : line.IsMarked) :
    HeaderBindings.opening? line.render = line.opening? := by
  cases line with
  | function marker name arguments result =>
    rcases h with rfl | rfl <;>
      simp [HeaderBindings.opening?, render, Marker.render, String.toList_append, opening?]
  | verbatim => cases h
  | comment | opaqueType | startType | field | arrayField | stopType | integral | number =>
    simp [HeaderBindings.opening?, render, String.toList_append, opening?]

theorem bindingText_filterMap_opening? (header : Header) (filename : String) :
    (header.bindings filename).bindingText.filterMap opening?
      = (header.bindings filename).lines.filterMap Line.opening? := by
  rw [Output.bindingText, List.filterMap_map]
  exact List.filterMap_congr fun line hline =>
    Line.opening?_render (Header.isMarked_of_mem_lines hline)

/-! ## Steps -/

theorem Declaration.opening?_fieldLine {types : TypeTable} {member : Declaration} {line : Line}
    (h : member.fieldLine types = some line) : line.opening? = none := by
  unfold fieldLine at h
  split at h
  · cases h
  · obtain ⟨name, _, rfl⟩ := Option.map_eq_some_iff.mp h
    split <;> rfl

/-- The block of a record or an enumeration opens with its one mention. -/
theorem Specifier.introduction_openings (types : TypeTable) (declared : String) {s : Specifier}
    (h : s.isIntroduced = true) :
    (s.introduction types declared).filterMap Line.opening?
      = [(⟨s, declared⟩ : Mention).opening] := by
  cases s with
  | builtin | sign | typedefName | typeOf => cases h
  | recordRef | enumerationRef => rfl
  | record isUnion tag members =>
    have hfields : (members.filterMap (Declaration.fieldLine types)).filterMap Line.opening?
        = [] := by
      rw [List.filterMap_eq_nil_iff]
      intro line hline
      obtain ⟨member, _, hmember⟩ := List.mem_filterMap.mp hline
      exact Declaration.opening?_fieldLine hmember
    rw [introduction, List.filterMap_append, List.filterMap_cons, hfields]
    rfl
  | enumeration tag enumerators =>
    have hnumbers : (enumerators.map Line.number).filterMap Line.opening? = [] := by
      rw [List.filterMap_map, List.filterMap_eq_nil_iff]
      exact fun name _ => rfl
    rw [introduction, List.filterMap_cons, hnumbers]
    rfl

theorem introductions_openings (types : TypeTable) (declared : String)
    (specifiers : List Specifier) :
    (introductions types declared specifiers).filterMap Line.opening?
      = (mentionsBefore specifiers declared).map Mention.opening := by
  induction specifiers with
  | nil => rfl
  | cons s rest ih =>
    rw [introductions, mentionsBefore] at ih
    rw [introductions, mentionsBefore, List.flatMap_cons, List.filterMap_append, ih,
      List.filter_cons]
    cases h : s.isIntroduced with
    | false =>
      rw [s.introduction_of_not_isIntroduced types declared h]
      rfl
    | true =>
      rw [s.introduction_openings types declared h]
      rfl

/-- The mentions that a step introduces. -/
def Step.mentions : Step → List Mention
  | introduce _ fallback specifiers => mentionsBefore specifiers fallback
  | call .. | help _ | record .. => []

theorem Step.lines_openings (types : TypeTable) (s : Step) :
    (s.lines types).filterMap Line.opening? = s.mentions.map Mention.opening := by
  cases s with
  | introduce text fallback specifiers =>
    rw [lines, List.filterMap_cons]
    exact introductions_openings types fallback specifiers
  | call | help | record => rfl

/-! ## Runs -/

theorem stepLines_openings (types : TypeTable) (steps : List Step) :
    (stepLines types steps).filterMap Line.opening?
      = (steps.flatMap Step.mentions).map Mention.opening := by
  induction steps generalizing types with
  | nil => rfl
  | cons s rest ih =>
    rw [stepLines, List.filterMap_append, s.lines_openings, ih, List.flatMap_cons, List.map_append]

theorem Declaration.declaratorSteps_mentions (decl : Declaration) (inFile : Bool)
    (d : Declarator) :
    (decl.declaratorSteps inFile d).flatMap Step.mentions
      = if inFile && (decl.isTypedef || !d.isFunction) then
          mentionsBefore decl.specifiers (d.name.getD "")
        else [] := by
  have hrecord : (d.recordSteps decl.specifiers).flatMap Step.mentions = [] := by
    rw [List.flatMap_eq_nil_iff]
    intro s hs
    obtain ⟨name, _, _, rfl⟩ := Declarator.mem_recordSteps_cases hs
    rfl
  unfold declaratorSteps
  cases decl.isTypedef <;> cases d.isFunction <;> cases inFile <;>
    simp [Step.mentions, hrecord]

theorem Declaration.declarators_mentions (decl : Declaration) (inFile : Bool)
    (ds : List Declarator) :
    (ds.flatMap (decl.declaratorSteps inFile)).flatMap Step.mentions
      = if inFile then
          (ds.filter fun d => decl.isTypedef || !d.isFunction).flatMap fun d =>
            mentionsBefore decl.specifiers (d.name.getD "")
        else [] := by
  induction ds with
  | nil => simp
  | cons d ds ih =>
    rw [List.flatMap_cons, List.flatMap_append, ih, declaratorSteps_mentions, List.filter_cons]
    cases inFile <;> cases decl.isTypedef || !d.isFunction <;> rfl

theorem Node.steps_mentions (filename : String) (node : Node) :
    (node.steps filename).flatMap Step.mentions = node.mentions filename := by
  cases node with
  | declaration decl =>
    rw [Node.steps, Declaration.steps, Node.mentions, Declaration.mentions]
    generalize (Node.declaration decl).inFile filename = inFile
    cases decl.declarators with
    | nil => cases inFile <;> simp [Step.mentions]
    | cons d ds => exact decl.declarators_mentions inFile (d :: ds)
  | definition f =>
    rw [Node.steps, FunctionDefinition.steps, Node.mentions]
    split <;> rfl
  | assembly location text => rfl

theorem bindingText_openings (header : Header) (filename : String) :
    (header.bindings filename).bindingText.filterMap opening?
      = (header.mentions filename).map Mention.opening := by
  have hmentions : (headerSteps filename header.nodes).flatMap Step.mentions
      = header.mentions filename := by
    rw [headerSteps, List.flatMap_assoc, Header.mentions]
    exact congrArg (header.nodes.flatMap ·) (funext (Node.steps_mentions filename))
  rw [bindingText_filterMap_opening?, Header.bindings_eq_performAll, Output.performAll_lines,
    ← hmentions, ← stepLines_openings {}]
  rfl

/-- The lines of a header that introduce types are those of its mentions, in order.  Their names are
not empty and pairwise distinct exactly if every mention has a tag or stands before a declared name,
and no two go by the same name. -/
theorem introductions_fresh_iff (header : Header) (filename : String) :
    let openings := (header.bindings filename).bindingText.filterMap opening?
    let mentions := header.mentions filename
    openings = mentions.map Mention.opening ∧
    (((∀ o ∈ openings, o.2 ≠ "") ∧ (openings.map Prod.snd).Nodup) ↔
      (∀ m ∈ mentions, (∃ tag ∈ m.specifier.tag?.join, tag ≠ "") ∨ m.declared ≠ "") ∧
      mentions.Pairwise fun m m' => m.name ≠ m'.name) := by
  intro openings mentions
  have hopenings : openings = mentions.map Mention.opening := bindingText_openings header filename
  have hnamed : ∀ m : Mention, m.name ≠ "" ↔
      (∃ tag ∈ m.specifier.tag?.join, tag ≠ "") ∨ m.declared ≠ "" := by
    rintro ⟨s, declared⟩
    rw [Mention.name]
    cases s.tag?.join with
    | none => simp
    | some tag => by_cases htag : tag = "" <;> simp [Option.filter, htag]
  refine ⟨hopenings, ?_⟩
  rw [hopenings, List.map_map, List.nodup_iff_pairwise_ne, List.pairwise_map, List.forall_mem_map]
  simp only [Mention.opening, Function.comp_apply, hnamed]

/-- The record `struct s` with its body, and a pointer to it. -/
theorem introductions_repeated :
    let here : Location := { file := "t.h", line := 1 }
    let counter : Declaration :=
      { specifiers := [.builtin .int], declarators := [{ name := some "x" }] }
    let header : Header :=
      { path := "t.h"
        nodes :=
          [ .declaration
              { specifiers := [.record false (some "s") [counter]], location := some here },
            .declaration
              { specifiers := [.recordRef false (some "s")], location := some here
                declarators := [{ name := some "p", chain := [.pointer] }] } ] }
    let openings := (header.bindings "t.h").bindingText.filterMap opening?
    openings = [("#starttype", "s"), ("#opaque_t", "s")] ∧ ¬ (openings.map Prod.snd).Nodup := by
  decide

end HeaderBindings
