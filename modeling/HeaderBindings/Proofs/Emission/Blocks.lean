/-
  The shape of the binding lines.  `listing` is the regular language of a whole listing: comments
  with the blocks of the records and enumerations that they introduce, and lines of functions.

  Main statement (`bindings_wellBracketed`): the lines of every header form a listing, cut into the
  groups of the steps that print them, and the block of a record or an enumeration has one line for
  each named member or enumerator, in order.
-/
import HeaderBindings.Proofs.Emission.Steps
import Mathlib.Computability.Language

namespace HeaderBindings

open scoped Computability

/-! ## The language of a listing -/

namespace Listing

/-- One line that opens with a marker. -/
def marked (marker : String) : Language String := {w | ∃ rest, w = [marker ++ " " ++ rest]}

def comment : Language String := {w | ∃ text, w = ["\x7b- " ++ text ++ " -\x7d"]}

def stop : Language String := {["#stoptype"]}

def field : Language String := marked "#field" + marked "#array_field"

def recordBlock : Language String := marked "#starttype" * field∗ * stop

def enumerationBlock : Language String := marked "#integral_t" * (marked "#num")∗

def block : Language String := marked "#opaque_t" + recordBlock + enumerationBlock

/-- A comment with its blocks, or one function. -/
def entry : Language String := comment * block∗ + marked "#ccall" + marked "#cinline"

end Listing

def listing : Language String := Listing.entry∗

/-! ## Blocks and what they introduce -/

/-- The first declarator of the member has a name. -/
def Declaration.isNamed (member : Declaration) : Bool :=
  member.declarators.head?.any (·.name.isSome)

/-- The line of a member: its name and a type, marked as an array if the chain of its first
declarator begins with one. -/
def LaysOut (member : Declaration) (line : String) : Prop :=
  ∃ d ∈ member.declarators.head?, ∃ name ∈ d.name, ∃ type,
    line = (if d.isArray then "#array_field " else "#field ") ++ name ++ " , " ++ type

/-- A record or an enumeration, defined or referred to. -/
def Specifier.isIntroduced : Specifier → Bool
  | .record .. | .recordRef .. | .enumeration .. | .enumerationRef .. => true
  | .builtin _ | .sign _ | .typedefName _ | .typeOf _ => false

/-- The block that introduces a record or an enumeration under a name. -/
inductive Introduces : Specifier → List String → Prop where
  | record (isUnion : Bool) (tag : Option String) (name : String) {members fields} :
      List.Forall₂ LaysOut (members.filter Declaration.isNamed) fields →
      Introduces (.record isUnion tag members)
        (("#starttype " ++ name) :: fields ++ ["#stoptype"])
  | recordRef (isUnion : Bool) (tag : Option String) (name : String) :
      Introduces (.recordRef isUnion tag) ["#opaque_t " ++ name]
  | enumeration (tag : Option String) (name : String) (enumerators : List String) :
      Introduces (.enumeration tag enumerators)
        (("#integral_t " ++ name) :: enumerators.map ("#num " ++ ·))
  | enumerationRef (tag : Option String) (name : String) :
      Introduces (.enumerationRef tag) ["#integral_t " ++ name]

/-- The lines of one step: a comment with one block for each record and enumeration of the
specifiers, the line of a function, or none. -/
inductive Prints : Step → List String → Prop where
  | introduce (text fallback : String) {specifiers blocks} :
      List.Forall₂ Introduces (specifiers.filter Specifier.isIntroduced) blocks →
      Prints (.introduce text fallback specifiers)
        (("\x7b- " ++ text ++ " -\x7d") :: blocks.flatten)
  | ccall (specifiers : List Specifier) (d : Declarator) (name type : String) :
      Prints (.call .ccall specifiers d) ["#ccall " ++ name ++ " , " ++ type]
  | cinline (specifiers : List Specifier) (d : Declarator) (name type : String) :
      Prints (.call .cinline specifiers d) ["#cinline " ++ name ++ " , " ++ type]
  | help (f : FunctionDefinition) : Prints (.help f) []
  | record (name : String) (specifiers : List Specifier) (chain : List Derivation) :
      Prints (.record name specifiers chain) []

/-! ## Groups belong to the language -/

theorem LaysOut.mem_field {member : Declaration} {line : String} (h : LaysOut member line) :
    [line] ∈ Listing.field := by
  obtain ⟨d, _, name, _, type, rfl⟩ := h
  rw [Listing.field, Language.mem_add]
  cases d.isArray with
  | false => exact .inl ⟨name ++ " , " ++ type, by simp [String.append_assoc]⟩
  | true => exact .inr ⟨name ++ " , " ++ type, by simp [String.append_assoc]⟩

theorem forall_mem_of_forall₂ {α β : Type} {R : α → β → Prop} {P : β → Prop} {xs : List α}
    {ys : List β} (h : List.Forall₂ R xs ys) (hR : ∀ x y, R x y → P y) : ∀ y ∈ ys, P y :=
  ((List.forall₂_and_left _ _).mp (h.flip.imp fun y x hxy => ⟨hR x y hxy, hxy⟩)).1

/-- Lines that each form a word of a language form a word of its closure. -/
theorem mem_kstar_of_forall_mem {l : Language String} {lines : List String}
    (h : ∀ line ∈ lines, [line] ∈ l) : lines ∈ l∗ := by
  have hflatten : (lines.map fun line => [line]).flatten = lines := by
    induction lines with
    | nil => rfl
    | cons line rest ih =>
      rw [List.map_cons, List.flatten_cons, ih fun line' h' => h line' (List.mem_cons_of_mem _ h')]
      rfl
  rw [← hflatten]
  apply Language.join_mem_kstar
  intro w hw
  obtain ⟨line, hline, rfl⟩ := List.mem_map.mp hw
  exact h line hline

theorem Introduces.mem_block {s : Specifier} {block : List String} (h : Introduces s block) :
    block ∈ Listing.block := by
  rw [Listing.block, Language.mem_add, Language.mem_add]
  cases h with
  | recordRef isUnion tag name => exact .inl (.inl ⟨name, rfl⟩)
  | enumeration tag name enumerators =>
    refine .inr (Language.append_mem_mul (a := [_]) ⟨name, rfl⟩ (mem_kstar_of_forall_mem ?_))
    intro line hline
    obtain ⟨enumerator, _, rfl⟩ := List.mem_map.mp hline
    exact ⟨enumerator, rfl⟩
  | enumerationRef tag name =>
    exact .inr (Language.append_mem_mul (a := [_]) ⟨name, rfl⟩ (Language.nil_mem_kstar _))
  | @record isUnion tag name members fields hfields =>
    have hmem : ∀ line ∈ fields, [line] ∈ Listing.field :=
      forall_mem_of_forall₂ hfields fun member line h => h.mem_field
    have hstar : fields ∈ Listing.field∗ := mem_kstar_of_forall_mem hmem
    exact .inl (.inr (Language.append_mem_mul
      (Language.append_mem_mul (a := [_]) ⟨name, rfl⟩ hstar) rfl))

theorem Prints.mem_listing {s : Step} {group : List String} (h : Prints s group) :
    group ∈ listing := by
  have hentry : ∀ {w : List String}, w ∈ Listing.entry → w ∈ listing := by
    intro w hw
    exact Language.mem_kstar.mpr ⟨[w], by simp, by simpa using hw⟩
  cases h with
  | help f => exact Language.nil_mem_kstar _
  | record name specifiers chain => exact Language.nil_mem_kstar _
  | ccall specifiers d name type =>
    exact hentry (.inl (.inr ⟨name ++ " , " ++ type, by simp [String.append_assoc]⟩))
  | cinline specifiers d name type =>
    exact hentry (.inr ⟨name ++ " , " ++ type, by simp [String.append_assoc]⟩)
  | @introduce text fallback specifiers blocks hblocks =>
    have hmem : ∀ block ∈ blocks, block ∈ Listing.block :=
      forall_mem_of_forall₂ hblocks fun s block h => h.mem_block
    have hstar : blocks.flatten ∈ Listing.block∗ := Language.join_mem_kstar hmem
    exact hentry (.inl (.inl (Language.append_mem_mul (a := [_]) ⟨text, rfl⟩ hstar)))

/-! ## The lines of steps -/

theorem Declaration.fieldLine_of_not_isNamed (types : TypeTable) {member : Declaration}
    (h : member.isNamed = false) : member.fieldLine types = none := by
  unfold isNamed at h
  unfold fieldLine
  cases hds : member.declarators with
  | nil => rfl
  | cons d ds =>
    rw [hds] at h
    have hname : d.name = none := by simpa using h
    simp [hname]

theorem Declaration.fieldLine_of_isNamed (types : TypeTable) {member : Declaration}
    (h : member.isNamed = true) :
    ∃ line, member.fieldLine types = some line ∧ LaysOut member line.render := by
  unfold isNamed at h
  unfold fieldLine LaysOut
  cases hds : member.declarators with
  | nil => simp [hds] at h
  | cons d ds =>
    rw [hds] at h
    obtain ⟨name, hname⟩ : ∃ name, d.name = some name := by simpa [Option.isSome_iff_exists] using h
    obtain ⟨declared, chain⟩ := d
    subst hname
    cases chain with
    | nil => exact ⟨_, rfl, _, rfl, name, rfl, _, rfl⟩
    | cons step rest => cases step <;> exact ⟨_, rfl, _, rfl, name, rfl, _, rfl⟩

theorem Declaration.isSome_fieldLine (types : TypeTable) (member : Declaration) :
    (member.fieldLine types).isSome = member.isNamed := by
  cases h : member.isNamed with
  | false => rw [member.fieldLine_of_not_isNamed types h, Option.isSome_none]
  | true =>
    obtain ⟨line, hline, _⟩ := member.fieldLine_of_isNamed types h
    rw [hline, Option.isSome_some]

/-- What a function gives for some elements, each next to the element that it is given for. -/
theorem forall₂_filter_filterMap {α β γ : Type} {p : α → Bool} {f : α → Option β} (g : β → γ)
    (h : ∀ x, (f x).isSome = p x) (xs : List α) :
    List.Forall₂ (fun x z => ∃ y, f x = some y ∧ z = g y) (xs.filter p)
      ((xs.filterMap f).map g) := by
  induction xs with
  | nil => exact .nil
  | cons x rest ih =>
    have hx := h x
    cases hf : f x with
    | none =>
      have hp : ¬ p x = true := by rw [← hx, hf]; exact Bool.false_ne_true
      rw [List.filter_cons_of_neg hp, List.filterMap_cons_none hf]
      exact ih
    | some y =>
      have hp : p x = true := by rw [← hx, hf]; rfl
      rw [List.filter_cons_of_pos hp, List.filterMap_cons_some hf, List.map_cons]
      exact .cons ⟨y, hf, rfl⟩ ih

theorem fieldLines_layOut (types : TypeTable) (members : List Declaration) :
    List.Forall₂ LaysOut (members.filter Declaration.isNamed)
      ((members.filterMap (Declaration.fieldLine types)).map Line.render) := by
  refine (forall₂_filter_filterMap _ (Declaration.isSome_fieldLine types) members).imp ?_
  rintro member _ ⟨line, hline, rfl⟩
  have hnamed : member.isNamed = true := by
    rw [← member.isSome_fieldLine types, hline, Option.isSome_some]
  obtain ⟨line', hline', hmember⟩ := member.fieldLine_of_isNamed types hnamed
  rwa [Option.some.inj (hline.symm.trans hline')]

theorem Specifier.introduction_of_not_isIntroduced (types : TypeTable) (fallback : String)
    {s : Specifier} (h : s.isIntroduced = false) : s.introduction types fallback = [] := by
  cases s with
  | builtin | sign | typedefName | typeOf => rfl
  | record | recordRef | enumeration | enumerationRef => cases h

theorem Specifier.introduction_introduces (types : TypeTable) (fallback : String)
    {s : Specifier} (h : s.isIntroduced = true) :
    Introduces s ((s.introduction types fallback).map Line.render) := by
  cases s with
  | builtin | sign | typedefName | typeOf => cases h
  | record isUnion tag members =>
    rw [introduction, List.map_append, List.map_cons]
    exact .record isUnion tag _ (fieldLines_layOut types members)
  | recordRef isUnion tag => exact .recordRef isUnion tag _
  | enumerationRef tag => exact .enumerationRef tag _
  | enumeration tag enumerators =>
    rw [introduction, List.map_cons, List.map_map]
    exact .enumeration tag _ enumerators

/-- The introductions of a specifier sequence are one block for each record and enumeration. -/
theorem introductions_blocks (types : TypeTable) (fallback : String)
    (specifiers : List Specifier) :
    ∃ blocks, (introductions types fallback specifiers).map Line.render = blocks.flatten ∧
      List.Forall₂ Introduces (specifiers.filter Specifier.isIntroduced) blocks := by
  induction specifiers with
  | nil => exact ⟨[], rfl, .nil⟩
  | cons s rest ih =>
    obtain ⟨blocks, hblocks, hrest⟩ := ih
    rw [introductions] at hblocks
    rw [introductions, List.flatMap_cons, List.map_append, hblocks, List.filter_cons]
    cases h : s.isIntroduced with
    | false =>
      rw [s.introduction_of_not_isIntroduced types fallback h]
      exact ⟨blocks, rfl, hrest⟩
    | true => exact ⟨_ :: blocks, rfl, .cons (s.introduction_introduces types fallback h) hrest⟩

/-- The marker of a call in a header is that of a declared or of an inline function. -/
def Step.IsMarked : Step → Prop
  | call marker .. => marker = .ccall ∨ marker = .cinline
  | introduce .. | help _ | record .. => True

theorem Step.isMarked_of_mem_steps {filename : String} {node : Node} {s : Step}
    (hs : s ∈ node.steps filename) : s.IsMarked := by
  cases node with
  | declaration decl =>
    rcases Declaration.mem_steps_cases hs with
      ⟨_, fallback, rfl⟩ | ⟨_, _, d, _, _, rfl⟩ | ⟨_, d, _, name, _, _, rfl⟩
    · trivial
    · exact .inl rfl
    · trivial
  | definition f =>
    rcases (FunctionDefinition.mem_steps_cases hs).2 with rfl | rfl
    · exact .inr rfl
    · trivial
  | assembly location text => cases hs

theorem isMarked_of_mem_headerSteps {filename : String} {nodes : List Node} {s : Step}
    (hs : s ∈ headerSteps filename nodes) : s.IsMarked := by
  obtain ⟨node, _, hs⟩ := List.mem_flatMap.mp hs
  exact Step.isMarked_of_mem_steps hs

theorem Step.prints (types : TypeTable) {s : Step} (h : s.IsMarked) :
    Prints s ((s.lines types).map Line.render) := by
  cases s with
  | introduce text fallback specifiers =>
    obtain ⟨blocks, hlines, hblocks⟩ := introductions_blocks types fallback specifiers
    rw [lines, List.map_cons, hlines]
    exact .introduce text fallback hblocks
  | call marker specifiers d =>
    rcases h with rfl | rfl
    · exact .ccall specifiers d _ _
    · exact .cinline specifiers d _ _
  | help f => exact .help f
  | record name specifiers chain => exact .record name specifiers chain

/-- A line that opens with a word of its own, and not with one that the caller gave. -/
def Line.IsMarked : Line → Prop
  | function marker .. => marker = .ccall ∨ marker = .cinline
  | verbatim _ => False
  | comment _ | opaqueType _ | startType _ | field .. | arrayField .. | stopType | integral _
  | number _ => True

theorem Step.isMarked_of_mem_lines {types : TypeTable} {s : Step} {line : Line} (h : s.IsMarked)
    (hline : line ∈ s.lines types) : line.IsMarked := by
  cases s with
  | introduce text fallback specifiers =>
    rcases List.mem_cons.mp hline with rfl | hline
    · trivial
    · have hintroduction := isIntroduction_of_mem_introductions hline
      cases line with
      | comment | function | verbatim => cases hintroduction
      | opaqueType | startType | field | arrayField | stopType | integral | number => trivial
  | call marker specifiers d =>
    rw [List.mem_singleton.mp hline]
    exact h
  | help f => cases hline
  | record name specifiers chain => cases hline

/-! ## Runs -/

theorem Header.isMarked_of_mem_lines {header : Header} {filename : String} {line : Line}
    (hline : line ∈ (header.bindings filename).lines) : line.IsMarked := by
  obtain ⟨s, hs, types, hline⟩ := exists_step_of_mem_lines hline
  exact Step.isMarked_of_mem_lines (isMarked_of_mem_headerSteps hs) hline

theorem stepLines_prints (types : TypeTable) {steps : List Step} (h : ∀ s ∈ steps, s.IsMarked) :
    ∃ groups, (stepLines types steps).map Line.render = groups.flatten ∧
      List.Forall₂ Prints steps groups := by
  induction steps generalizing types with
  | nil => exact ⟨[], rfl, .nil⟩
  | cons s rest ih =>
    obtain ⟨groups, hlines, hgroups⟩ :=
      ih (s.types types) fun s' hs' => h s' (List.mem_cons_of_mem _ hs')
    refine ⟨_ :: groups, ?_, .cons (s.prints types (h s List.mem_cons_self)) hgroups⟩
    rw [stepLines, List.map_append, hlines, List.flatten_cons]

/-- The binding lines of a header form a listing: no block is left open or interrupted.  They are
cut into the groups of the header's steps, so the block of every record has one line for each named
member, in order and marked by its chain, and that of every enumeration one for each enumerator. -/
theorem bindings_wellBracketed (header : Header) (filename : String) :
    (header.bindings filename).bindingText ∈ listing ∧
    ∃ groups : List (List String),
      (header.bindings filename).bindingText = groups.flatten ∧
      List.Forall₂ Prints (headerSteps filename header.nodes) groups := by
  have hsteps : ∀ s ∈ headerSteps filename header.nodes, s.IsMarked := by
    intro s hs
    obtain ⟨node, _, hs⟩ := List.mem_flatMap.mp hs
    exact Step.isMarked_of_mem_steps hs
  obtain ⟨groups, hlines, hgroups⟩ := stepLines_prints {} hsteps
  have htext : (header.bindings filename).bindingText = groups.flatten := by
    rw [Header.bindings_eq_performAll, Output.bindingText, Output.performAll_lines, ← hlines]
    rfl
  refine ⟨?_, groups, htext, hgroups⟩
  have hmem : ∀ group ∈ groups, group ∈ listing :=
    forall_mem_of_forall₂ hgroups fun s group h => h.mem_listing
  rw [htext, listing, ← kstar_idem]
  exact Language.join_mem_kstar hmem

end HeaderBindings
