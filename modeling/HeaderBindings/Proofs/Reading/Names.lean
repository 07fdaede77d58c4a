/-
  Names in a header: those that are declared, tags, enumerators, and the names of aliases, at any
  depth.

  Main statement (`isIdentifier_of_mem_names`): every name in a header that was read from C is an
  identifier.
-/
import HeaderBindings.Proofs.Comments.SelfContained
import HeaderBindings.Proofs.Reading.Entities
import HeaderBindings.Proofs.Signature.Aliases

namespace HeaderBindings

/-! ## Names in a declaration -/

/-- The names in a specifier itself; those in the members of a record belong to the members. -/
def Specifier.names : Specifier → List String
  | .typedefName name => [name]
  | .record _ tag _ | .recordRef _ tag | .enumerationRef tag => tag.toList
  | .enumeration tag enumerators => tag.toList ++ enumerators
  | .builtin _ | .sign _ | .typeOf _ => []

/-- The names in a declaration itself; those in its parameters and members belong to them. -/
def Declaration.names (d : Declaration) : List String :=
  d.declarators.filterMap Declarator.name ++ d.specifiers.flatMap Specifier.names

/-- The names in a node, at any depth. -/
def Node.names : Node → List String
  | .declaration d => d.parts.flatMap Declaration.names
  | .definition f =>
    f.declarator.name.toList ++ f.specifiers.flatMap Specifier.names
      ++ (Node.definition f).parts.flatMap Declaration.names
  | .assembly .. => []

/-! ## Aliases are names -/

mutual

theorem Declaration.exists_part_of_mem_aliases {n : String} : (d : Declaration) → n ∈ d.aliases →
    ∃ p ∈ d.parts, n ∈ p.names
  | ⟨specifiers, declarators, isTypedef, location, text⟩, hn => by
    rw [Declaration.aliases, List.mem_append] at hn
    rw [Declaration.parts]
    rcases hn with hn | hn
    · rcases specifierAliases_cases specifiers hn with hown | ⟨p, hp, hname⟩
      · exact ⟨_, List.mem_cons_self, List.mem_append_right _ hown⟩
      · exact ⟨p, List.mem_cons_of_mem _ (List.mem_append_right _ hp), hname⟩
    · obtain ⟨p, hp, hname⟩ := exists_part_of_mem_declaratorAliases declarators hn
      exact ⟨p, List.mem_cons_of_mem _ (List.mem_append_left _ hp), hname⟩

theorem exists_part_of_mem_declaratorAliases {n : String} : (ds : List Declarator) →
    n ∈ declaratorAliases ds → ∃ p ∈ declaratorParts ds, n ∈ p.names
  | ⟨_, chain⟩ :: rest, hn => by
    rw [declaratorAliases, Declarator.aliases, List.mem_append] at hn
    rw [declaratorParts]
    rcases hn with hn | hn
    · obtain ⟨p, hp, hname⟩ := exists_part_of_mem_chainAliases chain hn
      exact ⟨p, List.mem_append_left _ hp, hname⟩
    · obtain ⟨p, hp, hname⟩ := exists_part_of_mem_declaratorAliases rest hn
      exact ⟨p, List.mem_append_right _ hp, hname⟩

theorem exists_part_of_mem_chainAliases {n : String} : (chain : List Derivation) →
    n ∈ chainAliases chain → ∃ p ∈ chainParts chain, n ∈ p.names
  | .function parameters _ :: rest, hn => by
    rw [chainAliases, Derivation.aliases, List.mem_append] at hn
    rw [chainParts]
    rcases hn with hn | hn
    · obtain ⟨p, hp, hname⟩ := exists_part_of_mem_declarationAliases parameters hn
      exact ⟨p, List.mem_append_left _ hp, hname⟩
    · obtain ⟨p, hp, hname⟩ := exists_part_of_mem_chainAliases rest hn
      exact ⟨p, List.mem_append_right _ hp, hname⟩
  | .pointer :: rest, hn | .array _ :: rest, hn => by
    rw [chainParts]
    exact exists_part_of_mem_chainAliases rest hn

theorem specifierAliases_cases {n : String} : (specifiers : List Specifier) →
    n ∈ specifierAliases specifiers →
      n ∈ specifiers.flatMap Specifier.names ∨ ∃ p ∈ specifierParts specifiers, n ∈ p.names
  | .typedefName name :: rest, hn => by
    rw [specifierAliases, Specifier.aliases, List.mem_append] at hn
    exact (hn.imp_right (specifierAliases_cases rest)).elim
      (fun hown => .inl (List.mem_append_left _ hown))
      (fun hrest => hrest.imp_left (List.mem_append_right _))
  | .record _ tag members :: rest, hn => by
    rw [specifierAliases, Specifier.aliases, List.mem_append] at hn
    rw [specifierParts]
    rcases hn with hn | hn
    · obtain ⟨p, hp, hname⟩ := exists_part_of_mem_declarationAliases members hn
      exact .inr ⟨p, List.mem_append_left _ hp, hname⟩
    · rcases specifierAliases_cases rest hn with hown | ⟨p, hp, hname⟩
      · exact .inl (List.mem_append_right _ hown)
      · exact .inr ⟨p, List.mem_append_right _ hp, hname⟩
  | .builtin _ :: rest, hn | .sign _ :: rest, hn | .recordRef .. :: rest, hn
  | .enumeration .. :: rest, hn | .enumerationRef _ :: rest, hn | .typeOf _ :: rest, hn =>
    (specifierAliases_cases rest hn).imp_left (List.mem_append_right _)

theorem exists_part_of_mem_declarationAliases {n : String} : (ds : List Declaration) →
    n ∈ declarationAliases ds → ∃ p ∈ declarationParts ds, n ∈ p.names
  | d :: rest, hn => by
    rw [declarationAliases, List.mem_append] at hn
    rw [declarationParts]
    rcases hn with hn | hn
    · obtain ⟨p, hp, hname⟩ := d.exists_part_of_mem_aliases hn
      exact ⟨p, List.mem_append_left _ hp, hname⟩
    · obtain ⟨p, hp, hname⟩ := exists_part_of_mem_declarationAliases rest hn
      exact ⟨p, List.mem_append_right _ hp, hname⟩

end

/-- The alias in a specifier sequence or a chain is a name there or in a part. -/
theorem Node.mem_names_of_mem_aliases {node : Node} {n : String} (hn : n ∈ node.aliases) :
    n ∈ node.names := by
  cases node with
  | declaration d =>
    obtain ⟨p, hp, hname⟩ := d.exists_part_of_mem_aliases hn
    exact List.mem_flatMap.mpr ⟨p, hp, hname⟩
  | definition f =>
    have hpart : ∀ p ∈ (Node.definition f).parts, n ∈ p.names → n ∈ (Node.definition f).names :=
      fun p hp hname => List.mem_append_right _ (List.mem_flatMap.mpr ⟨p, hp, hname⟩)
    rcases List.mem_append.mp hn with hn | hn
    · rcases specifierAliases_cases f.specifiers hn with hown | ⟨p, hp, hname⟩
      · exact List.mem_append_left _ (List.mem_append_right _ hown)
      · exact hpart p (List.mem_append_right _ hp) hname
    · rw [Declarator.aliases_eq] at hn
      obtain ⟨p, hp, hname⟩ := exists_part_of_mem_chainAliases f.declarator.chain hn
      exact hpart p (List.mem_append_left _ hp) hname
  | assembly => cases hn

/-! ## Names are identifiers -/

namespace C

theorem Ident.isIdentifier_text (i : Ident) : isIdentifier i.text.toList = true := by
  rw [text, String.toList_ofList]
  exact i.isIdentifier_chars

theorem Enumerator.isIdentifier_name : (e : Enumerator) → isIdentifier e.name.toList = true
  | mk name _ => name.isIdentifier_text

theorem isIdentifier_of_mem_text? {i? : Option Ident} {n : String} (hn : n ∈ i?.map Ident.text) :
    isIdentifier n.toList = true := by
  obtain ⟨i, _, rfl⟩ := Option.map_eq_some_iff.mp hn
  exact i.isIdentifier_text

theorem BaseWord.isIdentifier_of_mem_names {word : BaseWord} {n : String}
    (hn : n ∈ word.specifier.names) : isIdentifier n.toList = true := by
  cases word with
  | typedefName name =>
    rw [List.mem_singleton.mp hn]
    exact name.isIdentifier_text
  | keyword word =>
    cases word with
    | int128 =>
      rw [List.mem_singleton.mp hn]
      decide
    | _ => cases hn

theorem TypeTree.isIdentifier_of_mem_names {file n : String} : (t : TypeTree) →
    n ∈ (t.specifiers file).flatMap Specifier.names → isIdentifier n.toList = true
  | .pointer _ t, hn | .array _ _ t, hn | .function _ t, hn | .declared _ _ t, hn =>
    t.isIdentifier_of_mem_names hn
  | .words keywords, hn => by
    rw [specifiers, List.flatMap_map, List.mem_flatMap] at hn
    obtain ⟨word, _, hn⟩ := hn
    exact word.isIdentifier_of_mem_names hn
  | .record isUnion tag members, hn => by
    rw [specifiers, List.flatMap_singleton, Specifier.names, Option.mem_toList] at hn
    exact isIdentifier_of_mem_text? hn
  | .recordRef _ tag, hn | .enumerationRef tag, hn => by
    rw [specifiers, List.flatMap_singleton, Specifier.names, Option.mem_toList] at hn
    obtain rfl := Option.some.inj hn
    exact tag.isIdentifier_text
  | .enumeration tag enumerators, hn => by
    rw [specifiers, List.flatMap_singleton, Specifier.names, List.mem_append, List.mem_map,
      Option.mem_toList] at hn
    rcases hn with hn | ⟨e, _, rfl⟩
    · exact isIdentifier_of_mem_text? hn
    · exact e.isIdentifier_name
  | .named _, hn => nomatch hn

theorem name_of_mem_declarators {name : Option Ident} {type : TypeTree} {chain : List Derivation}
    {d : Declarator} (hd : d ∈ declarators name type chain) : d.name = name.map Ident.text := by
  unfold declarators at hd
  split at hd
  · rw [List.mem_singleton.mp hd]
  · cases hd

/-- The names of what declares at most one name, of some type. -/
theorem isIdentifier_of_mem_declaration {file n : String} {name : Option Ident} {type : TypeTree}
    {chain : List Derivation}
    (hn : n ∈ (declarators name type chain).filterMap Declarator.name
      ++ (type.specifiers file).flatMap Specifier.names) : isIdentifier n.toList = true := by
  rcases List.mem_append.mp hn with hn | hn
  · obtain ⟨d, hd, hname⟩ := List.mem_filterMap.mp hn
    rw [name_of_mem_declarators hd] at hname
    exact isIdentifier_of_mem_text? hname
  · exact type.isIdentifier_of_mem_names hn

theorem Entity.isIdentifier_of_mem_names {file n : String} (e : Entity)
    (hn : n ∈ (e.declaration file).names) : isIdentifier n.toList = true := by
  cases e with
  | shown decl | parameter decl =>
    cases decl with
    | decl | typedef => exact isIdentifier_of_mem_declaration hn
  | unnamed type place => exact isIdentifier_of_mem_declaration hn
  | bare name =>
    obtain rfl := List.mem_singleton.mp hn
    exact name.isIdentifier_text

/-- Every name in what a text declares is an identifier, at any depth. -/
theorem External.isIdentifier_of_mem_names {file n : String} {externals : List External}
    {node : Node} (hnode : node ∈ externals.filterMap (External.node? file))
    (hn : n ∈ node.names) : isIdentifier n.toList = true := by
  have hpart : ∀ p ∈ node.parts, n ∈ p.names → isIdentifier n.toList = true := by
    intro p hp hname
    have hentity := List.mem_flatMap.mpr ⟨node, hnode, hp⟩
    rw [External.parts_eq, List.mem_map] at hentity
    obtain ⟨e, _, rfl⟩ := hentity
    exact e.isIdentifier_of_mem_names hname
  obtain ⟨e, _, he⟩ := List.mem_filterMap.mp hnode
  cases e with
  | declaration decl =>
    obtain rfl := Option.some.inj he
    obtain ⟨p, hp, hname⟩ := List.mem_flatMap.mp hn
    exact hpart p hp hname
  | definition decl body place =>
    obtain rfl := Option.some.inj he
    rcases List.mem_append.mp hn with hn | hn
    · rcases List.mem_append.mp hn with hn | hn
      · exact isIdentifier_of_mem_text? (Option.mem_toList.mp hn)
      · exact decl.type.isIdentifier_of_mem_names hn
    · obtain ⟨p, hp, hname⟩ := List.mem_flatMap.mp hn
      exact hpart p hp hname
  | silent => cases he

/-- A text gives a header if something can be made of its header. -/
theorem exists_read_of_map {text : List Char} {path : String} {α : Type} {f : Header → α} {a : α}
    (h : (read text path).toOption.map f = some a) :
    ∃ header, read text path = .ok header ∧ f header = a := by
  cases hread : read text path with
  | error fault =>
    rw [hread] at h
    cases h
  | ok header =>
    rw [hread] at h
    exact ⟨header, rfl, Option.some.inj h⟩

/-- Every name in a header that was read from C is an identifier. -/
theorem isIdentifier_of_mem_names {text : List Char} {path : String} {header : Header}
    (hread : read text path = .ok header) {node : Node} (hnode : node ∈ header.nodes) {n : String}
    (hn : n ∈ node.names) : isIdentifier n.toList = true := by
  obtain ⟨externals, _, hnodes⟩ := read_eq_ok hread
  rw [hnodes] at hnode
  exact External.isIdentifier_of_mem_names hnode hn

end C

end HeaderBindings
