/-
  What a C text declares, at any depth.  An entity is a declaration of the text, a member of a record
  or a parameter; the types of entities hold further ones, in the parameters of their functions and
  in the members of their records.

  Main statement (`External.parts_eq`): the declarations at any depth of what an entity is read as are
  the readings of the entities in it, one for one and in order.
-/
import HeaderBindings.Proofs.Reading.Layers

namespace HeaderBindings

/-! ## Declarations in a declaration -/

mutual

/-- A declaration with those in it: the parameters of its functions, the members of its records. -/
def Declaration.parts : Declaration → List Declaration
  | ⟨specifiers, declarators, isTypedef, location, text⟩ =>
    ⟨specifiers, declarators, isTypedef, location, text⟩
      :: (declaratorParts declarators ++ specifierParts specifiers)

def declaratorParts : List Declarator → List Declaration
  | [] => []
  | ⟨_, chain⟩ :: rest => chainParts chain ++ declaratorParts rest

def chainParts : List Derivation → List Declaration
  | [] => []
  | .function parameters _ :: rest => declarationParts parameters ++ chainParts rest
  | .pointer :: rest | .array _ :: rest => chainParts rest

def specifierParts : List Specifier → List Declaration
  | [] => []
  | .record _ _ members :: rest => declarationParts members ++ specifierParts rest
  | _ :: rest => specifierParts rest

def declarationParts : List Declaration → List Declaration
  | [] => []
  | d :: rest => d.parts ++ declarationParts rest

end

/-- The declarations of a node, at any depth. -/
def Node.parts : Node → List Declaration
  | .declaration d => d.parts
  | .definition f => chainParts f.declarator.chain ++ specifierParts f.specifiers
  | .assembly .. => []

theorem Declaration.parts_eq (d : Declaration) :
    d.parts = d :: (declaratorParts d.declarators ++ specifierParts d.specifiers) := by
  obtain ⟨specifiers, declarators, isTypedef, location, text⟩ := d
  rw [parts]

namespace C

/-! ## Entities -/

/-- What declares a name, or could: a declaration that is shown by its text, as it stands at the top
level or in a record, or a parameter. -/
inductive Entity where
  | shown (decl : Decl)
  | parameter (decl : Decl)
  | unnamed (type : TypeTree) (place : Place)
  | bare (name : Ident)

namespace Entity

def name? : Entity → Option Ident
  | shown decl | parameter decl => decl.name?
  | unnamed .. => none
  | bare name => some name

/-- The type, which a bare name lacks. -/
def type? : Entity → Option TypeTree
  | shown decl | parameter decl => some decl.type
  | unnamed type _ => some type
  | bare _ => none

/-- The layers of the type from the name outward. -/
def layers (e : Entity) : List Layer := e.type?.elim [] TypeTree.layers

/-- What an entity is read as. -/
def declaration (file : String) : Entity → Declaration
  | shown decl => decl.declaration file decl.line
  | parameter decl => decl.declaration file ""
  | unnamed type place =>
    { specifiers := type.specifiers file
      declarators := declarators none type (type.chain file)
      location := some (place.location file) }
  | bare name =>
    { specifiers := [.builtin .int]
      declarators := [{ name := some name.text }] }

end Entity

/-- A parameter that declares something.  A typedef in a parameter list does not. -/
def Param.entity? : Param → Option Entity
  | .declared (.typedef ..) => none
  | .declared decl => some (.parameter decl)
  | .unnamed type place => some (.unnamed type place)
  | .bare name => some (.bare name)
  | .ellipsis => none

/-- A member that declares something. -/
def Member.entity? : Member → Option Entity
  | .field (.typedef ..) => none
  | .field decl => some (.shown decl)
  | .pragma _ => none

theorem Param.declarations_eq (file : String) (parameters : List Param) :
    Param.declarations file parameters
      = (parameters.filterMap Param.entity?).map (Entity.declaration file) := by
  induction parameters with
  | nil =>
    rw [Param.declarations]
    rfl
  | cons p rest ih =>
    cases p with
    | declared decl =>
      cases decl with
      | decl =>
        rw [Param.declarations, ih]
        · rfl
        · simp
      | typedef =>
        rw [Param.declarations, ih]
        rfl
    | unnamed | bare | ellipsis =>
      rw [Param.declarations, ih]
      rfl

theorem Member.declarations_eq (file : String) (members : List Member) :
    Member.declarations file members
      = (members.filterMap Member.entity?).map (Entity.declaration file) := by
  induction members with
  | nil =>
    rw [Member.declarations]
    rfl
  | cons m rest ih =>
    cases m with
    | field decl =>
      cases decl with
      | decl =>
        rw [Member.declarations, ih]
        · rfl
        · simp
      | typedef =>
        rw [Member.declarations, ih]
        rfl
    | pragma =>
      rw [Member.declarations, ih]
      rfl

/-! ## Entities in a type -/

mutual

/-- The entities in a type: first those of its layers, then those of its base. -/
def TypeTree.entities : TypeTree → List Entity
  | .pointer _ target => target.entities
  | .array _ _ element => element.entities
  | .function parameters result => Param.entities parameters ++ result.entities
  | .declared _ _ base => base.entities
  | .record _ _ members => Member.entities members
  | .words _ | .recordRef .. | .enumeration .. | .enumerationRef _ | .named _ => []

def Decl.innerEntities : Decl → List Entity
  | .decl _ _ _ _ type _ _ _ => type.entities
  | .typedef _ _ type _ => type.entities

/-- The entities of a parameter list, each followed by those in its type. -/
def Param.entities : List Param → List Entity
  | [] => []
  | .declared (.typedef ..) :: rest => Param.entities rest
  | .declared decl :: rest => .parameter decl :: (decl.innerEntities ++ Param.entities rest)
  | .unnamed type place :: rest => .unnamed type place :: (type.entities ++ Param.entities rest)
  | .bare name :: rest => .bare name :: Param.entities rest
  | .ellipsis :: rest => Param.entities rest

/-- The entities of a record, each followed by those in its type. -/
def Member.entities : List Member → List Entity
  | [] => []
  | .field (.typedef ..) :: rest => Member.entities rest
  | .field decl :: rest => .shown decl :: (decl.innerEntities ++ Member.entities rest)
  | .pragma _ :: rest => Member.entities rest

end

theorem declaratorParts_declarators (name : Option Ident) (type : TypeTree)
    (chain : List Derivation) :
    declaratorParts (declarators name type chain) = chainParts chain := by
  unfold declarators
  split
  · rw [declaratorParts, declaratorParts, List.append_nil]
  · rename_i h
    have hchain : chain = [] := by
      cases chain <;> simp_all
    rw [hchain, declaratorParts, chainParts]

theorem specifierParts_words (words : List BaseWord) :
    specifierParts (words.map BaseWord.specifier) = [] := by
  induction words with
  | nil => rfl
  | cons word rest ih =>
    cases word with
    | keyword word => cases word <;> exact ih
    | typedefName => exact ih

mutual

theorem TypeTree.parts_eq (file : String) : (t : TypeTree) →
    chainParts (t.chain file) ++ specifierParts (t.specifiers file)
      = t.entities.map (Entity.declaration file)
  | .pointer _ target => by
    rw [TypeTree.chain, TypeTree.specifiers, TypeTree.entities, chainParts]
    exact target.parts_eq file
  | .array _ _ element => by
    rw [TypeTree.chain, TypeTree.specifiers, TypeTree.entities, chainParts]
    exact element.parts_eq file
  | .function parameters result => by
    rw [TypeTree.chain, TypeTree.specifiers, TypeTree.entities, chainParts, List.append_assoc,
      result.parts_eq file, Param.parts_eq file parameters, List.map_append]
  | .declared _ _ base => by
    rw [TypeTree.chain, TypeTree.specifiers, TypeTree.entities]
    exact base.parts_eq file
  | .record isUnion tag members => by
    rw [TypeTree.specifiers, TypeTree.entities, specifierParts, specifierParts, List.append_nil,
      Member.parts_eq file members]
    rfl
  | .words keywords => by
    rw [TypeTree.specifiers, TypeTree.entities, specifierParts_words]
    rfl
  | .recordRef .. | .enumeration .. | .enumerationRef _ | .named _ => rfl

theorem Decl.parts_eq (file text : String) : (decl : Decl) →
    (decl.declaration file text).parts
      = decl.declaration file text :: decl.innerEntities.map (Entity.declaration file)
  | .decl name storage functionWords alignments type bits init place => by
    rw [Declaration.parts_eq, Decl.innerEntities, ← type.parts_eq file,
      ← declaratorParts_declarators name type]
    rfl
  | .typedef name storage type place => by
    rw [Declaration.parts_eq, Decl.innerEntities, ← type.parts_eq file,
      ← declaratorParts_declarators name type]
    rfl

theorem Param.parts_eq (file : String) : (parameters : List Param) →
    declarationParts (Param.declarations file parameters)
      = (Param.entities parameters).map (Entity.declaration file)
  | [] => rfl
  | .declared (.typedef ..) :: rest => by
    rw [Param.declarations, Param.entities]
    exact Param.parts_eq file rest
  | .declared (.decl name storage functionWords alignments type bits init place) :: rest => by
    rw [Param.declarations, Param.entities, declarationParts, Decl.parts_eq, Param.parts_eq file rest,
      List.map_cons, List.map_append, List.cons_append]
    · rfl
    all_goals simp
  | .unnamed type place :: rest => by
    rw [Param.declarations, Param.entities, declarationParts, Declaration.parts_eq,
      declaratorParts_declarators, type.parts_eq file, Param.parts_eq file rest, List.map_cons,
      List.map_append, List.cons_append]
    rfl
  | .bare name :: rest => by
    rw [Param.declarations, Param.entities, declarationParts, Param.parts_eq file rest]
    rfl
  | .ellipsis :: rest => by
    rw [Param.declarations, Param.entities]
    exact Param.parts_eq file rest

theorem Member.parts_eq (file : String) : (members : List Member) →
    declarationParts (Member.declarations file members)
      = (Member.entities members).map (Entity.declaration file)
  | [] => rfl
  | .field (.typedef ..) :: rest => by
    rw [Member.declarations, Member.entities]
    exact Member.parts_eq file rest
  | .field (.decl name storage functionWords alignments type bits init place) :: rest => by
    rw [Member.declarations, Member.entities, declarationParts, Decl.parts_eq,
      Member.parts_eq file rest, List.map_cons, List.map_append, List.cons_append]
    · rfl
    all_goals simp
  | .pragma _ :: rest => by
    rw [Member.declarations, Member.entities]
    exact Member.parts_eq file rest

end

/-! ## Whole texts -/

/-- The entities of what stands at the top level.  A function with a body is none itself. -/
def External.entities : External → List Entity
  | .declaration decl => .shown decl :: decl.innerEntities
  | .definition decl _ _ => decl.type.entities
  | .silent => []

theorem External.parts_eq (file : String) (externals : List External) :
    (externals.filterMap (External.node? file)).flatMap Node.parts
      = (externals.flatMap External.entities).map (Entity.declaration file) := by
  induction externals with
  | nil => rfl
  | cons e rest ih =>
    rw [List.flatMap_cons, List.map_append, ← ih]
    cases e with
    | declaration decl => exact congrArg (· ++ _) (decl.parts_eq file decl.line)
    | definition decl body place => exact congrArg (· ++ _) (decl.type.parts_eq file)
    | silent => rfl

end C

end HeaderBindings
