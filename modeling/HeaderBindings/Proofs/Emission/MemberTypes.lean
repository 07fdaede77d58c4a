/-
  The types of members.  The line of a member shows the type of the member or, for an array, of its
  elements.  Records and enumerations are introduced on their own and have no text here, and neither
  have complex numbers and types of expressions; a member that holds one by value shows no type.

  Main statement (`introductions_memberTypes`): as long as no alias is recorded for void, these are
  the only members without a type.
-/
import HeaderBindings.Proofs.Emission.Blocks
import HeaderBindings.Proofs.Signature.Silent

namespace HeaderBindings

/-! ## Members -/

/-- The derivations that the line of a member shows: those of the element if it is an array. -/
def Declarator.elementChain (d : Declarator) : List Derivation :=
  if d.isArray then d.chain.tail else d.chain

/-- Nothing is derived in what the line shows, and the specifiers name nothing. -/
def Declaration.isTypeless (member : Declaration) : Bool :=
  member.declarators.head?.all (·.elementChain.isEmpty) && namesNothing .plain member.specifiers

/-- The named members of a record. -/
def Specifier.namedMembers : Specifier → List Declaration
  | .record _ _ members => members.filter Declaration.isNamed
  | _ => []

def Line.isMember : Line → Bool
  | field .. | arrayField .. => true
  | _ => false

/-- The line of a member, which ends behind the comma exactly if the member has no type. -/
def LaysOutTyped (member : Declaration) (line : String) : Prop :=
  ∃ d ∈ member.declarators.head?, ∃ name ∈ d.name, ∃ type,
    line = (if d.isArray then "#array_field " else "#field ") ++ name ++ " , " ++ type ∧
    (type = "" ↔ member.isTypeless = true)

/-- What is printed for a member: the element of an array, or the whole type. -/
theorem Declaration.fieldLine_eq (types : TypeTable) {member : Declaration} {d : Declarator}
    (hd : d ∈ member.declarators.head?) :
    member.fieldLine types = d.name.map fun name =>
      let type := chainSignature .binding types member.specifiers d.elementChain
      if d.isArray then .arrayField name type else .field name type := by
  obtain ⟨ds, hds⟩ := List.head?_eq_some_iff.mp hd
  rw [fieldLine, hds]
  obtain ⟨name, chain⟩ := d
  have hwhole := member.signature_cons .binding types ⟨name, chain⟩ ds hds
  cases chain with
  | nil => simp only [hwhole]; rfl
  | cons step rest =>
    cases step with
    | array length => rfl
    | pointer => simp only [hwhole]; rfl
    | function parameters isVariadic => simp only [hwhole]; rfl

theorem Declaration.isMember_of_fieldLine {types : TypeTable} {member : Declaration} {line : Line}
    (hline : member.fieldLine types = some line) : line.isMember = true := by
  unfold fieldLine at hline
  split at hline
  · cases hline
  · obtain ⟨name, -, rfl⟩ := Option.map_eq_some_iff.mp hline
    split <;> rfl

section NoVoid

variable {types : TypeTable} (h : types.NoVoid)

include h

theorem Declaration.laysOutTyped_of_fieldLine {member : Declaration} {line : Line}
    (hline : member.fieldLine types = some line) : LaysOutTyped member line.render := by
  cases hds : member.declarators with
  | nil =>
    rw [fieldLine, hds] at hline
    cases hline
  | cons d ds =>
    have hd : d ∈ member.declarators.head? := by rw [hds]; rfl
    rw [fieldLine_eq types hd] at hline
    obtain ⟨name, hname, rfl⟩ := Option.map_eq_some_iff.mp hline
    have hempty : chainSignature .binding types member.specifiers d.elementChain = ""
        ↔ member.isTypeless = true := by
      rw [isTypeless, hds]
      exact chainSignature_eq_empty_iff h member.specifiers d.elementChain
    refine ⟨d, hd, name, hname, _, ?_, hempty⟩
    cases d.isArray <;> rfl

theorem Specifier.introduction_memberTypes (fallback : String) (s : Specifier) :
    List.Forall₂ LaysOutTyped s.namedMembers
      (((s.introduction types fallback).filter Line.isMember).map Line.render) := by
  cases s with
  | builtin | sign | typedefName | typeOf => exact .nil
  | recordRef | enumerationRef => exact .nil
  | enumeration tag enumerators =>
    have hnumbers : (enumerators.map Line.number).filter Line.isMember = [] := by
      simp [List.filter_eq_nil_iff, Line.isMember]
    rw [introduction, List.filter_cons_of_neg Bool.false_ne_true, hnumbers]
    exact .nil
  | record isUnion tag members =>
    have hfields : (members.filterMap (Declaration.fieldLine types)).filter Line.isMember
        = members.filterMap (Declaration.fieldLine types) := by
      refine List.filter_eq_self.mpr fun line hline => ?_
      obtain ⟨member, -, hmember⟩ := List.mem_filterMap.mp hline
      exact Declaration.isMember_of_fieldLine hmember
    rw [introduction, List.filter_append, List.filter_cons_of_neg Bool.false_ne_true, hfields,
      List.filter_cons_of_neg Bool.false_ne_true, List.filter_nil, List.append_nil]
    refine (forall₂_filter_filterMap _ (Declaration.isSome_fieldLine types) members).imp ?_
    rintro member _ ⟨line, hline, rfl⟩
    exact member.laysOutTyped_of_fieldLine h hline

/-- Among the introductions of a specifier sequence there is one line for each named member of its
records, in order, and it shows a type unless the member is typeless. -/
theorem introductions_memberTypes (fallback : String) (specifiers : List Specifier) :
    List.Forall₂ LaysOutTyped (specifiers.flatMap Specifier.namedMembers)
      (((introductions types fallback specifiers).filter Line.isMember).map Line.render) := by
  induction specifiers with
  | nil => exact .nil
  | cons s rest ih =>
    rw [introductions] at ih
    rw [introductions, List.flatMap_cons, List.flatMap_cons, List.filter_append, List.map_append]
    exact List.rel_append (s.introduction_memberTypes h fallback) ih

end NoVoid

/-- A record that holds another one and an array. -/
theorem introductions_memberTypes_nestedRecord :
    let inner : Declaration :=
      { specifiers := [.recordRef false (some "inner")], declarators := [{ name := some "x" }] }
    let numbers : Declaration :=
      { specifiers := [.builtin .int],
        declarators := [{ name := some "y", chain := [.array (.count 2)] }] }
    let specifiers : List Specifier := [.record false (some "outer") [inner, numbers]]
    (introductions {} "" specifiers).map Line.render
      = ["#starttype outer", "#field x , ", "#array_field y , CInt", "#stoptype"] ∧
    List.Forall₂ LaysOutTyped [inner, numbers] ["#field x , ", "#array_field y , CInt"] ∧
    inner.isTypeless = true ∧ numbers.isTypeless = false := by
  intro inner numbers specifiers
  refine ⟨by decide, ?_, by decide, by decide⟩
  exact introductions_memberTypes TypeTable.noVoid_empty "" specifiers

end HeaderBindings
