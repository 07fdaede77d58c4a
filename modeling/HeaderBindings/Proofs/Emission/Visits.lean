/-
  The steps of a run with the tables that they meet.  Which aliases a step finds recorded is a
  question about its own table, so what a run keeps is told visit by visit.

  Main statement (`stepLines_closed`): a closed property that holds of what is recorded, and of the
  placeholder of each alias that a step does not find, holds of every type that the run prints or
  records.
-/
import HeaderBindings.Proofs.Emission.Transcript
import HeaderBindings.Proofs.Signature.Closed

namespace HeaderBindings

/-! ## Visits -/

/-- A step and the table that it meets. -/
structure Visit where
  types : TypeTable
  step : Step

/-- The visits of a run from a table on, in order. -/
def visits (types : TypeTable) : List Step → List Visit
  | [] => []
  | s :: rest => ⟨types, s⟩ :: visits (s.types types) rest

theorem step_mem_of_mem_visits {types : TypeTable} {steps : List Step} {v : Visit}
    (hv : v ∈ visits types steps) : v.step ∈ steps := by
  induction steps generalizing types with
  | nil => cases hv
  | cons s rest ih =>
    rcases List.mem_cons.mp hv with rfl | hv
    · exact List.mem_cons_self
    · exact List.mem_cons_of_mem _ (ih hv)

theorem stepLines_eq_flatMap (types : TypeTable) (steps : List Step) :
    stepLines types steps = (visits types steps).flatMap fun v => v.step.lines v.types := by
  induction steps generalizing types with
  | nil => rfl
  | cons s rest ih => rw [stepLines, visits, List.flatMap_cons, ih]

/-- What each visit keeps holds of every table that a step meets and of the last one. -/
theorem visits_invariant {I : TypeTable → Prop} {types : TypeTable} {steps : List Step}
    (h : I types) (hstep : ∀ v ∈ visits types steps, I v.types → I (v.step.types v.types)) :
    (∀ v ∈ visits types steps, I v.types) ∧ I (stepTypes types steps) := by
  induction steps generalizing types with
  | nil => exact ⟨by simp [visits], h⟩
  | cons s rest ih =>
    have hs : I (s.types types) := hstep ⟨types, s⟩ List.mem_cons_self h
    obtain ⟨hvisits, hlast⟩ := ih hs fun v hv => hstep v (List.mem_cons_of_mem _ hv)
    exact ⟨List.forall_mem_cons.mpr ⟨h, hvisits⟩, hlast⟩

/-- The aliases that a step refers to and does not find recorded. -/
def Visit.unresolved (v : Visit) : List String :=
  v.step.aliases.filter fun n => !v.types.contains n

/-! ## Types on lines and in tables -/

/-- The types that a line prints. -/
def Line.types : Line → List String
  | field _ type | arrayField _ type => [type]
  | function _ _ arguments result => arguments ++ [result]
  | comment _ | opaqueType _ | startType _ | stopType | integral _ | number _ | verbatim _ => []

theorem Line.types_of_not_isTyped {line : Line} (h : line.isTyped = false) : line.types = [] := by
  cases line with
  | field | arrayField | function => cases h
  | comment | opaqueType | startType | stopType | integral | number | verbatim => rfl

/-- Every recorded signature has the property. -/
def TypeTable.All (P : String → Prop) (types : TypeTable) : Prop :=
  ∀ name signature, types.lookup? name = some signature → P signature

theorem TypeTable.all_empty (P : String → Prop) : TypeTable.All P {} := by
  rintro name signature ⟨⟩

theorem TypeTable.All.imp {P Q : String → Prop} {types : TypeTable} (h : types.All P)
    (hPQ : ∀ type, P type → Q type) : types.All Q :=
  fun name signature hl => hPQ signature (h name signature hl)

theorem TypeTable.All.define {P : String → Prop} {types : TypeTable} (h : types.All P)
    {name signature : String} (hs : P signature) : (types.define name signature).All P := by
  intro n s
  rw [lookup?_define]
  split
  · rintro ⟨⟩
    exact hs
  · exact h n s

/-- An alias is read as what is recorded for it, or as its placeholder. -/
theorem TypeTable.All.aliasName {P : String → Prop} {types : TypeTable} (h : types.All P)
    {n : String} (hn : types.contains n = false → P ("<" ++ n ++ ">")) :
    P (Dialect.binding.aliasName types n) := by
  change P ((types.lookup? n).getD _)
  cases hl : types.lookup? n with
  | none => exact hn (by rw [contains, hl]; rfl)
  | some s => exact h n s hl

/-! ## Closed properties -/

namespace BindingClosed

variable {P : String → Prop} (h : BindingClosed P) {types : TypeTable} {s : Step}
variable (haliases : ∀ n ∈ s.aliases, P (Dialect.binding.aliasName types n))

include h haliases

theorem lines_of_step : ∀ line ∈ s.lines types, ∀ type ∈ line.types, P type := by
  have hrel := s.typedLines_related h.related fun n hn => ⟨rfl, haliases n hn⟩
  rw [← Step.typedLines_text]
  intro line hline
  obtain ⟨typed, htyped, rfl⟩ := List.mem_map.mp hline
  cases List.forall₂_same.mp hrel typed htyped with
  | plain line hplain => rw [TypedLine.toLine, Line.types_of_not_isTyped hplain]; simp
  | field name htype | arrayField name htype => exact List.forall_mem_singleton.mpr htype.2
  | function marker name harguments hresult =>
    have hmem := (forall_mem_of_diagonal harguments).2
    exact List.forall_mem_append.mpr ⟨hmem, List.forall_mem_singleton.mpr hresult.2⟩

theorem types_of_step (htypes : types.All P) : (s.types types).All P := by
  cases s with
  | record name specifiers chain =>
    rw [Step.types]
    split
    · exact htypes
    · exact htypes.define (h.chainSignature haliases)
  | introduce | call | help => exact htypes

end BindingClosed

/-- A closed property of what is recorded, and of the placeholders of what is not, holds of every
type that a run prints or records. -/
theorem stepLines_closed {P : String → Prop} (h : BindingClosed P) {types : TypeTable}
    {steps : List Step} (htypes : types.All P)
    (hsteps : ∀ v ∈ visits types steps, ∀ n ∈ v.unresolved, P ("<" ++ n ++ ">")) :
    (∀ line ∈ stepLines types steps, ∀ type ∈ line.types, P type) ∧
      (stepTypes types steps).All P := by
  have haliases : ∀ v ∈ visits types steps, v.types.All P →
      ∀ n ∈ v.step.aliases, P (Dialect.binding.aliasName v.types n) := by
    intro v hv hall n hn
    refine hall.aliasName fun hmissing => hsteps v hv n ?_
    exact List.mem_filter.mpr ⟨hn, by rw [hmissing]; rfl⟩
  obtain ⟨hvisits, hlast⟩ := visits_invariant htypes fun v hv hall =>
    h.types_of_step (haliases v hv hall) hall
  refine ⟨?_, hlast⟩
  intro line hline
  rw [stepLines_eq_flatMap] at hline
  obtain ⟨v, hv, hline⟩ := List.mem_flatMap.mp hline
  exact h.lines_of_step (haliases v hv (hvisits v hv)) line hline

end HeaderBindings
