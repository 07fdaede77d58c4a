/-
  What a run records.  A step adds at most one entry to the typedef table, for an alias that it
  declares; which aliases are added depends on the tables that the steps meet, since a void one is
  left out.

  Main statements: a run leaves the entries of the aliases that it does not record
  (`stepTypes_lookup?_of_not_mem`), and those that it records are in the last table
  (`contains_stepTypes`).
-/
import HeaderBindings.Proofs.Emission.Relevance

namespace HeaderBindings

namespace Step

/-- The alias that a step may record. -/
def declared : Step → List String
  | record name .. => [name]
  | introduce .. | call .. | help _ => []

/-- The entry that a step adds to a table; none if its signature is void. -/
def added? (types : TypeTable) : Step → Option (String × String)
  | record name specifiers chain =>
    let signature := chainSignature .binding types specifiers chain
    if signature = "" then none else some (name, signature)
  | introduce .. | call .. | help _ => none

/-- The alias that a step records; none if its signature is void. -/
def recordedName? (types : TypeTable) : Step → Option String
  | record name specifiers chain =>
    if chainSignature .binding types specifiers chain = "" then none else some name
  | introduce .. | call .. | help _ => none

theorem types_eq (types : TypeTable) (s : Step) :
    s.types types = (s.added? types).elim types fun e => types.define e.1 e.2 := by
  cases s with
  | record name specifiers chain =>
    simp only [Step.types, added?]
    split <;> rfl
  | introduce | call | help => rfl

theorem recordedName?_eq (types : TypeTable) (s : Step) :
    s.recordedName? types = (s.added? types).map Prod.fst := by
  cases s with
  | record name specifiers chain =>
    simp only [recordedName?, added?]
    split <;> rfl
  | introduce | call | help => rfl

theorem recordedName?_mem_declared {types : TypeTable} {s : Step} {n : String}
    (h : n ∈ (s.recordedName? types).toList) : n ∈ s.declared := by
  cases s with
  | record name specifiers chain =>
    rw [recordedName?] at h
    split at h
    · cases h
    · exact h
  | introduce | call | help => cases h

theorem added?_congr {ts us : TypeTable} {s : Step} (h : TypeTable.AgreeOn s.aliases ts us) :
    s.added? ts = s.added? us := by
  cases s with
  | record name specifiers chain => simp only [added?, chainSignature_congr h]
  | introduce | call | help => rfl

theorem lookup?_types {types : TypeTable} {s : Step} {n : String}
    (h : n ∉ (s.recordedName? types).toList) : (s.types types).lookup? n = types.lookup? n := by
  rw [recordedName?_eq] at h
  rw [types_eq]
  cases he : s.added? types with
  | none => rfl
  | some e =>
    rw [he, Option.map_some, Option.toList_some, List.mem_singleton] at h
    rw [Option.elim_some, TypeTable.lookup?_define, if_neg h]

theorem contains_types {types : TypeTable} {s : Step} {n : String}
    (h : types.contains n = true ∨ n ∈ (s.recordedName? types).toList) :
    (s.types types).contains n = true := by
  rw [recordedName?_eq] at h
  rw [types_eq]
  cases he : s.added? types with
  | none =>
    rw [he] at h
    exact h.resolve_right List.not_mem_nil
  | some e =>
    rw [he, Option.map_some, Option.toList_some, List.mem_singleton] at h
    rw [Option.elim_some, TypeTable.contains, TypeTable.lookup?_define]
    split
    · rfl
    · exact h.resolve_right ‹_›

end Step

/-! ## Runs -/

/-- The aliases that steps record from a table on, in order. -/
def recordedNames (types : TypeTable) : List Step → List String
  | [] => []
  | s :: rest => (s.recordedName? types).toList ++ recordedNames (s.types types) rest

/-- Steps leave the entries of the aliases that they do not record. -/
theorem stepTypes_lookup?_of_not_mem {types : TypeTable} {steps : List Step} {n : String}
    (h : n ∉ recordedNames types steps) :
    (stepTypes types steps).lookup? n = types.lookup? n := by
  induction steps generalizing types with
  | nil => rfl
  | cons s rest ih =>
    rw [recordedNames, List.mem_append, not_or] at h
    exact (ih h.2).trans (Step.lookup?_types h.1)

/-- The aliases that steps find recorded or record are in the table after them. -/
theorem contains_stepTypes {types : TypeTable} {steps : List Step} {n : String}
    (h : types.contains n = true ∨ n ∈ recordedNames types steps) :
    (stepTypes types steps).contains n = true := by
  induction steps generalizing types with
  | nil => exact h.resolve_right List.not_mem_nil
  | cons s rest ih =>
    rw [recordedNames, List.mem_append, ← or_assoc] at h
    exact ih (h.imp_left Step.contains_types)

end HeaderBindings
