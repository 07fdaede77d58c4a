/-
  Tables: values by key, in the order in which the keys were first put.  Putting a key again keeps
  its place and replaces its value.
-/

namespace HeaderBindings

/-- Keys with their values; `put` keeps the keys distinct. -/
abbrev Table (α β : Type) := List (α × β)

namespace Table

variable {α β : Type} [DecidableEq α]

/-- The table with `key` bound to `value`, in its old place or at the end. -/
def put (key : α) (value : β) : Table α β → Table α β
  | [] => [(key, value)]
  | (k, v) :: rest => if k = key then (key, value) :: rest else (k, v) :: put key value rest

def keys (t : Table α β) : List α := t.map Prod.fst

theorem lookup_put [BEq α] [LawfulBEq α] (key k : α) (value : β) (t : Table α β) :
    (put key value t).lookup k = if k = key then some value else t.lookup k := by
  induction t with
  | nil =>
    by_cases h : k = key
    · simp [put, h]
    · simp [put, List.lookup_cons, h, beq_eq_false_iff_ne.mpr h]
  | cons e rest ih =>
    obtain ⟨m, v⟩ := e
    by_cases hm : m = key
    · subst hm
      by_cases h : k = m
      · simp [put, h]
      · simp [put, List.lookup_cons, h, beq_eq_false_iff_ne.mpr h]
    · by_cases h : k = m
      · subst h
        simp [put, hm]
      · simp only [put, hm, if_false, List.lookup_cons, beq_eq_false_iff_ne.mpr h, ih]

/-- Putting a value where it is already changes nothing. -/
theorem put_of_lookup {key : α} {value : β} {t : Table α β} (h : t.lookup key = some value) :
    put key value t = t := by
  induction t with
  | nil => cases h
  | cons e rest ih =>
    obtain ⟨m, v⟩ := e
    by_cases hm : m = key
    · subst hm
      rw [List.lookup_cons_self, Option.some.injEq] at h
      rw [put, if_pos rfl, h]
    · rw [List.lookup_cons, beq_eq_false_iff_ne.mpr (Ne.symm hm)] at h
      rw [put, if_neg hm, ih h]

/-- A new key goes to the end. -/
theorem keys_put (key : α) (value : β) (t : Table α β) :
    keys (put key value t) = if key ∈ keys t then keys t else keys t ++ [key] := by
  induction t with
  | nil => simp [put, keys]
  | cons e rest ih =>
    obtain ⟨m, v⟩ := e
    simp only [keys] at ih
    by_cases hm : m = key
    · simp [put, keys, hm]
    · by_cases h : key ∈ rest.map Prod.fst
      · simp [put, keys, hm, ih, h]
      · simp [put, keys, hm, ih, h, Ne.symm hm]

end Table

end HeaderBindings
