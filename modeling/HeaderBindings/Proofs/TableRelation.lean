/-
  Tables with the same keys in the same order and related values.  Putting related values under a
  key keeps such tables related, and looking a key up in them gives related values.
-/
import HeaderBindings.TypeTable
import Mathlib.Data.List.Forall2

namespace HeaderBindings.Table

variable {β γ : Type} {R : β → γ → Prop}

/-- Entries with one key and related values. -/
def EntryRel (R : β → γ → Prop) (e : String × β) (f : String × γ) : Prop := e.1 = f.1 ∧ R e.2 f.2

def Rel (R : β → γ → Prop) : Table String β → Table String γ → Prop := List.Forall₂ (EntryRel R)

theorem exists_rel {t : Table String β} (h : ∀ e ∈ t, ∃ w, R e.2 w) : ∃ u, Rel R t u := by
  induction t with
  | nil => exact ⟨[], .nil⟩
  | cons e t ih =>
    obtain ⟨w, hw⟩ := h e List.mem_cons_self
    obtain ⟨u, hu⟩ := ih fun e' he' => h e' (List.mem_cons_of_mem _ he')
    exact ⟨(e.1, w) :: u, .cons ⟨rfl, hw⟩ hu⟩

theorem Rel.imp {R' : β → γ → Prop} (hR : ∀ v w, R v w → R' v w) {t : Table String β}
    {u : Table String γ} (h : Rel R t u) : Rel R' t u :=
  List.Forall₂.imp (fun _ _ he => ⟨he.1, hR _ _ he.2⟩) h

theorem Rel.put {t : Table String β} {u : Table String γ} (h : Rel R t u) (key : String) {v : β}
    {w : γ} (hv : R v w) : Rel R (put key v t) (put key w u) := by
  induction h with
  | nil => exact .cons ⟨rfl, hv⟩ .nil
  | @cons e f t u he ht ih =>
    obtain ⟨k, _⟩ := e
    obtain ⟨m, _⟩ := f
    obtain rfl : k = m := he.1
    rw [Table.put, Table.put]
    by_cases hk : k = key
    · rw [if_pos hk, if_pos hk]
      exact .cons ⟨rfl, hv⟩ ht
    · rw [if_neg hk, if_neg hk]
      exact .cons he ih

theorem Rel.lookup {t : Table String β} {u : Table String γ} (h : Rel R t u) (key : String) :
    Option.Rel R (t.lookup key) (u.lookup key) := by
  induction h with
  | nil => exact .none
  | @cons e f t u he ht ih =>
    obtain ⟨k, _⟩ := e
    obtain ⟨m, _⟩ := f
    obtain rfl : k = m := he.1
    rw [List.lookup_cons, List.lookup_cons]
    cases key == k with
    | true => exact .some he.2
    | false => exact ih

end HeaderBindings.Table
