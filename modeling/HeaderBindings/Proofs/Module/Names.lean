/-
  Characters in the names of modules.  Upper case only ever makes letters, so a separator or a line
  break does not get into a name but from the path.

  Main statement (`mem_baseName_of_mem_name`): a character of ASCII that is no letter stands in the
  name of a module only if it stands in the base name of the header.
-/
import HeaderBindings.Module.Name

namespace HeaderBindings

/-! ## Upper case -/

namespace Text

/-- A character of ASCII that is no letter. -/
def IsCaseless (c : Char) : Prop := c.toNat < 0x80 ∧ c.isAlpha = false

instance (c : Char) : Decidable (IsCaseless c) := inferInstanceAs (Decidable (_ ∧ _))

theorem eq_of_toUpper_caseless {c : Char} (hc : c.toNat < 0x80) (h : c.toUpper.isAlpha = false) :
    c.toUpper = c := by
  have hall : ∀ n < 0x80, (Char.ofNat n).toUpper.isAlpha = false →
      (Char.ofNat n).toUpper = Char.ofNat n := by decide +kernel
  have hofNat := hall c.toNat hc
  rw [Char.ofNat_toNat] at hofNat
  exact hofNat h

/-- A run above ASCII stays above it or shifts a single character to a letter. -/
theorem not_isCaseless_apply {run : CaseRun} (hrun : run ∈ caseRuns) {code : Nat}
    (hcontains : run.contains code = true) (hcode : 0x80 ≤ code) :
    ¬ IsCaseless (run.apply code) := by
  -- what is shifted has to be a code point: no surrogate, and not beyond the last one
  have hall : ∀ run ∈ caseRuns, run.last < 0x80 ∨
      run.first = run.last ∧ ¬ IsCaseless (run.apply run.first) ∨
      0x80 ≤ run.first + run.shift ∧ (run.last + run.shift < 0xD800 ∨
        0xDFFF < run.first + run.shift ∧ run.last + run.shift < 0x110000) := by decide +kernel
  simp only [CaseRun.contains, Bool.and_eq_true, decide_eq_true_eq] at hcontains
  obtain ⟨⟨hfirst, hlast⟩, -⟩ := hcontains
  rcases hall run hrun with hascii | ⟨hone, hletter⟩ | ⟨habove, hcodes⟩
  · omega
  · rwa [show code = run.first by omega]
  · have hvalid : (code + run.shift).toNat.isValidChar := by
      rw [Nat.isValidChar]
      omega
    have hcode : (run.apply code).toNat = (code + run.shift).toNat := by
      rw [CaseRun.apply, Char.ofNat, dif_pos hvalid]
      rfl
    rintro ⟨hlt, -⟩
    omega

/-- Upper case makes a caseless character of nothing but itself. -/
theorem eq_of_mem_upperCase {c x : Char} (hx : IsCaseless x) (h : x ∈ upperCase c) : x = c := by
  unfold upperCase at h
  split at h
  · rename_i hcode
    obtain rfl := List.mem_singleton.mp h
    exact eq_of_toUpper_caseless hcode hx.2
  · rename_i hcode
    split at h
    · rename_i codes hlookup
      have hall : (caseExpansions.all fun e => e.2.all fun n => !decide (IsCaseless (Char.ofNat n)))
          = true := by decide +kernel
      obtain ⟨before, after, heq, _⟩ := List.lookup_eq_some_iff.mp hlookup
      have hmem : (c.toNat, codes) ∈ caseExpansions := by rw [heq]; simp
      obtain ⟨n, hn, rfl⟩ := List.mem_map.mp h
      have hcased := List.all_eq_true.mp (List.all_eq_true.mp hall _ hmem) n hn
      exact absurd hx (by simpa using hcased)
    · split at h
      · rename_i run hrun
        obtain rfl := List.mem_singleton.mp h
        have hcontains : run.contains c.toNat = true := by simpa using List.find?_some hrun
        exact absurd hx (not_isCaseless_apply (List.mem_of_find?_eq_some hrun) hcontains
          (Nat.not_lt.mp hcode))
      · exact List.mem_singleton.mp h

end Text

/-! ## Names -/

namespace Path

theorem beforeLastDot_subset (cs : List Char) : beforeLastDot cs ⊆ cs := by
  unfold beforeLastDot
  split
  · intro c hc
    have hdropped := (List.drop_subset 1 _) (List.mem_reverse.mp hc)
    exact List.mem_reverse.mp ((List.dropWhile_sublist _).subset hdropped)
  · exact fun _ hc => hc

theorem stemChars_subset (cs : List Char) : stemChars cs ⊆ cs := by
  intro c hc
  rcases List.mem_append.mp hc with hdots | hrest
  · exact (List.takeWhile_sublist _).subset hdots
  · exact (List.dropWhile_sublist _).subset (beforeLastDot_subset _ hrest)

theorem baseNameChars_subset (path : List Char) : baseNameChars path ⊆ path := fun _ hc =>
  List.mem_reverse.mp ((List.takeWhile_sublist _).subset (List.mem_reverse.mp hc))

end Path

namespace Module

open Text

variable {x : Char} (hx : IsCaseless x)

include hx

theorem mem_of_mem_camelCaseChars {cs : List Char} (h : x ∈ camelCaseChars cs) : x ∈ cs := by
  induction cs using camelCaseChars.induct with
  | case1 => exact h
  | case2 => cases h
  | case3 c cs ih =>
    rw [camelCaseChars, List.mem_append] at h
    refine List.mem_cons_of_mem _ (List.mem_cons.mpr ?_)
    exact h.imp (eq_of_mem_upperCase hx) ih
  | case4 c cs hne hne' ih =>
    rw [camelCaseChars, List.mem_cons] at h
    · exact List.mem_cons.mpr (h.imp_right ih)
    · exact hne
    · exact hne'

theorem mem_of_mem_capitalizeChars {cs : List Char} (h : x ∈ capitalizeChars cs) : x ∈ cs := by
  cases cs with
  | nil => exact h
  | cons c cs =>
    rw [capitalizeChars, List.mem_append] at h
    exact List.mem_cons.mpr (h.imp (eq_of_mem_upperCase hx) (mem_of_mem_camelCaseChars hx))

theorem mem_baseName_of_mem_name {path : String} (h : x ∈ (name path).toList) :
    x ∈ (Path.baseName path).toList := by
  rw [name, capitalize, String.toList_ofList] at h
  have hstem := mem_of_mem_capitalizeChars hx h
  rw [Path.stem, String.toList_ofList] at hstem
  rw [Path.baseName, String.toList_ofList]
  exact Path.stemChars_subset _ hstem

end Module

end HeaderBindings
