/-
  Underscores in camel case.  Camel case is meant to join the words between the underscores of a
  text, each after the first with its first character in upper case.  The conversion drops one
  underscore and raises whatever follows it, and an underscore is its own upper case; so it reads a
  run of underscores in pairs and keeps one of each.

  Main statement (`camelCase_eq_joinWords_iff`): a text becomes its joined words, and loses all its
  underscores, exactly if no two of them are adjacent.  For the name of a module the stem of the
  header counts as if an underscore stood in front of it.
-/
import HeaderBindings.Proofs.Module.Names
import Mathlib.Data.List.TakeWhile

namespace HeaderBindings.Module

open Text (upperCase eq_of_mem_upperCase)

/-! ## Words -/

/-- A word with its first character in upper case. -/
def raiseWord : List Char → List Char
  | [] => []
  | c :: cs => upperCase c ++ cs

/-- The words between underscores put together, each after the first with its first character in
upper case. -/
def joinWordChars (cs : List Char) : List Char :=
  match cs.splitOn '_' with
  | [] => []
  | word :: words => word ++ words.flatMap raiseWord

def joinWords (s : String) : String := String.ofList (joinWordChars s.toList)

theorem splitOn_underscore (cs : List Char) : ('_' :: cs).splitOn '_' = [] :: cs.splitOn '_' := by
  rw [List.splitOn, List.splitOnP_cons_eq_if_modifyHead, if_pos (by decide), List.splitOn]

theorem splitOn_of_ne {c : Char} (hc : c ≠ '_') (cs : List Char) :
    (c :: cs).splitOn '_' = (cs.splitOn '_').modifyHead (c :: ·) := by
  rw [List.splitOn, List.splitOnP_cons_eq_if_modifyHead, if_neg (by simpa using hc), List.splitOn]

theorem joinWordChars_cons {c : Char} (hc : c ≠ '_') (cs : List Char) :
    joinWordChars (c :: cs) = c :: joinWordChars cs := by
  obtain ⟨word, words, hwords⟩ := List.exists_cons_of_ne_nil (List.splitOn_ne_nil '_' cs)
  rw [joinWordChars, joinWordChars, splitOn_of_ne hc, hwords]
  rfl

theorem joinWordChars_underscore_cons {c : Char} (hc : c ≠ '_') (cs : List Char) :
    joinWordChars ('_' :: c :: cs) = upperCase c ++ joinWordChars cs := by
  obtain ⟨word, words, hwords⟩ := List.exists_cons_of_ne_nil (List.splitOn_ne_nil '_' cs)
  rw [joinWordChars, joinWordChars, splitOn_underscore, splitOn_of_ne hc, hwords]
  simp [raiseWord]

theorem underscore_not_mem_raiseWord {word : List Char} (h : '_' ∉ word) :
    '_' ∉ raiseWord word := by
  cases word with
  | nil => exact h
  | cons c cs =>
    rw [List.mem_cons, not_or] at h
    rw [raiseWord, List.mem_append, not_or]
    exact ⟨fun hmem => h.1 (eq_of_mem_upperCase (by decide) hmem), h.2⟩

theorem underscore_not_mem_of_mem_splitOn (cs : List Char) :
    ∀ word ∈ cs.splitOn '_', '_' ∉ word := by
  induction cs with
  | nil => simp
  | cons c cs ih =>
    by_cases hc : c = '_'
    · subst hc
      rw [splitOn_underscore, List.forall_mem_cons]
      exact ⟨List.not_mem_nil, ih⟩
    · obtain ⟨word, words, hwords⟩ := List.exists_cons_of_ne_nil (List.splitOn_ne_nil '_' cs)
      rw [hwords, List.forall_mem_cons] at ih
      rw [splitOn_of_ne hc, hwords, List.modifyHead_cons, List.forall_mem_cons, List.mem_cons, not_or]
      exact ⟨⟨Ne.symm hc, ih.1⟩, ih.2⟩

theorem underscore_not_mem_joinWordChars (cs : List Char) : '_' ∉ joinWordChars cs := by
  have hwords := underscore_not_mem_of_mem_splitOn cs
  rw [joinWordChars]
  split
  · simp
  · rename_i word words hsplit
    rw [hsplit, List.forall_mem_cons] at hwords
    rw [List.mem_append, List.mem_flatMap, not_or]
    refine ⟨hwords.1, ?_⟩
    rintro ⟨w, hw, hmem⟩
    exact underscore_not_mem_raiseWord (hwords.2 w hw) hmem

/-! ## Adjacent underscores -/

/-- Two underscores stand next to each other. -/
def HasUnderscorePair (cs : List Char) : Prop := ['_', '_'] <:+: cs

instance (cs : List Char) : Decidable (HasUnderscorePair cs) :=
  inferInstanceAs (Decidable (_ <:+: _))

theorem hasUnderscorePair_cons {c : Char} (hc : c ≠ '_') (cs : List Char) :
    HasUnderscorePair (c :: cs) ↔ HasUnderscorePair cs := by
  rw [HasUnderscorePair, List.infix_cons_iff, List.cons_prefix_cons]
  exact or_iff_right fun h => hc h.1.symm

theorem hasUnderscorePair_underscore_cons {c : Char} (hc : c ≠ '_') (cs : List Char) :
    HasUnderscorePair ('_' :: c :: cs) ↔ HasUnderscorePair cs := by
  rw [HasUnderscorePair, List.infix_cons_iff, List.cons_prefix_cons, List.cons_prefix_cons,
    or_iff_right fun h => hc h.2.1.symm]
  exact hasUnderscorePair_cons hc cs

/-! ## Camel case -/

theorem camelCaseChars_cons {c : Char} (hc : c ≠ '_') (cs : List Char) :
    camelCaseChars (c :: cs) = c :: camelCaseChars cs := by
  rw [camelCaseChars]
  · exact fun heq _ => hc heq
  · exact fun _ _ heq _ => hc heq

/-- Of two underscores the second stays. -/
theorem camelCaseChars_pair (cs : List Char) :
    camelCaseChars ('_' :: '_' :: cs) = '_' :: camelCaseChars cs := by
  rw [camelCaseChars]
  rfl

/-- In a run of underscores every other one stays, and what follows the run is left as it is. -/
theorem camelCaseChars_run (n : Nat) (cs : List Char) :
    camelCaseChars (List.replicate (2 * n) '_' ++ cs)
      = List.replicate n '_' ++ camelCaseChars cs := by
  induction n with
  | zero => rfl
  | succ n ih =>
    have hrun : List.replicate (2 * (n + 1)) '_' = '_' :: '_' :: List.replicate (2 * n) '_' := rfl
    rw [hrun, List.cons_append, List.cons_append, camelCaseChars_pair, ih]
    rfl

/-- What no equation for an underscore applies to begins with another character. -/
theorem ne_underscore {c : Char} {cs : List Char} (hlast : c = '_' → cs = [] → False)
    (hpair : ∀ d ds, c = '_' → cs = d :: ds → False) : c ≠ '_' := by
  intro hc
  cases cs with
  | nil => exact hlast hc rfl
  | cons d ds => exact hpair d ds hc rfl

theorem underscore_mem_camelCaseChars_iff (cs : List Char) :
    '_' ∈ camelCaseChars cs ↔ HasUnderscorePair cs := by
  induction cs using camelCaseChars.induct with
  | case1 => decide
  | case2 => decide
  | case3 c cs ih =>
    by_cases hc : c = '_'
    · subst hc
      rw [camelCaseChars_pair]
      exact iff_of_true List.mem_cons_self (List.prefix_append ['_', '_'] cs).isInfix
    · have hupper : '_' ∉ upperCase c := fun h => hc (eq_of_mem_upperCase (by decide) h).symm
      rw [camelCaseChars, List.mem_append, or_iff_right hupper, ih,
        hasUnderscorePair_underscore_cons hc]
  | case4 c cs hlast hpair ih =>
    have hc := ne_underscore hlast hpair
    rw [camelCaseChars_cons hc, List.mem_cons, or_iff_right (Ne.symm hc), ih,
      hasUnderscorePair_cons hc]

theorem camelCaseChars_eq_joinWordChars {cs : List Char} (h : ¬ HasUnderscorePair cs) :
    camelCaseChars cs = joinWordChars cs := by
  induction cs using camelCaseChars.induct with
  | case1 => rfl
  | case2 => rfl
  | case3 c cs ih =>
    have hc : c ≠ '_' := by
      rintro rfl
      exact h (List.prefix_append ['_', '_'] cs).isInfix
    rw [hasUnderscorePair_underscore_cons hc] at h
    rw [camelCaseChars, ih h, joinWordChars_underscore_cons hc]
  | case4 c cs hlast hpair ih =>
    have hc := ne_underscore hlast hpair
    rw [hasUnderscorePair_cons hc] at h
    rw [camelCaseChars_cons hc, ih h, joinWordChars_cons hc]

theorem camelCaseChars_eq_joinWordChars_iff (cs : List Char) :
    camelCaseChars cs = joinWordChars cs ↔ ¬ HasUnderscorePair cs := by
  refine ⟨fun h hpair => ?_, camelCaseChars_eq_joinWordChars⟩
  refine underscore_not_mem_joinWordChars cs ?_
  rw [← h]
  exact (underscore_mem_camelCaseChars_iff cs).mpr hpair

/-- Camel case joins the words of a text, and leaves no underscore, exactly if no two underscores of
the text are adjacent; of each two in a run it keeps one.  The name of a module lacks underscores
exactly if the stem of the header neither begins with one nor has two adjacent ones. -/
theorem camelCase_eq_joinWords_iff (s path : String) :
    (camelCase s = joinWords s ↔ ¬ HasUnderscorePair s.toList) ∧
    ('_' ∈ (camelCase s).toList ↔ HasUnderscorePair s.toList) ∧
    (∀ n, camelCase (String.ofList (List.replicate (2 * n) '_') ++ s)
      = String.ofList (List.replicate n '_') ++ camelCase s) ∧
    (name path = joinWords ("_" ++ Path.stem path)
      ↔ ¬ HasUnderscorePair ('_' :: (Path.stem path).toList)) ∧
    ('_' ∈ (name path).toList ↔ HasUnderscorePair ('_' :: (Path.stem path).toList)) := by
  have hjoined : ∀ t, camelCase t = joinWords t ↔ ¬ HasUnderscorePair t.toList := fun t => by
    rw [camelCase, joinWords, String.ofList_inj, camelCaseChars_eq_joinWordChars_iff]
  have hmem : ∀ t, '_' ∈ (camelCase t).toList ↔ HasUnderscorePair t.toList := fun t => by
    rw [camelCase, String.toList_ofList, underscore_mem_camelCaseChars_iff]
  have hstem : ("_" ++ Path.stem path).toList = '_' :: (Path.stem path).toList :=
    String.toList_append
  have hname : name path = camelCase ("_" ++ Path.stem path) := by
    rw [name, capitalize, camelCase, hstem, camelCaseChars_underscore]
  refine ⟨hjoined s, hmem s, fun n => ?_, ?_, ?_⟩
  · rw [camelCase, String.toList_append, String.toList_ofList, camelCaseChars_run,
      String.ofList_append]
    rfl
  · rw [hname, hjoined, hstem]
  · rw [hname, hmem, hstem]

/-- The second of two underscores stays, and the character after them is not raised. -/
example : camelCase "a__b" = "a_b" ∧ joinWords "a__b" = "aB" := by decide

end HeaderBindings.Module
