/-
  A second run over the typedefs of the first.  Emission is one pass, so an alias that is used before
  its typedef prints as a placeholder, and a second run that starts from the final table would
  resolve it.

  Main statement (`rerun_eq`): where each alias is recorded at most once and none is used before it
  is recorded, the second run gives the output of the first.
-/
import HeaderBindings.Proofs.Emission.Recorded

namespace HeaderBindings

/-! ## Forward references -/

/-- No step refers to an alias that is still to be recorded: each is in the table that the step
meets, or not in the table `final` of the whole run. -/
def Settled (final : TypeTable) (types : TypeTable) : List Step → Prop
  | [] => True
  | s :: rest =>
    (∀ n ∈ s.aliases, types.contains n = true ∨ final.contains n = false)
      ∧ Settled final (s.types types) rest

instance Settled.decidable (final : TypeTable) :
    (types : TypeTable) → (steps : List Step) → Decidable (Settled final types steps)
  | _, [] => .isTrue trivial
  | types, s :: rest =>
    have := Settled.decidable final (s.types types) rest
    inferInstanceAs (Decidable (_ ∧ _))

section Step

variable {types : TypeTable} {s : Step} {rest : List Step}
variable (hnew : ∀ n ∈ recordedNames types (s :: rest), types.lookup? n = none)

include hnew

/-- The final table has the same entries for the aliases of a settled step as the table that the
step meets. -/
theorem Settled.agreeOn (hs : Settled (stepTypes types (s :: rest)) types (s :: rest)) :
    TypeTable.AgreeOn s.aliases (stepTypes types (s :: rest)) types := by
  intro n hn
  by_cases hmem : n ∈ recordedNames types (s :: rest)
  · have hnone := hnew n hmem
    rcases hs.1 n hn with h | h
    · rw [TypeTable.contains, hnone] at h
      cases h
    · rw [hnone]
      exact Option.not_isSome_iff_eq_none.mp (Bool.not_eq_true _ ▸ h)
  · exact stepTypes_lookup?_of_not_mem hmem

/-- What a step records is in the final table already. -/
theorem Settled.types_final (hs : Settled (stepTypes types (s :: rest)) types (s :: rest))
    (honce : (recordedNames types (s :: rest)).Nodup) :
    s.types (stepTypes types (s :: rest)) = stepTypes types (s :: rest) := by
  have hagree := Settled.agreeOn hnew hs
  cases s with
  | introduce | call | help => rfl
  | record name specifiers chain =>
    have hsignature := chainSignature_congr hagree
    rw [Step.types, hsignature]
    by_cases hvoid : chainSignature .binding types specifiers chain = ""
    · rw [if_pos hvoid]
    · have hname :
          name ∉ recordedNames (Step.types types (.record name specifiers chain)) rest := by
        rw [recordedNames, Step.recordedName?, if_neg hvoid] at honce
        exact (List.nodup_cons.mp honce).1
      rw [if_neg hvoid]
      apply TypeTable.define_of_lookup?
      refine (stepTypes_lookup?_of_not_mem hname).trans ?_
      rw [Step.types, if_neg hvoid, TypeTable.lookup?_define, if_pos rfl]

end Step

/-! ## The second run -/

/-- Settled steps print the same from the final table, and leave it as it is. -/
theorem rerun_steps {types final : TypeTable} (steps : List Step)
    (hfinal : stepTypes types steps = final)
    (hnew : ∀ n ∈ recordedNames types steps, types.lookup? n = none)
    (honce : (recordedNames types steps).Nodup) (hsettled : Settled final types steps) :
    stepLines final steps = stepLines types steps ∧
      stepHelpers final steps = stepHelpers types steps ∧ stepTypes final steps = final := by
  induction steps generalizing types with
  | nil => exact ⟨rfl, rfl, rfl⟩
  | cons s rest ih =>
    have hfinal' : stepTypes (s.types types) rest = final := hfinal
    subst hfinal
    have hlines := s.lines_congr (hsettled.agreeOn hnew)
    have htypes := hsettled.types_final hnew honce
    rw [recordedNames, List.nodup_append] at honce
    obtain ⟨_, hrest, hdisjoint⟩ := honce
    have hnew' : ∀ n ∈ recordedNames (s.types types) rest, (s.types types).lookup? n = none := by
      intro n hn
      have hs : n ∉ (s.recordedName? types).toList := fun h => hdisjoint n h n hn rfl
      rw [Step.lookup?_types hs]
      exact hnew n (List.mem_append_right _ hn)
    obtain ⟨ihlines, ihhelpers, ihtypes⟩ := ih hfinal' hnew' hrest hsettled.2
    refine ⟨?_, ?_, ?_⟩
    · rw [stepLines, stepLines, hlines, htypes, ihlines]
    · rw [stepHelpers, stepHelpers, s.helpers_eq _ types, htypes, ihhelpers]
    · rw [stepTypes, List.foldl_cons, htypes]
      exact ihtypes

/-- On a header that records each alias at most once and uses none before it is recorded, a second
run that starts from the final table of the first gives the same lines, helper lines and table. -/
theorem rerun_eq (header : Header) (filename : String)
    (honce : (recordedNames {} (headerSteps filename header.nodes)).Nodup)
    (hsettled : Settled (header.bindings filename).types {} (headerSteps filename header.nodes)) :
    Output.emitAll filename { types := (header.bindings filename).types } header.nodes
      = header.bindings filename := by
  have hfinal : (header.bindings filename).types
      = stepTypes {} (headerSteps filename header.nodes) := by
    rw [Header.bindings_eq_performAll, Output.performAll_types]
  rw [hfinal] at hsettled ⊢
  obtain ⟨hlines, hhelpers, htypes⟩ := rerun_steps _ rfl (fun _ _ => rfl) honce hsettled
  rw [Output.emitAll_eq_performAll, Header.bindings_eq_performAll, Output.performAll_eq,
    Output.performAll_eq, hlines, hhelpers, htypes]

/-- An alias of a number, one of a record that is not recorded, a function that takes both and a
name that no typedef declares, and a record with members of all three. -/
def settledHeader : Header where
  path := "list.h"
  nodes :=
    let place : Option Location := some { file := "list.h", line := 1 }
    let pointerTo (name : String) : Declaration :=
      { specifiers := [.typedefName name], declarators := [{ chain := [.pointer] }] }
    let member (name type : String) : Declaration :=
      { specifiers := [.typedefName type]
        declarators := [{ name := some name, chain := [.pointer] }] }
    [ .declaration
        { specifiers := [.sign .unsigned, .builtin .long], isTypedef := true
          location := some { file := "size.h", line := 1 }
          declarators := [{ name := some "size" }, { name := some "sizes", chain := [.pointer] }] },
      .declaration
        { specifiers := [.record false (some "list")
            [member "rest" "list", member "length" "size", member "owner" "other"]]
          isTypedef := true, location := place, declarators := [{ name := some "list" }] },
      .declaration
        { specifiers := [.typedefName "sizes"], location := place
          declarators := [{ name := some "lengths"
                            chain := [.function [pointerTo "list", pointerTo "other"] false] }] } ]

theorem rerun_eq_settledHeader :
    (recordedNames {} (headerSteps "list.h" settledHeader.nodes)).Nodup ∧
      Settled (settledHeader.bindings "list.h").types {}
        (headerSteps "list.h" settledHeader.nodes) ∧
      Output.emitAll "list.h" { types := (settledHeader.bindings "list.h").types }
        settledHeader.nodes = settledHeader.bindings "list.h" := by
  have honce : (recordedNames {} (headerSteps "list.h" settledHeader.nodes)).Nodup := by decide
  have hsettled : Settled (settledHeader.bindings "list.h").types {}
      (headerSteps "list.h" settledHeader.nodes) := by decide
  exact ⟨honce, hsettled, rerun_eq settledHeader "list.h" honce hsettled⟩

end HeaderBindings
