/-
  A default that the caller chooses.  The first query registers the builtin backend as the default,
  so it takes the place of every choice made before.

  Main statement (`chosenDefault_iff`): the name last chosen is the default from then on exactly if a
  query came before the choice, or if it is the name of the builtin backend.
-/
import HeaderBindings.Proofs.Registry.Registrations

namespace HeaderBindings.Registry

/-! ## What the default gives -/

/-- Whatever is asked for without naming a backend comes from this one. -/
structure Serves (r : Registry) (name : String) (backend : Backend) : Prop where
  defaultName_eq : r.load.defaultName = .ok name
  backend_eq : r.load.backend none = .ok backend
  generate_eq : ∀ (request : Request) (p : Preprocessor),
    request.backend.filter (· ≠ "") = none →
      request.generate r p = request.generateBy r.load name backend p

theorem Serves.of_default {r : Registry} {name : String} {backend : Backend}
    (hdefault : r.load.default = some name) (hlookup : r.load.backends.lookup name = some backend) :
    r.Serves name backend := by
  have hname : r.load.defaultName = .ok name := by rw [defaultName, hdefault]
  have hnamed : r.load.named name = .ok backend := by rw [named, hlookup]
  refine ⟨hname, ?_, ?_⟩
  · rw [Registry.backend, hname]
    exact hnamed
  · intro request p hrequest
    unfold Request.generate
    simp only [Request.backendName, hrequest, hname, hnamed]

/-- What serves is known from the registrations up to one more query. -/
theorem Serves.of_registrations {steps : List Step} {name : String} {g : Registration}
    (hdefault : (registerAll {} (registrations (steps ++ [Step.defaultName]))).default = some name)
    (hlast : lastFor name (registrations (steps ++ [Step.defaultName])) = some g) :
    (afterAll {} steps).Serves name g.backend := by
  have hload : (afterAll {} steps).load = { registerAll {}
      (registrations (steps ++ [Step.defaultName])) with isLoaded := true } := by
    have hquery : (afterAll {} steps).load = afterAll {} (steps ++ [Step.defaultName]) := by
      rw [afterAll_append]
      rfl
    have hqueried : (steps ++ [Step.defaultName]).any Step.isQuery = true := by
      rw [List.any_append, List.any_cons, Step.isQuery, Bool.true_or, Bool.or_true]
    rw [hquery, afterAll_eq rfl, hqueried]
  apply Serves.of_default
  · rw [hload]
    exact hdefault
  · rw [hload]
    exact (lookup_registerAll _ name).trans (congrArg (Option.map Registration.backend) hlast)

/-! ## Choices -/

/-- The step registers a backend that is to be the default. -/
def Step.choosesDefault : Step → Bool
  | .register _ _ asDefault => asDefault
  | .names | .defaultName | .backend _ | .generate .. => false

theorem asDefault_of_mem_callerRegistrations {steps : List Step}
    (h : ∀ s ∈ steps, s.choosesDefault = false) :
    ∀ g ∈ callerRegistrations steps, g.asDefault = false := by
  intro g hg
  obtain ⟨s, hs, hregistration⟩ := List.mem_filterMap.mp hg
  have hchooses := h s hs
  rcases s.register_or_query with ⟨name, backend, asDefault, rfl⟩ | hquery
  · obtain rfl := Option.some.inj hregistration
    exact hchooses
  · rw [Step.registration?_of_isQuery hquery] at hregistration
    cases hregistration

theorem lastFor_cons_self (g : Registration) (rs : List Registration) :
    lastFor g.name (g :: rs) = some ((lastFor g.name rs).getD g) := by
  have hone : lastFor g.name [g] = some g := by simp [lastFor]
  rw [← List.singleton_append, lastFor_append, hone]
  cases lastFor g.name rs <;> rfl

theorem registrations_concat_query (steps : List Step) {q : Step} (hq : q.isQuery = true) :
    registrations (steps ++ [q]) = callerRegistrations (steps.takeWhile (!·.isQuery))
      ++ .builtin :: callerRegistrations (steps.dropWhile (!·.isQuery)) := by
  induction steps with
  | nil => exact registrations_query hq []
  | cons s rest ih =>
    rcases s.register_or_query with ⟨name, backend, asDefault, rfl⟩ | hs
    · rw [List.cons_append, registrations_register, ih]
      rfl
    · rw [List.cons_append, registrations_query hs, callerRegistrations_append,
        List.takeWhile_cons_of_neg (by simp [hs]), List.dropWhile_cons_of_neg (by simp [hs]),
        callerRegistrations_query hs, callerRegistrations_query hq]
      exact congrArg _ (List.append_nil _)

section LastChoice

variable {before later : List Step} (name : String) (chosen : Backend)
variable (hlast : ∀ s ∈ later, s.choosesDefault = false)

include hlast

/-- A choice after a query stays. -/
theorem serves_of_queried (hqueried : before.any Step.isQuery = true) :
    let steps := before ++ .register name chosen true :: later
    ∃ g, lastFor name (callerRegistrations steps) = some g ∧
      (afterAll {} steps).Serves name g.backend := by
  intro steps
  have hregistrations : registrations (steps ++ [Step.defaultName])
      = registrations before ++ ⟨name, chosen, true⟩ :: callerRegistrations later := by
    rw [List.append_assoc, List.cons_append, registrations_of_queried hqueried,
      callerRegistrations_register, callerRegistrations_append, callerRegistrations_query rfl]
    exact congrArg (fun rs => _ ++ _ :: rs) (List.append_nil _)
  have hcons := lastFor_cons_self ⟨name, chosen, true⟩ (callerRegistrations later)
  refine ⟨(lastFor name (callerRegistrations later)).getD ⟨name, chosen, true⟩, ?_,
    Serves.of_registrations ?_ ?_⟩
  · rw [callerRegistrations_append, callerRegistrations_register, lastFor_append, hcons]
    rfl
  · rw [hregistrations]
    exact default_registerAll_append (g := ⟨name, chosen, true⟩) rfl _
      (asDefault_of_mem_callerRegistrations hlast)
  · rw [hregistrations, lastFor_append, hcons]
    rfl

/-- A choice before the first query gives way to the builtin backend. -/
theorem serves_of_not_queried (hqueried : before.any Step.isQuery = false) :
    (afterAll {} (before ++ .register name chosen true :: later)).Serves Backend.builtinName
      ((lastFor Backend.builtinName
        (callerRegistrations (later.dropWhile (!·.isQuery)))).getD .builtin).backend := by
  have hregistrations : ∃ rs,
      registrations ((before ++ .register name chosen true :: later) ++ [Step.defaultName])
        = rs ++ .builtin :: callerRegistrations (later.dropWhile (!·.isQuery)) := by
    have hsplit := registrations_concat_query later (rfl : Step.defaultName.isQuery = true)
    refine ⟨callerRegistrations before ++ ⟨name, chosen, true⟩
      :: callerRegistrations (later.takeWhile (!·.isQuery)), ?_⟩
    rw [List.append_assoc, List.cons_append, registrations_of_not_queried hqueried,
      registrations_register, hsplit, List.append_assoc, List.cons_append]
  obtain ⟨rs, hrs⟩ := hregistrations
  have hlate : ∀ s ∈ later.dropWhile (!·.isQuery), s.choosesDefault = false :=
    fun s hs => hlast s ((List.dropWhile_sublist _).subset hs)
  apply Serves.of_registrations
  · rw [hrs]
    exact default_registerAll_append (g := .builtin) rfl _
      (asDefault_of_mem_callerRegistrations hlate)
  · rw [hrs, lastFor_append]
    exact congrArg (Option.or · _) (lastFor_cons_self .builtin _)

end LastChoice

theorem chosenDefault_iff (before later : List Step) (name : String) (chosen : Backend)
    (hlast : ∀ s ∈ later, s.choosesDefault = false) :
    let steps := before ++ .register name chosen true :: later
    let r := afterAll {} steps
    (before.any Step.isQuery = true →
      ∃ g, lastFor name (callerRegistrations steps) = some g ∧ r.Serves name g.backend) ∧
    (before.any Step.isQuery = false →
      r.Serves Backend.builtinName ((lastFor Backend.builtinName
        (callerRegistrations (later.dropWhile (!·.isQuery)))).getD .builtin).backend) ∧
    (r.load.defaultName = .ok name ↔
      before.any Step.isQuery = true ∨ name = Backend.builtinName) := by
  intro steps r
  refine ⟨serves_of_queried name chosen hlast, serves_of_not_queried name chosen hlast, ?_⟩
  cases hqueried : before.any Step.isQuery with
  | true =>
    obtain ⟨g, _, hserves⟩ := serves_of_queried name chosen hlast hqueried
    exact iff_of_true hserves.defaultName_eq (.inl rfl)
  | false =>
    have hserves := serves_of_not_queried name chosen hlast hqueried
    rw [hserves.defaultName_eq, Except.ok.injEq]
    exact ⟨fun h => .inr h.symm, fun h => (h.resolve_left (by decide)).symm⟩

/-- A choice between two queries, and a registration after it that chooses nothing. -/
theorem chosenDefault_iff_afterQuery :
    let second : Step := .register "second" (.fixed "second" ⟨"b.h", []⟩) false
    (∀ s ∈ [Step.names, second], s.choosesDefault = false) ∧
    [Step.names].any Step.isQuery = true ∧
    (afterAll {} [.names, .register "first" (.fixed "first" ⟨"a.h", []⟩) true, .names,
      second]).load.defaultName = .ok "first" := by
  intro second
  have hlast : ∀ s ∈ [Step.names, second], s.choosesDefault = false := by
    simp [second, Step.choosesDefault]
  have hiff := (chosenDefault_iff [.names] [.names, second] "first"
    (.fixed "first" ⟨"a.h", []⟩) hlast).2.2
  exact ⟨hlast, rfl, hiff.mpr (.inl rfl)⟩

/-- The choice is lost to the first query. -/
example :
    let r := afterAll {} [.register "first" (.fixed "first" ⟨"a.h", []⟩) true]
    r.default = some "first" ∧ r.load.default = some "pycparser" := ⟨rfl, rfl⟩

end HeaderBindings.Registry
