/-
  The life of a registry.  The builtin backend is registered by the first query, so a history comes to
  the registrations of its caller with that one in between (`registrations`), and the registry after
  it can be read off them: `afterAll_eq`.

  Main statement (`history_consistent`): after every history the names are distinct and in the order
  of their first registration, each stands for the backend last registered under it, and the default
  is one of them; a query changes nothing but the first, and fails only on a name that is not there.
-/
import HeaderBindings.History
import Mathlib.Data.List.Induction

namespace HeaderBindings.Registry

/-! ## Registrations -/

namespace Step

/-- The step asks the registry for something. -/
def isQuery : Step → Bool
  | register .. => false
  | names | defaultName | backend _ | generate .. => true

theorem register_or_query (s : Step) :
    (∃ name backend asDefault, s = register name backend asDefault) ∨ s.isQuery = true := by
  cases s with
  | register name backend asDefault => exact .inl ⟨name, backend, asDefault, rfl⟩
  | names | defaultName | backend | generate => exact .inr rfl

end Step

/-- A backend under a name, which may ask to be the default. -/
structure Registration where
  name : String
  backend : Backend
  asDefault : Bool

/-- The registration that the first query makes. -/
def Registration.builtin : Registration := ⟨Backend.builtinName, Backend.builtin, true⟩

/-- The registration that a caller makes by a step. -/
def Step.registration? : Step → Option Registration
  | .register name b asDefault => some ⟨name, b, asDefault⟩
  | .names | .defaultName | .backend _ | .generate .. => none

theorem Step.registration?_of_isQuery {s : Step} (h : s.isQuery = true) :
    s.registration? = none := by
  cases s with
  | register => cases h
  | names | defaultName | backend | generate => rfl

/-- The registrations that the caller makes in a history. -/
def callerRegistrations (steps : List Step) : List Registration :=
  steps.filterMap Step.registration?

/-- The registrations of a history: those of the caller, and that of the builtin backend where the
first query stands. -/
def registrations (steps : List Step) : List Registration :=
  let early := steps.takeWhile (!·.isQuery)
  let late := steps.dropWhile (!·.isQuery)
  callerRegistrations early ++ if late.isEmpty then [] else .builtin :: callerRegistrations late

/-- The registry with registrations made in order. -/
def registerAll (r : Registry) (rs : List Registration) : Registry :=
  rs.foldl (fun r g => r.register g.name g.backend g.asDefault) r

theorem registerAll_concat (r : Registry) (rs : List Registration) (g : Registration) :
    r.registerAll (rs ++ [g]) = (r.registerAll rs).register g.name g.backend g.asDefault :=
  List.foldl_append

theorem registerAll_setLoaded (r : Registry) (b : Bool) (rs : List Registration) :
    registerAll { r with isLoaded := b } rs = { r.registerAll rs with isLoaded := b } := by
  induction rs generalizing r with
  | nil => rfl
  | cons g rest ih => exact ih (r.register g.name g.backend g.asDefault)

/-! ## Loading -/

theorem load_of_isLoaded {r : Registry} (h : r.isLoaded = true) : r.load = r := by
  rw [load, if_pos h]

theorem load_of_not_isLoaded {r : Registry} (h : r.isLoaded = false) :
    r.load = { r.registerAll [.builtin] with isLoaded := true } := by
  rw [load, if_neg (by simp [h])]
  rfl

@[simp] theorem isLoaded_load (r : Registry) : r.load.isLoaded = true := by
  cases h : r.isLoaded with
  | false => rw [load_of_not_isLoaded h]
  | true => rw [load_of_isLoaded h, h]

@[simp] theorem load_load (r : Registry) : r.load.load = r.load :=
  load_of_isLoaded r.isLoaded_load

end Registry

namespace Request

theorem generateBy_registry (request : Request) (r : Registry) (name : String) (backend : Backend)
    (p : Preprocessor) : (request.generateBy r name backend p).registry = r := by
  unfold generateBy
  split <;> rfl

/-- A generation loads the registry, whatever comes of it. -/
theorem generate_registry (request : Request) (r : Registry) (p : Preprocessor) :
    (request.generate r p).registry = r.load := by
  unfold generate
  simp only
  split
  · rfl
  · split
    · rfl
    · exact generateBy_registry ..

end Request

namespace Registry

theorem after_query (r : Registry) {s : Step} (h : s.isQuery = true) : r.after s = r.load := by
  cases s with
  | register => cases h
  | names | defaultName | backend => rfl
  | generate request p => exact request.generate_registry r p

/-! ## Histories -/

@[simp] theorem afterAll_cons (r : Registry) (s : Step) (rest : List Step) :
    r.afterAll (s :: rest) = (r.after s).afterAll rest := rfl

theorem afterAll_append (r : Registry) (steps steps' : List Step) :
    r.afterAll (steps ++ steps') = (r.afterAll steps).afterAll steps' :=
  List.foldl_append

theorem callerRegistrations_register (name : String) (backend : Backend) (asDefault : Bool)
    (rest : List Step) :
    callerRegistrations (.register name backend asDefault :: rest)
      = ⟨name, backend, asDefault⟩ :: callerRegistrations rest := rfl

theorem callerRegistrations_query {q : Step} (h : q.isQuery = true) (rest : List Step) :
    callerRegistrations (q :: rest) = callerRegistrations rest :=
  List.filterMap_cons_none (Step.registration?_of_isQuery h)

theorem callerRegistrations_append (steps steps' : List Step) :
    callerRegistrations (steps ++ steps') = callerRegistrations steps ++ callerRegistrations steps' :=
  List.filterMap_append

/-- Once it is loaded, only the caller's registrations change a registry. -/
theorem afterAll_of_isLoaded {r : Registry} (h : r.isLoaded = true) (steps : List Step) :
    r.afterAll steps = r.registerAll (callerRegistrations steps) := by
  induction steps generalizing r with
  | nil => rfl
  | cons s rest ih =>
    rcases s.register_or_query with ⟨name, backend, asDefault, rfl⟩ | hq
    · exact ih (r := r.register name backend asDefault) h
    · rw [afterAll_cons, after_query r hq, load_of_isLoaded h, callerRegistrations_query hq]
      exact ih h

theorem registrations_register (name : String) (backend : Backend) (asDefault : Bool)
    (rest : List Step) :
    registrations (.register name backend asDefault :: rest)
      = ⟨name, backend, asDefault⟩ :: registrations rest := by
  simp [registrations, Step.isQuery, callerRegistrations_register]

theorem registrations_query {q : Step} (h : q.isQuery = true) (rest : List Step) :
    registrations (q :: rest) = .builtin :: callerRegistrations rest := by
  have hnil : callerRegistrations [] = [] := rfl
  simp [registrations, h, hnil, callerRegistrations_query h]

/-- After a query there are only the caller's registrations. -/
theorem registrations_of_queried {before : List Step} (h : before.any Step.isQuery = true)
    (later : List Step) :
    registrations (before ++ later) = registrations before ++ callerRegistrations later := by
  induction before with
  | nil => cases h
  | cons s rest ih =>
    rcases s.register_or_query with ⟨name, backend, asDefault, rfl⟩ | hs
    · rw [List.cons_append, registrations_register, registrations_register, ih h, List.cons_append]
    · rw [List.cons_append, registrations_query hs, registrations_query hs,
        callerRegistrations_append, List.cons_append]

/-- Before the first query there are only the caller's registrations. -/
theorem registrations_of_not_queried {before : List Step} (h : before.any Step.isQuery = false)
    (later : List Step) :
    registrations (before ++ later) = callerRegistrations before ++ registrations later := by
  induction before with
  | nil => rfl
  | cons s rest ih =>
    rw [List.any_cons, Bool.or_eq_false_iff] at h
    rcases s.register_or_query with ⟨name, backend, asDefault, rfl⟩ | hs
    · rw [List.cons_append, registrations_register, ih h.2, callerRegistrations_register,
        List.cons_append]
    · rw [hs] at h
      cases h.1

/-- A registry that is not loaded after a history: the registrations of the history are made, and it
is loaded if there was a query. -/
theorem afterAll_eq {r : Registry} (h : r.isLoaded = false) (steps : List Step) :
    r.afterAll steps
      = { r.registerAll (registrations steps) with isLoaded := steps.any Step.isQuery } := by
  induction steps generalizing r with
  | nil =>
    obtain ⟨backends, default, isLoaded⟩ := r
    cases h
    rfl
  | cons s rest ih =>
    rcases s.register_or_query with ⟨name, backend, asDefault, rfl⟩ | hq
    · rw [registrations_register]
      exact ih (r := r.register name backend asDefault) h
    · rw [afterAll_cons, after_query r hq, afterAll_of_isLoaded r.isLoaded_load,
        load_of_not_isLoaded h, registerAll_setLoaded, registrations_query hq, List.any_cons, hq,
        Bool.true_or]
      rfl

/-! ## The state that registrations make -/

theorem names_registerAll (rs : List Registration) :
    (registerAll {} rs).names = (rs.map (·.name)).eraseDups := by
  induction rs using List.reverseRec with
  | nil => rfl
  | append_singleton rs g ih =>
    have hput : (registerAll {} (rs ++ [g])).names
        = if g.name ∈ (registerAll {} rs).names then (registerAll {} rs).names
          else (registerAll {} rs).names ++ [g.name] := by
      rw [registerAll_concat]
      exact Table.keys_put ..
    rw [hput, ih, List.map_append, List.eraseDups_append]
    have hnew : ([g].map (·.name)).removeAll (rs.map (·.name))
        = if g.name ∈ rs.map (·.name) then [] else [g.name] := by
      rw [List.removeAll, List.map_singleton, List.filter_cons, List.filter_nil, List.elem_eq_mem]
      by_cases hmem : g.name ∈ rs.map (·.name) <;> simp only [hmem, decide_true, decide_false,
        Bool.not_true, Bool.not_false, if_true, if_false, Bool.false_eq_true]
    rw [hnew]
    by_cases hmem : g.name ∈ rs.map (·.name)
    · rw [if_pos (List.mem_eraseDups.mpr hmem), if_pos hmem]
      exact (List.append_nil _).symm
    · rw [if_neg (mt List.mem_eraseDups.mp hmem), if_neg hmem]
      rfl

/-- The registration last made under a name. -/
def lastFor (name : String) (rs : List Registration) : Option Registration :=
  (rs.filter (·.name = name)).getLast?

theorem lastFor_append (name : String) (rs rs' : List Registration) :
    lastFor name (rs ++ rs') = (lastFor name rs').or (lastFor name rs) := by
  rw [lastFor, List.filter_append, List.getLast?_append]
  rfl

theorem lookup_registerAll (rs : List Registration) (name : String) :
    (registerAll {} rs).backends.lookup name = (lastFor name rs).map (·.backend) := by
  induction rs using List.reverseRec with
  | nil => rfl
  | append_singleton rs g ih =>
    have hput : (registerAll {} (rs ++ [g])).backends.lookup name
        = if name = g.name then some g.backend else (registerAll {} rs).backends.lookup name := by
      rw [registerAll_concat]
      exact Table.lookup_put ..
    rw [hput, lastFor_append, ih]
    by_cases hname : name = g.name
    · simp [lastFor, hname]
    · simp [lastFor, hname, Ne.symm hname]

/-- The default is the last name that asked for it, or else the first name of all. -/
theorem default_registerAll (rs : List Registration) :
    (registerAll {} rs).default
      = ((rs.filter (·.asDefault)).getLast?.or rs.head?).map (·.name) := by
  induction rs using List.reverseRec with
  | nil => rfl
  | append_singleton rs g ih =>
    have hput : (registerAll {} (rs ++ [g])).default
        = if g.asDefault || (registerAll {} rs).default.isNone then some g.name
          else (registerAll {} rs).default := by
      rw [registerAll_concat]
      rfl
    rw [hput, ih, List.filter_append, List.getLast?_append]
    cases hdefault : g.asDefault with
    | true => simp [hdefault]
    | false => cases rs <;> simp [hdefault]

/-- The last registration that asks to be the default gets it. -/
theorem default_registerAll_append {g : Registration} (hg : g.asDefault = true)
    (rs : List Registration) {rs' : List Registration} (h : ∀ g' ∈ rs', g'.asDefault = false) :
    (registerAll {} (rs ++ g :: rs')).default = some g.name := by
  have hnone : rs'.filter (·.asDefault) = [] :=
    List.filter_eq_nil_iff.mpr fun g' hg' => by simp [h g' hg']
  rw [default_registerAll, List.filter_append, List.filter_cons_of_pos hg, hnone,
    List.getLast?_concat]
  rfl

/-! ## What a step preserves -/

/-- The names are distinct, the default is one of them, and a loaded registry has the builtin
backend. -/
structure IsConsistent (r : Registry) : Prop where
  nodup : r.names.Nodup
  default_eq_none_iff : r.default = none ↔ r.names = []
  default_mem : ∀ name ∈ r.default, name ∈ r.names
  builtin_mem : r.isLoaded = true → Backend.builtinName ∈ r.names

theorem names_register (r : Registry) (name : String) (backend : Backend) (asDefault : Bool) :
    (r.register name backend asDefault).names
      = if name ∈ r.names then r.names else r.names ++ [name] :=
  Table.keys_put ..

theorem mem_names_register (r : Registry) (name : String) (backend : Backend) (asDefault : Bool)
    (n : String) :
    n ∈ (r.register name backend asDefault).names ↔ n = name ∨ n ∈ r.names := by
  rw [names_register]
  by_cases h : name ∈ r.names
  · rw [if_pos h]
    exact ⟨.inr, fun hn => hn.elim (fun e => e ▸ h) id⟩
  · rw [if_neg h, List.mem_append, List.mem_singleton, or_comm]

theorem IsConsistent.empty : ({} : Registry).IsConsistent :=
  ⟨List.nodup_nil, by decide, by simp, by simp⟩

theorem IsConsistent.register {r : Registry} (h : r.IsConsistent) (name : String)
    (backend : Backend) (asDefault : Bool) : (r.register name backend asDefault).IsConsistent where
  nodup := by
    rw [names_register]
    by_cases hname : name ∈ r.names
    · rw [if_pos hname]
      exact h.nodup
    · rw [if_neg hname]
      refine List.nodup_append.mpr ⟨h.nodup, List.pairwise_singleton .., ?_⟩
      rintro n hn m hm rfl
      exact hname (List.mem_singleton.mp hm ▸ hn)
  default_eq_none_iff := by
    have hname := (r.mem_names_register name backend asDefault name).mpr (.inl rfl)
    have hdefault : (r.register name backend asDefault).default ≠ none := by
      cases hd : r.default <;> cases asDefault <;> simp [Registry.register, hd]
    exact iff_of_false hdefault (List.ne_nil_of_mem hname)
  default_mem := by
    intro n hn
    rw [mem_names_register]
    change n ∈ (if asDefault || r.default.isNone then some name else r.default) at hn
    split at hn
    · exact .inl (Option.some.inj hn).symm
    · exact .inr (h.default_mem n hn)
  builtin_mem := by
    intro hloaded
    exact (r.mem_names_register ..).mpr (.inr (h.builtin_mem hloaded))

theorem IsConsistent.load {r : Registry} (h : r.IsConsistent) : r.load.IsConsistent := by
  cases hloaded : r.isLoaded with
  | true => rw [load_of_isLoaded hloaded]; exact h
  | false =>
    have hr := h.register Backend.builtinName Backend.builtin true
    rw [load_of_not_isLoaded hloaded]
    exact ⟨hr.nodup, hr.default_eq_none_iff, hr.default_mem,
      fun _ => (r.mem_names_register _ Backend.builtin true _).mpr (.inl rfl)⟩

theorem IsConsistent.after {r : Registry} (h : r.IsConsistent) (s : Step) :
    (r.after s).IsConsistent := by
  rcases s.register_or_query with ⟨name, backend, asDefault, rfl⟩ | hq
  · exact h.register name backend asDefault
  · rw [after_query r hq]
    exact h.load

theorem IsConsistent.afterAll {r : Registry} (h : r.IsConsistent) (steps : List Step) :
    (r.afterAll steps).IsConsistent := by
  induction steps generalizing r with
  | nil => exact h
  | cons s rest ih => exact ih (h.after s)

/-! ## Queries -/

/-- Why a step fails, if it does.  A query is answered by the registry that it leaves behind. -/
def failure? (r : Registry) (s : Step) : Option Failure :=
  match s with
  | .register .. | .names => none
  | .defaultName => failureOf (r.after s).defaultName
  | .backend name => failureOf ((r.after s).backend name)
  | .generate request p => failureOf (request.generate r p).result
where
  failureOf {α : Type} : Except Failure α → Option Failure
    | .ok _ => none
    | .error failure => some failure

theorem mem_keys_iff_lookup {α β : Type} [DecidableEq α] {t : Table α β} {key : α} :
    key ∈ Table.keys t ↔ (t.lookup key).isSome = true := by
  induction t with
  | nil => simp [Table.keys]
  | cons e rest ih =>
    obtain ⟨k, v⟩ := e
    by_cases h : key = k
    · simp [Table.keys, h]
    · rw [List.lookup_cons, beq_eq_false_iff_ne.mpr h, ← ih]
      simp [Table.keys, h]

/-- A name has no backend exactly if it is not registered. -/
theorem named_eq_error_iff (r : Registry) (name : String) (failure : Failure) :
    r.named name = .error failure ↔ failure = .unknownBackend name r.names ∧ name ∉ r.names := by
  rw [named, names, mem_keys_iff_lookup]
  cases r.backends.lookup name with
  | none => simp [eq_comm]
  | some backend => simp

theorem exists_named_of_mem {r : Registry} {name : String} (h : name ∈ r.names) :
    ∃ backend, r.named name = .ok backend := by
  cases hnamed : r.named name with
  | ok backend => exact ⟨backend, rfl⟩
  | error failure => exact absurd h ((r.named_eq_error_iff name failure).mp hnamed).2

theorem IsConsistent.exists_defaultName {r : Registry} (h : r.IsConsistent)
    (hloaded : r.isLoaded = true) : ∃ name ∈ r.names, r.defaultName = .ok name := by
  cases hdefault : r.default with
  | none =>
    have hmem := h.builtin_mem hloaded
    rw [h.default_eq_none_iff.mp hdefault] at hmem
    cases hmem
  | some name => exact ⟨name, h.default_mem name hdefault, by rw [defaultName, hdefault]⟩

theorem IsConsistent.failure?_defaultName {r : Registry} (h : r.IsConsistent) :
    r.failure? .defaultName = none := by
  obtain ⟨name, _, hname⟩ := h.load.exists_defaultName r.isLoaded_load
  change failure?.failureOf r.load.defaultName = none
  rw [hname]
  rfl

theorem IsConsistent.failure?_backend_none {r : Registry} (h : r.IsConsistent) :
    r.failure? (.backend none) = none := by
  obtain ⟨name, hmem, hname⟩ := h.load.exists_defaultName r.isLoaded_load
  obtain ⟨backend, hbackend⟩ := exists_named_of_mem hmem
  have hanswer : r.load.backend none = .ok backend := by
    rw [Registry.backend, hname]
    exact hbackend
  change failure?.failureOf (r.load.backend none) = none
  rw [hanswer]
  rfl

theorem failure?_backend_some (r : Registry) (name : String) (failure : Failure) :
    r.failure? (.backend (some name)) = some failure
      ↔ failure = .unknownBackend name r.load.names ∧ name ∉ r.load.names := by
  change failure?.failureOf (r.load.named name) = some failure ↔ _
  rw [← named_eq_error_iff]
  cases r.load.named name <;> simp [failure?.failureOf]

/-! ## Whole histories -/

/-- How often the builtin backend is registered by a query. -/
def loads (r : Registry) : List Step → Nat
  | [] => 0
  | s :: rest => (if s.isQuery && !r.isLoaded then 1 else 0) + (r.after s).loads rest

theorem loads_of_isLoaded {r : Registry} (h : r.isLoaded = true) (steps : List Step) :
    r.loads steps = 0 := by
  induction steps generalizing r with
  | nil => rfl
  | cons s rest ih =>
    have hnext : (r.after s).isLoaded = true := by
      rcases s.register_or_query with ⟨name, backend, asDefault, rfl⟩ | hq
      · exact h
      · rw [after_query r hq, isLoaded_load]
    rw [loads, h, Bool.not_true, Bool.and_false, ih hnext]
    rfl

theorem loads_eq {r : Registry} (h : r.isLoaded = false) (steps : List Step) :
    r.loads steps = if steps.any Step.isQuery then 1 else 0 := by
  induction steps generalizing r with
  | nil => rfl
  | cons s rest ih =>
    rcases s.register_or_query with ⟨name, backend, asDefault, rfl⟩ | hq
    · rw [loads, after, ih (r := r.register name backend asDefault) h]
      exact Nat.zero_add _
    · rw [loads, after_query r hq, loads_of_isLoaded r.isLoaded_load, List.any_cons, hq, h]
      rfl

theorem history_consistent (steps : List Step) :
    let r := afterAll {} steps
    r.IsConsistent ∧
    r.names = ((registrations steps).map (·.name)).eraseDups ∧
    (∀ name, r.backends.lookup name = (lastFor name (registrations steps)).map (·.backend)) ∧
    (∀ name backend asDefault, name ∈ r.names →
      (r.register name backend asDefault).names = r.names ∧
      (r.register name backend asDefault).backends.lookup name = some backend) ∧
    (∀ q : Step, q.isQuery = true →
      Backend.builtinName ∈ (r.after q).names ∧
      ∀ q' : Step, q'.isQuery = true → (r.after q).after q' = r.after q) ∧
    (steps.any Step.isQuery = true → r.load = r) ∧
    r.failure? .defaultName = none ∧
    r.failure? (.backend none) = none ∧
    (∀ name, (r.failure? (.backend (some name))).isSome = true ↔ name ∉ r.load.names) ∧
    (∀ name, r.after (.backend name) = r.load) ∧
    loads {} steps = (if steps.any Step.isQuery then 1 else 0) ∧
    ∀ before q later, steps = before ++ q :: later → q.isQuery = true →
      ∀ name, ∀ g ∈ lastFor name (callerRegistrations later),
        r.backends.lookup name = some g.backend := by
  intro r
  have heq : r = { registerAll {} (registrations steps) with
      isLoaded := steps.any Step.isQuery } := afterAll_eq rfl steps
  have hr : r.IsConsistent := IsConsistent.empty.afterAll steps
  have hlookup : ∀ name,
      r.backends.lookup name = (lastFor name (registrations steps)).map (·.backend) := by
    intro name
    rw [heq]
    exact lookup_registerAll _ name
  refine ⟨hr, ?_, hlookup, ?_, ?_, ?_, hr.failure?_defaultName, hr.failure?_backend_none, ?_,
    fun _ => rfl, loads_eq rfl steps, ?_⟩
  · rw [heq]
    exact names_registerAll _
  · intro name backend asDefault hname
    refine ⟨?_, ?_⟩
    · rw [names_register, if_pos hname]
    · exact (Table.lookup_put ..).trans (if_pos rfl)
  · intro q hq
    rw [after_query r hq]
    refine ⟨hr.load.builtin_mem r.isLoaded_load, fun q' hq' => ?_⟩
    rw [after_query _ hq', load_load]
  · intro hqueried
    apply load_of_isLoaded
    rw [heq]
    exact hqueried
  · intro name
    rw [Option.isSome_iff_exists]
    simp only [failure?_backend_some, exists_eq_left]
  · rintro before q later rfl hq name g hg
    have hqueried : (before ++ [q]).any Step.isQuery = true := by simp [hq]
    rw [hlookup, List.append_cons, registrations_of_queried hqueried, lastFor_append, hg]
    rfl

end HeaderBindings.Registry
