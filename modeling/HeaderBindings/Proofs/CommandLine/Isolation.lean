/-
  One header of a run.  It sees the files, the next reply of the preprocessor and nothing else of
  what was done before: the backend that is asked for comes from a registry that holds the builtin one
  only, and each header takes one reply.

  Main statement (`bindHeader_continues`): a header is bound in the middle of a run as at the start of
  one, and what that shows is added to what was shown before.
-/
import HeaderBindings.CommandLine.Run

namespace HeaderBindings

/-! ## Calls of the preprocessor -/

namespace Preprocessor

/-- A preprocessor that was not called yet and has one reply, the next one here. -/
def renewed (p : Preprocessor) : Preprocessor :=
  { platform := p.platform, replies := p.replies.take 1 }

/-- The preprocessor after more calls. -/
def advance (p : Preprocessor) (calls : List PreprocessorCall) : Preprocessor :=
  { p with replies := p.replies.drop calls.length, calls := p.calls ++ calls }

theorem advance_nil (p : Preprocessor) : p.advance [] = p := by
  rw [advance, List.append_nil]
  rfl

theorem call_eq (p : Preprocessor) (command : List String) (input : Option String) :
    p.call command input = ((p.renewed.call command input).1,
      p.advance (p.renewed.call command input).2.calls) := by
  simp [call, renewed, advance, List.head?_take]

theorem preprocess_eq (p : Preprocessor) (options : PreprocessorOptions) (source : Source) :
    p.preprocess options source = ((p.renewed.preprocess options source).1,
      p.advance (p.renewed.preprocess options source).2.calls) := by
  simp only [preprocess, call_eq p]
  rfl

theorem length_calls_preprocess (p : Preprocessor) (options : PreprocessorOptions)
    (source : Source) : (p.renewed.preprocess options source).2.calls.length = 1 := rfl

end Preprocessor

/-! ## Generation -/

/-- The registry of a run after its first query holds the builtin backend only. -/
theorem Registry.eq_builtin_of_named {name : String} {b : Backend}
    (h : ({} : Registry).load.named name = .ok b) : b = Backend.builtin := by
  have hlookup : ({} : Registry).load.backends.lookup name = some b := by
    cases hlookup : ({} : Registry).load.backends.lookup name with
    | none => simp [named, hlookup] at h
    | some other => simpa [named, hlookup] using h
  change List.lookup name [(Backend.builtinName, Backend.builtin)] = some b at hlookup
  rw [List.lookup_cons] at hlookup
  cases hname : name == Backend.builtinName with
  | false => simp [hname] at hlookup
  | true => simpa [hname, eq_comm] using hlookup

/-- A file is read after one call of the preprocessor. -/
theorem Backend.read_builtin_file (request : ReadRequest) {path : String}
    (h : request.source = .file path) (p : Preprocessor) :
    builtin.read request p
      = ((p.preprocess request.options request.source).1.bind (readText · path),
        (p.preprocess request.options request.source).2) := by
  obtain ⟨source, options, usePreprocessor⟩ := request
  cases h
  rfl

/-- A generation in the middle of a run, by the same one at the start of a run. -/
structure Generation.Continues (p : Preprocessor) (alone later : Generation) : Prop where
  result_eq : later.result = alone.result
  notes_eq : later.notes = alone.notes
  load_registry : later.registry.load = ({} : Registry).load
  preprocessor_eq : later.preprocessor = p.advance alone.preprocessor.calls
  length_calls : ∀ out, alone.result = .ok out → alone.preprocessor.calls.length = 1

namespace Request

theorem generateBy_builtin_continues (request : Request) {path : String}
    (h : request.source = .file path) (name : String) (p : Preprocessor) :
    Generation.Continues p
      (request.generateBy ({} : Registry).load name .builtin p.renewed)
      (request.generateBy ({} : Registry).load name .builtin p) := by
  have hread := Backend.read_builtin_file request.readRequest h
  have hlater : Backend.builtin.read request.readRequest p
      = ((Backend.builtin.read request.readRequest p.renewed).1,
        p.advance (Backend.builtin.read request.readRequest p.renewed).2.calls) := by
    rw [hread, hread, Preprocessor.preprocess_eq p]
  have hlength : (Backend.builtin.read request.readRequest p.renewed).2.calls.length = 1 := by
    rw [hread, Preprocessor.length_calls_preprocess]
  rw [generateBy, generateBy, hlater]
  rcases hresult : Backend.builtin.read request.readRequest p.renewed with ⟨result, after⟩
  rw [hresult] at hlength
  cases result with
  | error failure => exact ⟨rfl, rfl, rfl, rfl, by rintro out ⟨⟩⟩
  | ok header => exact ⟨rfl, rfl, rfl, rfl, fun _ _ => hlength⟩

theorem generate_continues (request : Request) {path : String} (h : request.source = .file path)
    {r : Registry} (hr : r.load = ({} : Registry).load) (p : Preprocessor) :
    Generation.Continues p (request.generate {} p.renewed) (request.generate r p) := by
  have hnone : p = p.advance p.renewed.calls := p.advance_nil.symm
  unfold generate
  rw [hr]
  dsimp only
  cases hname : request.backendName ({} : Registry).load with
  | error failure => exact ⟨rfl, rfl, rfl, hnone, by rintro out ⟨⟩⟩
  | ok name =>
    dsimp only
    cases hbackend : ({} : Registry).load.named name with
    | error failure => exact ⟨rfl, rfl, rfl, hnone, by rintro out ⟨⟩⟩
    | ok b =>
      cases Registry.eq_builtin_of_named hbackend
      exact request.generateBy_builtin_continues h name p

end Request

/-! ## One header -/

namespace CommandLine

/-- The progress at the start of a run on these files. -/
def Progress.start (files : FileTree) (platform : String) (replies : List Reply) : Progress :=
  { files, preprocessor := { platform, replies } }

namespace Progress

/-- The start of a run on the files that are there now, with the next reply. -/
def renewed (s : Progress) : Progress :=
  { files := s.files, preprocessor := s.preprocessor.renewed }

/-- A run has come to `later` after `s`, and one that starts with `s.renewed` to `alone`. -/
structure Continues (s alone later : Progress) : Prop where
  files_eq : later.files = alone.files
  load_registry : later.registry.load = ({} : Registry).load
  preprocessor_eq : later.preprocessor = s.preprocessor.advance alone.preprocessor.calls
  output_eq : later.output = s.output ++ alone.output
  messages_eq : later.messages = s.messages ++ alone.messages

variable {s alone later : Progress}

theorem Continues.refl (h : s.registry.load = ({} : Registry).load) : s.Continues s.renewed s :=
  ⟨rfl, h, s.preprocessor.advance_nil.symm, (String.append_empty).symm, (String.append_empty).symm⟩

theorem Continues.print (h : s.Continues alone later) (text : String) :
    s.Continues (alone.print text) (later.print text) where
  files_eq := h.files_eq
  load_registry := h.load_registry
  preprocessor_eq := h.preprocessor_eq
  output_eq := by rw [Progress.print, Progress.print, h.output_eq, String.append_assoc]
  messages_eq := h.messages_eq

theorem Continues.report (h : s.Continues alone later) (text : String) :
    s.Continues (alone.report text) (later.report text) where
  files_eq := h.files_eq
  load_registry := h.load_registry
  preprocessor_eq := h.preprocessor_eq
  output_eq := h.output_eq
  messages_eq := by rw [Progress.report, Progress.report, h.messages_eq, String.append_assoc]

theorem Continues.setFiles (h : s.Continues alone later) (files : FileTree) :
    s.Continues { alone with files } { later with files } :=
  { h with files_eq := rfl }

theorem Continues.generated (h : s.Continues alone later) {g₀ g : Generation}
    (hg : Generation.Continues s.preprocessor g₀ g) :
    s.Continues { alone with registry := g₀.registry, preprocessor := g₀.preprocessor }
      { later with registry := g.registry, preprocessor := g.preprocessor } :=
  { h with load_registry := hg.load_registry, preprocessor_eq := hg.preprocessor_eq }

end Progress

namespace Job

open Progress

variable {s alone later : Progress}

theorem announce_continues (job : Job) (path : String) (h : s.Continues alone later) :
    s.Continues (job.announce path alone) (job.announce path later) := by
  unfold announce
  split
  · exact h.report _
  · exact h

/-- Files that are printed add to the output and change nothing else. -/
theorem deliver_of_stdout {job : Job} (h : job.useStdout = true) (path source : String)
    (out : Output) (s : Progress) :
    job.deliver path source out s
      = (s.print (String.join ((out.files job.modulePrefix path source).map Prod.snd)), none) := by
  simp only [deliver, Output.write, destination, h, if_true]
  rfl

/-- Files that are not printed are written one after another, and each is named. -/
theorem deliver_of_directory {job : Job} (h : job.useStdout = false) (path source : String)
    (out : Output) (s : Progress) :
    job.deliver path source out s
      = match s.files.writeAll job.outputDirectory (out.files job.modulePrefix path source) with
        | (tree, .error fault) => ({ s with files := tree }, some (.broken (.file fault)))
        | (tree, .ok names) => ({ s with files := tree }.print
            (String.join (names.map fun name => "Wrote " ++ name ++ "\n")), none) := by
  simp only [deliver, Output.write, destination, h, Bool.false_eq_true, if_false, Sinks.put, sinks]
  rcases s.files.writeAll _ _ with ⟨tree, fault | names⟩ <;> rfl

theorem deliver_continues (job : Job) (path source : String) (out : Output)
    (h : s.Continues alone later) :
    s.Continues (job.deliver path source out alone).1 (job.deliver path source out later).1 ∧
      (job.deliver path source out later).2 = (job.deliver path source out alone).2 := by
  cases hstdout : job.useStdout with
  | true =>
    rw [deliver_of_stdout hstdout, deliver_of_stdout hstdout]
    exact ⟨h.print _, rfl⟩
  | false =>
    rw [deliver_of_directory hstdout, deliver_of_directory hstdout, h.files_eq]
    split
    · exact ⟨h.setFiles _, rfl⟩
    · exact ⟨(h.setFiles _).print _, rfl⟩

@[simp] theorem announce_files (job : Job) (path : String) (s : Progress) :
    (job.announce path s).files = s.files := by
  unfold announce
  split <;> rfl

@[simp] theorem announce_registry (job : Job) (path : String) (s : Progress) :
    (job.announce path s).registry = s.registry := by
  unfold announce
  split <;> rfl

@[simp] theorem announce_preprocessor (job : Job) (path : String) (s : Progress) :
    (job.announce path s).preprocessor = s.preprocessor := by
  unfold announce
  split <;> rfl

@[simp] theorem announce_output (job : Job) (path : String) (s : Progress) :
    (job.announce path s).output = s.output := by
  unfold announce
  split <;> rfl

theorem translate_continues (job : Job) (path : String)
    (h : s.registry.load = ({} : Registry).load) :
    s.Continues (job.translate path s.renewed).1 (job.translate path s).1 ∧
      (job.translate path s).2 = (job.translate path s.renewed).2 := by
  have hstart := job.announce_continues path (Continues.refl h)
  have hgenerated := (job.request path).generate_continues rfl h s.preprocessor
  simp only [translate, announce_registry, announce_preprocessor]
  rw [hgenerated.notes_eq, hgenerated.result_eq]
  exact ⟨(hstart.generated hgenerated).report _, rfl⟩

theorem bindHeader_continues (job : Job) (path : String)
    (h : s.registry.load = ({} : Registry).load) :
    s.Continues (job.bindHeader path s.renewed).1 (job.bindHeader path s).1 ∧
      (job.bindHeader path s).2 = (job.bindHeader path s.renewed).2 := by
  obtain ⟨hcontinues, hresult⟩ := job.translate_continues path h
  unfold bindHeader
  rcases halone : job.translate path s.renewed with ⟨alone, result⟩
  rcases hlater : job.translate path s with ⟨later, result'⟩
  simp only [halone, hlater] at hcontinues hresult
  subst hresult
  cases result' with
  | error failure =>
    dsimp only
    split
    · exact ⟨hcontinues.report _, rfl⟩
    · exact ⟨hcontinues, rfl⟩
  | ok out =>
    dsimp only
    rw [hcontinues.files_eq]
    split
    · exact ⟨hcontinues, rfl⟩
    · exact job.deliver_continues path _ out hcontinues

end Job

end CommandLine

end HeaderBindings
