/-
  A run on several headers is the runs on each of them alone, one after another on the files that the
  run before left, up to the first that fails.

  Main statement (`run_eq_runEach`): both have the same files, output, messages, calls of the
  preprocessor and ending; and when a header cannot be translated, what is there is what those before
  it come to.

  How words are read as arguments enters in one place (`Arguments.read_words`): arguments can be
  spelled in words again, so that the run on one header can be asked for.  What a header contains, and
  what its C text means, is not looked at.
-/
import HeaderBindings.Proofs.CommandLine.Outputs

namespace HeaderBindings.CommandLine

/-! ## Words for arguments -/

def Flag.word : Flag → String
  | .version => "--version"
  | .stdout => "--stdout"
  | .listBackends => "--list-backends"
  | .verbose => "--verbose"
  | .debug => "--debug"
  | .noDebug => "--no-debug"
  | .help => "--help"

def Setting.word : Setting → String
  | .modulePrefix => "--prefix"
  | .compiler => "--gcc"
  | .preprocessorWords => "--cppopts"
  | .includeDirectory => "--include-dir"
  | .definition => "--define"
  | .outputDirectory => "--output-dir"
  | .backend => "--backend"

def Given.words : Given → List String
  | .flag f => [f.word]
  | .setting s value => [s.word, value]

namespace Arguments

/-- Words for arguments: the options, and the files after a double dash. -/
def words (a : Arguments) : List String := a.given.flatMap Given.words ++ "--" :: a.files

theorem readFrom_flag (a : Arguments) (f : Flag) (rest : List String) :
    readFrom a none (f.word :: rest) = readFrom (a.addFlag f) none rest := by
  cases f <;> rfl

theorem readFrom_setting (a : Arguments) (s : Setting) (value : String) (rest : List String) :
    readFrom a none (s.word :: value :: rest) = readFrom (a.addSetting s value) none rest := by
  cases s <;> rfl

theorem readFrom_words (a : Arguments) (given : List Given) (files : List String) :
    readFrom a none (given.flatMap Given.words ++ "--" :: files)
      = .ok { given := a.given ++ given, files := a.files ++ files } := by
  induction given generalizing a with
  | nil =>
    rw [List.append_nil]
    rfl
  | cons g rest ih =>
    cases g with
    | flag f =>
      refine (readFrom_flag a f _).trans ((ih _).trans ?_)
      rw [addFlag, List.append_assoc]
      rfl
    | setting s value =>
      refine (readFrom_setting a s value _).trans ((ih _).trans ?_)
      rw [addSetting, List.append_assoc]
      rfl

theorem read_words (a : Arguments) : read a.words = .ok a :=
  readFrom_words {} a.given a.files

end Arguments

/-! ## Runs as they are seen from outside -/

/-- What a run leaves behind and shows. -/
structure Trace where
  files : FileTree
  output : String := ""
  messages : String := ""
  calls : List PreprocessorCall := []
  ending : Ending := .exit 0
  deriving DecidableEq

namespace Trace

def of (run : Progress × Ending) : Trace where
  files := run.1.files
  output := run.1.output
  messages := run.1.messages
  calls := run.1.preprocessor.calls
  ending := run.2

/-- A run and another one after it. -/
def andThen (first second : Trace) : Trace where
  files := second.files
  output := first.output ++ second.output
  messages := first.messages ++ second.messages
  calls := first.calls ++ second.calls
  ending := second.ending

theorem andThen_assoc (t u v : Trace) : (t.andThen u).andThen v = t.andThen (u.andThen v) := by
  simp only [andThen, String.append_assoc, List.append_assoc]

theorem start_andThen (files : FileTree) (platform : String) (replies : List Reply) (t : Trace) :
    (of (.start files platform replies, .exit 0)).andThen t = t := by
  simp only [andThen, of, Progress.start, String.empty_append, List.nil_append]

/-- The run delivered these files of headers, left `tree` and ended so. -/
structure Delivers (result : Trace) (job : Job) (products : List (List (String × String)))
    (tree : FileTree) (ending : Ending) : Prop where
  files_eq : result.files = tree
  output_eq : result.output = job.shown products.flatten
  ending_eq : result.ending = ending

end Trace

theorem Progress.Continues.trace {s alone later : Progress} (h : s.Continues alone later)
    (ending : Ending) :
    Trace.of (later, ending) = (Trace.of (s, .exit 0)).andThen (Trace.of (alone, ending)) := by
  simp only [Trace.of, Trace.andThen, h.files_eq, h.output_eq, h.messages_eq, h.preprocessor_eq,
    Preprocessor.advance]

/-- The runs on each of these headers alone, up to the first that does not succeed.  Each is given the
next reply and the files that the one before left. -/
def runEach (env : Environment) (a : Arguments) (platform : String) :
    List String → List Reply → FileTree → Trace
  | [], _, files => { files }
  | path :: rest, replies, files =>
    let single := run env { a with files := [path] }.words
      (.start files platform (replies.take 1))
    if single.2 = .exit 0 then
      (Trace.of single).andThen (runEach env a platform rest replies.tail single.1.files)
    else Trace.of single

/-! ## Runs on checked arguments -/

/-- The arguments ask for the bindings of their files, and nothing but their paths is wrong. -/
structure Arguments.AskForBindings (env : Environment) (a : Arguments) (compiler : String)
    (keywords : List String) : Prop where
  help_eq : a.has .help = false
  version_eq : a.has .version = false
  listBackends_eq : a.has .listBackends = false
  modulePrefix_ne : a.modulePrefix ≠ ""
  locate_eq : env.locate a.compiler = some compiler
  preprocessorWords_eq : a.preprocessorWords = .ok keywords

section Runs

variable {env : Environment} {a : Arguments} {compiler : String} {keywords : List String}
variable {s : Progress}

/-- Such arguments lead to their headers, however they were given. -/
theorem runArguments_eq_bindHeaders (h : a.AskForBindings env compiler keywords)
    (hfiles : a.files ≠ []) (hpaths : pathFault? a s.files = none) :
    runArguments env a s = (a.job compiler keywords).bindHeaders a.files s := by
  rw [runArguments, h.help_eq, hpaths, h.version_eq, h.listBackends_eq]
  dsimp only
  rw [if_neg Bool.false_ne_true, if_neg Bool.false_ne_true, if_neg Bool.false_ne_true,
    if_neg (by simpa using hfiles), bindAll]
  dsimp only
  rw [if_neg h.modulePrefix_ne, h.locate_eq, h.preprocessorWords_eq]

/-- A run on words is a run on the arguments that are read from them. -/
theorem run_of_read {words : List String} (hread : Arguments.read words = .ok a)
    (hwords : words ≠ []) : run env words s = runArguments env a s := by
  rw [run, if_neg (by simpa using hwords), hread]

theorem run_eq_bindHeaders (h : a.AskForBindings env compiler keywords) {words : List String}
    (hread : Arguments.read words = .ok a) (hfiles : a.files ≠ [])
    (hpaths : pathFault? a s.files = none) :
    run env words s = (a.job compiler keywords).bindHeaders a.files s := by
  have hwords : words ≠ [] := by
    rintro rfl
    cases hread
    exact hfiles rfl
  rw [run_of_read hread hwords, runArguments_eq_bindHeaders h hfiles hpaths]

theorem pathFault?_eq_none_iff (a : Arguments) (tree : FileTree) :
    pathFault? a tree = none ↔
      (∀ place, tree.find a.outputDirectory ≠ .file place) ∧
      ∀ path ∈ a.files, ∃ place, tree.find path = .file place := by
  unfold pathFault?
  cases tree.find a.outputDirectory with
  | file => simp
  | directory | vacant | missing | notDirectory | nameTooLong =>
    simp only [Option.orElse_none, List.findSome?_eq_none_iff, ne_eq, reduceCtorEq,
      not_false_eq_true, implies_true, true_and]
    refine forall₂_congr fun path _ => ?_
    cases tree.find path <;> simp

/-- After a header that is delivered the paths that were checked are still right. -/
theorem Job.paths_of_bindHeader {job : Job} {path : String}
    (h : s.registry.load = ({} : Registry).load) (hheader : (job.bindHeader path s).2 = none)
    (hdirectory : ∀ place, s.files.find job.outputDirectory ≠ .file place) :
    (∃ files, job.Delivered s (job.bindHeader path s).1 1 files) ∧
      s.files.Grows (job.bindHeader path s).1.files ∧
      ∀ place, (job.bindHeader path s).1.files.find job.outputDirectory ≠ .file place := by
  obtain ⟨files, next, hproduct, hplace⟩ := Job.exists_product_of_bindHeader h hheader
  obtain ⟨_, hfiles, hdelivered⟩ := Job.bindHeader_of_product h hproduct hplace
  rw [hfiles]
  refine ⟨⟨files, hdelivered⟩, Job.grows_of_place? hplace, fun place => ?_⟩
  obtain ⟨out, source, _, _, rfl⟩ := Job.product_eq_ok_iff.mp hproduct
  exact Job.find_ne_file_of_place? (Output.head?_name_ne_slash List.mem_cons_self) hplace
    (hdirectory place)

theorem Job.bindHeaders_singleton (job : Job) (path : String) (s : Progress) :
    job.bindHeaders [path] s
      = ((job.bindHeader path s).1, (job.bindHeader path s).2.getD (.exit 0)) := by
  rw [Job.bindHeaders]
  rcases job.bindHeader path s with ⟨next, ending⟩
  cases ending <;> rfl

theorem Arguments.AskForBindings.withFiles (h : a.AskForBindings env compiler keywords)
    (files : List String) : { a with files }.AskForBindings env compiler keywords :=
  ⟨h.help_eq, h.version_eq, h.listBackends_eq, h.modulePrefix_ne, h.locate_eq,
    h.preprocessorWords_eq⟩

/-- A run on one header alone is what the same run does with it among others. -/
theorem run_single (h : a.AskForBindings env compiler keywords) {path : String}
    (hdirectory : ∀ place, s.files.find a.outputDirectory ≠ .file place)
    (hpath : ∃ place, s.files.find path = .file place) :
    run env { a with files := [path] }.words
        (.start s.files s.preprocessor.platform (s.preprocessor.replies.take 1))
      = (((a.job compiler keywords).bindHeader path s.renewed).1,
        ((a.job compiler keywords).bindHeader path s.renewed).2.getD (.exit 0)) := by
  have hpaths : pathFault? { a with files := [path] } s.files = none :=
    (pathFault?_eq_none_iff _ _).mpr ⟨hdirectory, by simpa using hpath⟩
  have hrun := run_eq_bindHeaders (s := s.renewed) (h.withFiles [path]) (Arguments.read_words _)
    (List.cons_ne_nil path []) hpaths
  exact hrun.trans (Job.bindHeaders_singleton ..)

theorem bindHeaders_eq_runEach (h : a.AskForBindings env compiler keywords)
    (hregistry : s.registry.load = ({} : Registry).load)
    (hdirectory : ∀ place, s.files.find a.outputDirectory ≠ .file place) {paths : List String}
    (hpaths : ∀ path ∈ paths, ∃ place, s.files.find path = .file place) :
    Trace.of ((a.job compiler keywords).bindHeaders paths s)
      = (Trace.of (s, .exit 0)).andThen
        (runEach env a s.preprocessor.platform paths s.preprocessor.replies s.files) := by
  induction paths generalizing s with
  | nil => simp only [Job.bindHeaders, runEach, Trace.of, Trace.andThen, String.append_empty,
      List.append_nil]
  | cons path rest ih =>
    rw [List.forall_mem_cons] at hpaths
    obtain ⟨hcontinues, hending⟩ := (a.job compiler keywords).bindHeader_continues path hregistry
    rw [runEach, run_single h hdirectory hpaths.1, ← hending]
    dsimp only
    cases hheader : ((a.job compiler keywords).bindHeader path s).2 with
    | none =>
      obtain ⟨⟨_, hdelivered⟩, hgrows, hdirectory'⟩ :=
        Job.paths_of_bindHeader hregistry hheader hdirectory
      have hrest := ih hdelivered.load_registry hdirectory' fun other hother =>
        (hpaths.2 other hother).imp fun place hplace => hgrows.find_eq_file hplace
      rw [hdelivered.platform_eq, hdelivered.replies_eq, List.drop_one] at hrest
      rw [Option.getD_none, if_pos rfl, Job.bindHeaders_cons_of_none hheader, hrest,
        ← hcontinues.files_eq, ← Trace.andThen_assoc, ← hcontinues.trace]
    | some ending =>
      have hne : ending ≠ .exit 0 := by
        rintro rfl
        exact Job.bindHeader_ne_exit_zero _ _ _ hheader
      rw [Option.getD_some, if_neg hne, Job.bindHeaders_cons_of_some rest hheader,
        hcontinues.trace]

end Runs

/-- A run shows what the runs on its headers show one after another, and succeeds only if all of them
are delivered.  Where headers are delivered and the next one cannot be translated, or there is none,
it has put their files in place and printed no more; and the files of each are those that it comes to
at the start with its own reply, unless an earlier one was written over its text. -/
theorem run_eq_runEach (env : Environment) (words : List String) (a : Arguments)
    (compiler : String) (keywords : List String) (files : FileTree) (platform : String)
    (replies : List Reply) (hread : Arguments.read words = .ok a)
    (h : a.AskForBindings env compiler keywords) (hfiles : a.files ≠ [])
    (hpaths : pathFault? a files = none) :
    let job := a.job compiler keywords
    let result := Trace.of (run env words (.start files platform replies))
    result = runEach env a platform a.files replies files ∧
    (result.ending = .exit 0 → (job.outputs platform a.files replies files).isSome = true) ∧
    ∀ before later products tree, a.files = before ++ later →
      job.outputs platform before replies files = some (products, tree) →
      job.place? files products.flatten = some tree ∧
      (∀ i path own, before[i]? = some path → products[i]? = some own →
        job.product path platform replies[i]? files = .ok own ∨ job.useStdout = false ∧
          ∃ file ∈ (products.take i).flatten,
            files.find (Path.join job.outputDirectory file.1) = files.find path) ∧
      (later = [] → result.Delivers job products tree (.exit 0)) ∧
      ∀ path rest failure, later = path :: rest →
        job.translation path platform replies[before.length]? = .error failure →
        result.Delivers job products tree failure.ending := by
  intro job result
  obtain ⟨hdirectory, hheaders⟩ := (pathFault?_eq_none_iff a files).mp hpaths
  have hrun : result = Trace.of (job.bindHeaders a.files (.start files platform replies)) :=
    congrArg Trace.of (run_eq_bindHeaders h hread hfiles hpaths)
  refine ⟨?_, ?_, ?_⟩
  · rw [hrun, bindHeaders_eq_runEach h rfl hdirectory hheaders]
    exact Trace.start_andThen ..
  · intro hending
    rw [hrun] at hending
    exact Job.isSome_outputs (s := .start files platform replies) rfl hending
  · intro before later products tree hsplit houtputs
    rw [hsplit] at hrun hheaders
    refine ⟨Job.place?_of_outputs houtputs, ?_, ?_, ?_⟩
    · intro i path own hpath hown
      obtain ⟨place, hplace⟩ :=
        hheaders path (List.mem_append_left later (List.mem_of_getElem? hpath))
      rw [hplace]
      exact Job.product_of_outputs houtputs hpath hown hplace
    · rintro rfl
      obtain ⟨next, hnext, htree, hdelivered⟩ :=
        Job.bindHeaders_of_outputs (s := .start files platform replies) [] rfl houtputs
      rw [hrun, hnext]
      exact ⟨htree, hdelivered.output_eq.trans String.empty_append, rfl⟩
    · rintro path rest failure rfl hfailure
      obtain ⟨hending, htree, houtput⟩ := Job.bindHeaders_of_translation_error
        (s := .start files platform replies) rest rfl houtputs hfailure
      rw [hrun]
      exact ⟨htree, houtput.trans String.empty_append, hending⟩

/-- Two headers of which the preprocessor accepts the first. -/
theorem run_eq_runEach_secondFails :
    let env : Environment := { program := "c2hsc", locate := fun _ => some "/usr/bin/gcc" }
    let words := ["--prefix", "P", "a.h", "b.h"]
    let a : Arguments := { given := [.setting .modulePrefix "P"], files := ["a.h", "b.h"] }
    let files : FileTree :=
      { files := [(["a.h"], "int f(void);\n"), (["b.h"], "int g(void);\n")] }
    let replies : List Reply :=
      [.finished 0 ("int f(void);\n".toList.map fun c => UInt8.ofNat c.toNat) [], .finished 1 [] []]
    let result := Trace.of (run env words (.start files "Linux" replies))
    Arguments.read words = .ok a ∧ a.AskForBindings env "/usr/bin/gcc" [] ∧ a.files ≠ [] ∧
      pathFault? a files = none ∧
      result = runEach env a "Linux" a.files replies files ∧
      result.files.files.map Prod.fst = [["a.h"], ["b.h"], ["A.hsc"]] ∧
      result.output = "Wrote A.hsc\n" ∧ result.ending = .exit 1 := by
  intro env words a files replies result
  have hread : Arguments.read words = .ok a := rfl
  have hask : a.AskForBindings env "/usr/bin/gcc" [] :=
    ⟨rfl, rfl, rfl, by decide, rfl, rfl⟩
  have hfiles : a.files ≠ [] := List.cons_ne_nil "a.h" ["b.h"]
  have hpaths : pathFault? a files = none := by decide +kernel
  let text := "#include <bindings.dsl.h>\n#include <a.h>\nmodule P.A where\n#strict_import\n\n"
    ++ "#ccall f , IO (CInt)\n"
  obtain ⟨hsame, _, hparts⟩ := run_eq_runEach env words a "/usr/bin/gcc" [] files "Linux" replies
    hread hask hfiles hpaths
  have houtputs : (a.job "/usr/bin/gcc" []).outputs "Linux" ["a.h"] replies files
      = some ([[("A.hsc", text)]], files.store ["A.hsc"] text) := by decide +kernel
  obtain ⟨_, _, _, hfails⟩ := hparts ["a.h"] ["b.h"] _ _ rfl houtputs
  have hdelivers := hfails "b.h" [] (.preprocessor 1 "") rfl rfl
  refine ⟨hread, hask, hfiles, hpaths, hsame, ?_, hdelivers.output_eq.trans (by decide),
    hdelivers.ending_eq⟩
  rw [hdelivers.files_eq]
  rfl

end HeaderBindings.CommandLine
