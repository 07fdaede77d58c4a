/-
  Which outputs of a run are still there when it ends.  The files of a header are named by its module
  alone, so headers with one module name write to the same places, and the last of them stays.

  Main statement (`outputs_kept`): a run that writes files and succeeds leaves under each name what was
  rendered last for it; so the files of a header stay if no later header has its module name, and its
  module is lost if one has, as long as the headers have different base names.

  Runs are followed from their arguments on (`runArguments`), whatever words these were read from.
-/
import HeaderBindings.Proofs.CommandLine.Sequence
import HeaderBindings.Proofs.CommandLine.Written

namespace HeaderBindings

/-! ## Names and texts of files -/

namespace Output

variable {out out' : Output} {pre pre' path path' source source' : String}

theorem module_mem_files (out : Output) (pre path source : String) :
    (Module.name path ++ ".hsc", out.moduleText pre path source) ∈ out.files pre path source :=
  List.mem_cons_self

/-- A file of a header is its module or its helper file. -/
theorem mem_files_cases {file : String × String} (h : file ∈ out.files pre path source) :
    file = (Module.name path ++ ".hsc", out.moduleText pre path source) ∨
      file.1 = Module.name path ++ ".hsc.helper.c" := by
  unfold files at h
  rcases List.mem_cons.mp h with rfl | h
  · exact .inl rfl
  · split at h
    · cases h
    · rw [List.mem_singleton.mp h]
      exact .inr (by rw [String.append_assoc]; rfl)

/-- A name of a file belongs to one module. -/
theorem moduleName_eq_of_mem_files {file file' : String × String}
    (h : file ∈ out.files pre path source) (h' : file' ∈ out'.files pre' path' source')
    (hname : file.1 = file'.1) : Module.name path = Module.name path' := by
  rcases mem_files_cases h with rfl | h <;> rcases mem_files_cases h' with rfl | h'
  · simpa using hname
  · rw [h'] at hname
    exact absurd hname.symm (append_helper_ne _ _)
  · rw [h] at hname
    exact absurd hname (append_helper_ne _ _)
  · rw [h, h'] at hname
    simpa using hname

/-- The second line of a module names its header. -/
theorem exists_moduleText_eq (out : Output) (pre path source : String) :
    ∃ rest, out.moduleText pre path source
      = "#include <bindings.dsl.h>\n#include <" ++ (Path.baseName path ++ (">\n" ++ rest)) := by
  rw [moduleText, Module.fileText, Module.preamble, List.append_assoc, List.cons_append,
    List.cons_append, List.cons_append, String.intercalate_cons_cons,
    String.intercalate_cons_cons]
  simp only [String.append_assoc]
  exact ⟨_, rfl⟩

theorem takeWhile_baseName (hpath : '\n' ∉ path.toList) (rest : String) :
    (Path.baseName path ++ (">\n" ++ rest)).toList.takeWhile (· ≠ '\n')
      = (Path.baseName path).toList ++ ['>'] := by
  have hall : ∀ c ∈ (Path.baseName path).toList, decide (c ≠ '\n') = true := by
    intro c hc
    have hne : c ≠ '\n' := by
      rintro rfl
      exact Module.newline_not_mem_baseName hpath hc
    simpa using hne
  have hclose : ">\n".toList = ['>', '\n'] := rfl
  rw [String.toList_append, List.takeWhile_append_of_pos hall, String.toList_append, hclose]
  simp

theorem baseName_eq_of_moduleText (hpath : '\n' ∉ path.toList) (hpath' : '\n' ∉ path'.toList)
    (h : out.moduleText pre path source = out'.moduleText pre' path' source') :
    Path.baseName path = Path.baseName path' := by
  obtain ⟨rest, htext⟩ := exists_moduleText_eq out pre path source
  obtain ⟨rest', htext'⟩ := exists_moduleText_eq out' pre' path' source'
  rw [htext, htext', String.append_right_inj] at h
  have hlines := takeWhile_baseName hpath rest
  rw [h, takeWhile_baseName hpath' rest'] at hlines
  exact String.toList_inj.mp (List.append_cancel_right hlines.symm)

end Output

namespace CommandLine

/-! ## Headers of one run -/

namespace Job

variable {job : Job} {platform : String} {paths : List String} {replies : List Reply}
variable {products : List (List (String × String))} {tree last : FileTree}
variable (h : job.outputs platform paths replies tree = some (products, last))

include h

/-- The files of a header are what it comes to after the headers before it. -/
theorem exists_product_of_outputs {i : Nat} {path : String} (hpath : paths[i]? = some path) :
    ∃ own before, products[i]? = some own ∧
      job.outputs platform (paths.take i) replies tree = some (products.take i, before) ∧
      job.product path platform replies[i]? before = .ok own := by
  induction paths generalizing i replies tree products with
  | nil => cases hpath
  | cons first rest ih =>
    obtain ⟨own, next, others, hproduct, hplace, hrest, rfl⟩ := outputs_cons_eq_some h
    cases i with
    | zero =>
      cases hpath
      exact ⟨own, tree, rfl, rfl, List.head?_eq_getElem? ▸ hproduct⟩
    | succ i =>
      obtain ⟨own', before, hown, hbefore, hlater⟩ := ih hrest hpath
      refine ⟨own', before, hown, ?_, List.getElem?_tail ▸ hlater⟩
      rw [List.take_succ_cons, outputs_cons hproduct hplace, hbefore]
      rfl

theorem exists_files_of_outputs {i : Nat} {own : List (String × String)}
    (hown : products[i]? = some own) :
    ∃ path, paths[i]? = some path ∧
      ∃ (out : Output) (source : String), own = out.files job.modulePrefix path source := by
  induction paths generalizing i replies tree products with
  | nil =>
    cases h
    cases hown
  | cons first rest ih =>
    obtain ⟨own', next, others, hproduct, hplace, hrest, rfl⟩ := outputs_cons_eq_some h
    cases i with
    | zero =>
      cases hown
      obtain ⟨out, source, _, _, hfiles⟩ := product_eq_ok_iff.mp hproduct
      exact ⟨first, rfl, out, _, hfiles⟩
    | succ i => exact ih hrest hown

theorem eq_files_of_outputs {i : Nat} {path : String} {own : List (String × String)}
    (hpath : paths[i]? = some path) (hown : products[i]? = some own) :
    ∃ (out : Output) (source : String), own = out.files job.modulePrefix path source := by
  obtain ⟨path', hpath', hfiles⟩ := exists_files_of_outputs h hown
  obtain rfl : path = path' := Option.some.inj (hpath.symm.trans hpath')
  exact hfiles

theorem isComponent_of_outputs : ∀ file ∈ products.flatten, FileTree.IsComponent file.1 := by
  intro file hfile
  obtain ⟨own, hown, hfile⟩ := List.mem_flatten.mp hfile
  obtain ⟨i, hi⟩ := List.mem_iff_getElem?.mp hown
  obtain ⟨path, _, out, source, rfl⟩ := exists_files_of_outputs h hi
  exact Output.isComponent_of_mem_files hfile

/-- Under each name stands in the end what was rendered last for it. -/
theorem read_of_outputs (hstdout : job.useStdout = false) {name text : String}
    (hlast : lastText? products.flatten name = some text) :
    last.read (Path.join job.outputDirectory name) = .ok text := by
  obtain ⟨names, hwritten⟩ : ∃ names,
      tree.writeAll job.outputDirectory products.flatten = (last, .ok names) :=
    ((place?_eq_some_iff.mp (place?_of_outputs h)).resolve_left
      fun hprinted => Bool.noConfusion (hstdout.symm.trans hprinted.1)).2
  exact FileTree.read_of_lastText? hwritten (isComponent_of_outputs h) hlast

omit h

theorem exists_later_of_mem_drop {i : Nat} {file : String × String}
    (hfile : file ∈ (products.drop (i + 1)).flatten) :
    ∃ j own, i < j ∧ products[j]? = some own ∧ file ∈ own := by
  obtain ⟨own, hown, hfile⟩ := List.mem_flatten.mp hfile
  obtain ⟨k, hk⟩ := List.mem_iff_getElem?.mp hown
  rw [List.getElem?_drop] at hk
  exact ⟨i + 1 + k, own, by omega, hk, hfile⟩

/-- What the headers from one on give last under a name comes from a later one or from itself. -/
theorem lastText?_flatten {i : Nat} {own : List (String × String)}
    (hown : products[i]? = some own) (name : String) :
    lastText? products.flatten name
      = (lastText? (products.drop (i + 1)).flatten name).or
        ((lastText? own name).or (lastText? (products.take i).flatten name)) := by
  obtain ⟨hi, rfl⟩ := List.getElem?_eq_some_iff.mp hown
  have hsplit : products.flatten
      = (products.take i).flatten ++ (products[i] ++ (products.drop (i + 1)).flatten) := by
    rw [← List.flatten_cons, ← List.drop_eq_getElem_cons hi, ← List.flatten_append,
      List.take_append_drop]
  rw [hsplit, lastText?_append, lastText?_append, Option.or_assoc]

include h

variable {i : Nat} {path : String} {own : List (String × String)}
variable (hown : products[i]? = some own)

include hown

/-- Without a later header of the same module a header's files are the last under their names. -/
theorem lastText?_of_no_later (hpath : paths[i]? = some path)
    (hlater : ∀ j later, i < j → paths[j]? = some later → Module.name later ≠ Module.name path)
    {file : String × String} (hfile : file ∈ own) :
    lastText? products.flatten file.1 = some file.2 := by
  obtain ⟨out, source, rfl⟩ := eq_files_of_outputs h hpath hown
  have hnone : lastText? (products.drop (i + 1)).flatten file.1 = none := by
    rw [lastText?_eq_none_iff]
    intro hmem
    obtain ⟨file', hfile', hname⟩ := List.mem_map.mp hmem
    obtain ⟨j, own', hij, hown', hfile'⟩ := exists_later_of_mem_drop hfile'
    obtain ⟨later, hj, out', source', rfl⟩ := exists_files_of_outputs h hown'
    exact hlater j later hij hj (Output.moduleName_eq_of_mem_files hfile' hfile hname)
  rw [lastText?_flatten hown, hnone, Option.none_or,
    lastText?_of_nodup (out.nodup_names job.modulePrefix path source) hfile, Option.some_or]

/-- A later header of the same module writes over a header's module. -/
theorem exists_lastText?_of_later {j : Nat} {later : String} (hij : i < j)
    (hj : paths[j]? = some later) (hname : Module.name later = Module.name path) :
    ∃ k other, i < k ∧ paths[k]? = some other ∧ ∃ (out : Output) (source : String),
      lastText? products.flatten (Module.name path ++ ".hsc")
        = some (out.moduleText job.modulePrefix other source) := by
  obtain ⟨own', _, hown', _, _⟩ := exists_product_of_outputs h hj
  obtain ⟨out, source, rfl⟩ := eq_files_of_outputs h hj hown'
  have hmem : out.files job.modulePrefix later source ∈ products.drop (i + 1) := by
    refine List.mem_iff_getElem?.mpr ⟨j - (i + 1), ?_⟩
    rw [List.getElem?_drop, show i + 1 + (j - (i + 1)) = j by omega]
    exact hown'
  have hmodule := List.mem_map_of_mem (f := Prod.fst) (List.mem_flatten_of_mem hmem
    (out.module_mem_files job.modulePrefix later source))
  rw [hname] at hmodule
  cases hlast : lastText? (products.drop (i + 1)).flatten (Module.name path ++ ".hsc") with
  | none => exact absurd hmodule (lastText?_eq_none_iff.mp hlast)
  | some text =>
    obtain ⟨k, own'', hik, hown'', hfile⟩ := exists_later_of_mem_drop (mem_of_lastText? hlast)
    obtain ⟨other, hother, out', source', rfl⟩ := exists_files_of_outputs h hown''
    refine ⟨k, other, hik, hother, out', source', ?_⟩
    rw [lastText?_flatten hown, hlast, Option.some_or]
    rcases Output.mem_files_cases hfile with heq | heq
    · rw [(Prod.mk.inj heq).2]
    · exact absurd heq.symm (Output.append_helper_ne _ _)

/-- Under the name of its module then stands a text that is not its own. -/
theorem exists_lost_of_later (hpath : paths[i]? = some path)
    (hdistinct : (paths.map Path.baseName).Nodup) (hnewline : ∀ path ∈ paths, '\n' ∉ path.toList)
    {j : Nat} {later : String} (hij : i < j) (hj : paths[j]? = some later)
    (hname : Module.name later = Module.name path) :
    ∃ file ∈ own, ∃ text, lastText? products.flatten file.1 = some text ∧ text ≠ file.2 := by
  obtain ⟨out, source, rfl⟩ := eq_files_of_outputs h hpath hown
  obtain ⟨k, other, hik, hother, out', source', hlast⟩ :=
    exists_lastText?_of_later h hown hij hj hname
  refine ⟨_, out.module_mem_files job.modulePrefix path source, _, hlast, fun htext => ?_⟩
  have hbase : Path.baseName other = Path.baseName path :=
    Output.baseName_eq_of_moduleText (hnewline other (List.mem_of_getElem? hother))
      (hnewline path (List.mem_of_getElem? hpath)) htext
  have hsame : (paths.map Path.baseName)[i]? = (paths.map Path.baseName)[k]? := by
    rw [List.getElem?_map, List.getElem?_map, hpath, hother, Option.map_some, Option.map_some,
      hbase]
  have hi : i < (paths.map Path.baseName).length := by
    rw [List.length_map]
    exact (List.getElem?_eq_some_iff.mp hpath).1
  exact absurd ((List.getElem?_inj hi hdistinct).mp hsame) (Nat.ne_of_lt hik)

end Job

/-! ## Runs that write files -/

/-- Headers that are bound with success have got past the checks before them. -/
theorem checks_of_bindAll {env : Environment} {a : Arguments} {s : Progress}
    (hexit : (bindAll env a s).2 = .exit 0) :
    a.modulePrefix ≠ "" ∧ ∃ compiler keywords,
      env.locate a.compiler = some compiler ∧ a.preprocessorWords = .ok keywords := by
  unfold bindAll at hexit
  dsimp only at hexit
  split at hexit
  · cases hexit
  · rename_i hgiven
    split at hexit
    · cases hexit
    · rename_i compiler hcompiler
      split at hexit
      · cases hexit
      · rename_i keywords hkeywords
        exact ⟨hgiven, compiler, keywords, hcompiler, hkeywords⟩

/-- A run on headers that succeeds has got past every check. -/
theorem askForBindings_of_exit_zero {env : Environment} {a : Arguments} {s : Progress}
    (hmode : ∀ f ∈ [Flag.help, .version, .listBackends], a.has f = false)
    (hexit : (runArguments env a s).2 = .exit 0) :
    a.files ≠ [] ∧ pathFault? a s.files = none ∧
      ∃ compiler keywords, a.AskForBindings env compiler keywords := by
  have hhelp : a.has .help = false := hmode _ (by decide)
  have hversion : a.has .version = false := hmode _ (by decide)
  have hlist : a.has .listBackends = false := hmode _ (by decide)
  have hrefuse : ∀ fault, (refuse env s fault).2 ≠ .exit 0 := fun fault => by simp [refuse]
  unfold runArguments at hexit
  rw [hhelp, hversion, hlist, if_neg Bool.false_ne_true] at hexit
  cases hpaths : pathFault? a s.files with
  | some fault =>
    rw [hpaths] at hexit
    exact absurd hexit (hrefuse fault)
  | none =>
    rw [hpaths] at hexit
    dsimp only at hexit
    rw [if_neg Bool.false_ne_true, if_neg Bool.false_ne_true] at hexit
    split at hexit
    · exact absurd hexit (hrefuse _)
    · rename_i hfiles
      obtain ⟨hgiven, compiler, keywords, hcompiler, hkeywords⟩ := checks_of_bindAll hexit
      exact ⟨by simpa using hfiles, rfl, compiler, keywords, hhelp, hversion, hlist, hgiven,
        hcompiler, hkeywords⟩

/-- What such a run comes to is what its headers come to one after another. -/
theorem exists_outputs_of_exit_zero {env : Environment} {a : Arguments} {files : FileTree}
    {platform : String} {replies : List Reply}
    (hmode : ∀ f ∈ [Flag.help, .version, .listBackends], a.has f = false)
    (hexit : (runArguments env a (.start files platform replies)).2 = .exit 0) :
    ∃ compiler keywords products, a.AskForBindings env compiler keywords ∧
      (a.job compiler keywords).outputs platform a.files replies files
        = some (products, (runArguments env a (.start files platform replies)).1.files) := by
  obtain ⟨hfiles, hpaths, compiler, keywords, hask⟩ := askForBindings_of_exit_zero hmode hexit
  rw [runArguments_eq_bindHeaders hask hfiles hpaths] at hexit ⊢
  obtain ⟨⟨products, tree⟩, houtputs⟩ := Option.isSome_iff_exists.mp
    (Job.isSome_outputs (s := .start files platform replies) rfl hexit)
  obtain ⟨next, hnext, htree, _⟩ :=
    Job.bindHeaders_of_outputs (s := .start files platform replies) [] rfl houtputs
  rw [List.append_nil] at hnext
  refine ⟨compiler, keywords, products, hask, ?_⟩
  rw [hnext, Job.bindHeaders, htree]
  exact houtputs

/-- A run that writes files and succeeds leaves under each name what was rendered last for it.  So the
files of a header still hold what was rendered for it unless a later header has its module name.  If
one has, and the headers have different base names, the header's module is lost. -/
theorem outputs_kept (env : Environment) (words : List String) (a : Arguments) (files : FileTree)
    (platform : String) (replies : List Reply) (hread : Arguments.read words = .ok a)
    (hmode : ∀ f ∈ [Flag.help, .version, .listBackends, .stdout], a.has f = false)
    (hexit : (run env words (.start files platform replies)).2 = .exit 0) :
    let result := (run env words (.start files platform replies)).1.files
    ∃ compiler keywords products,
      let job := a.job compiler keywords
      a.AskForBindings env compiler keywords ∧
      job.outputs platform a.files replies files = some (products, result) ∧
      (∀ name text, lastText? products.flatten name = some text →
        result.read (Path.join a.outputDirectory name) = .ok text) ∧
      ∀ i path, a.files[i]? = some path → ∃ own before, products[i]? = some own ∧
        job.outputs platform (a.files.take i) replies files = some (products.take i, before) ∧
        job.product path platform replies[i]? before = .ok own ∧
        ((∀ j later, i < j → a.files[j]? = some later →
            Module.name later ≠ Module.name path) →
          ∀ file ∈ own, result.read (Path.join a.outputDirectory file.1) = .ok file.2) ∧
        ((a.files.map Path.baseName).Nodup → (∀ path ∈ a.files, '\n' ∉ path.toList) →
          ∀ j later, i < j → a.files[j]? = some later → Module.name later = Module.name path →
            ∃ file ∈ own, result.read (Path.join a.outputDirectory file.1) ≠ .ok file.2) := by
  intro result
  have hstdout : a.has .stdout = false := hmode _ (by decide)
  have hwords : words ≠ [] := by
    rintro rfl
    cases hexit
  have hrun : ∀ s, run env words s = runArguments env a s := fun s => run_of_read hread hwords
  rw [hrun] at hexit
  obtain ⟨compiler, keywords, products, hask, houtputs⟩ := exists_outputs_of_exit_zero
    (fun f hf => hmode f (List.mem_append_left [Flag.stdout] hf)) hexit
  rw [← hrun] at houtputs
  have hlast : ∀ name text, lastText? products.flatten name = some text →
      result.read (Path.join a.outputDirectory name) = .ok text :=
    fun name text => Job.read_of_outputs houtputs hstdout
  refine ⟨compiler, keywords, products, hask, houtputs, hlast, ?_⟩
  intro i path hpath
  obtain ⟨own, before, hown, hbefore, hproduct⟩ := Job.exists_product_of_outputs houtputs hpath
  refine ⟨own, before, hown, hbefore, hproduct, fun hlater file hfile => ?_, ?_⟩
  · exact hlast _ _ (Job.lastText?_of_no_later houtputs hown hpath hlater hfile)
  · intro hdistinct hnewline j later hij hj hname
    obtain ⟨file, hfile, text, htext, hne⟩ :=
      Job.exists_lost_of_later houtputs hown hpath hdistinct hnewline hij hj hname
    refine ⟨file, hfile, fun hread => hne ?_⟩
    rw [hlast _ _ htext] at hread
    exact Except.ok.inj hread

/-- Two headers of different modules. -/
theorem outputs_kept_twoModules :
    let env : Environment := { program := "c2hsc", locate := fun _ => some "/usr/bin/gcc" }
    let words := ["--prefix", "P", "a.h", "b.h"]
    let a : Arguments := { given := [.setting .modulePrefix "P"], files := ["a.h", "b.h"] }
    let files : FileTree :=
      { files := [(["a.h"], "int f(void);\n"), (["b.h"], "int g(void);\n")] }
    let reply (text : String) : Reply :=
      .finished 0 (text.toList.map fun c => UInt8.ofNat c.toNat) []
    let replies := [reply "int f(void);\n", reply "int g(void);\n"]
    let text := "#include <bindings.dsl.h>\n#include <a.h>\nmodule P.A where\n"
      ++ "#strict_import\n\n#ccall f , IO (CInt)\n"
    Arguments.read words = .ok a ∧
      (∀ f ∈ [Flag.help, .version, .listBackends, .stdout], a.has f = false) ∧
      (run env words (.start files "Linux" replies)).2 = .exit 0 ∧
      (a.job "/usr/bin/gcc" []).product "a.h" "Linux" (reply "int f(void);\n") files
        = .ok [("A.hsc", text)] ∧
      (run env words (.start files "Linux" replies)).1.files.read
        (Path.join a.outputDirectory "A.hsc") = .ok text := by
  intro env words a files reply replies text
  have hread : Arguments.read words = .ok a := rfl
  have hmode : ∀ f ∈ [Flag.help, .version, .listBackends, .stdout], a.has f = false := by decide
  have hexit : (run env words (.start files "Linux" replies)).2 = .exit 0 := by decide +kernel
  have hproduct : (a.job "/usr/bin/gcc" []).product "a.h" "Linux" (reply "int f(void);\n") files
      = .ok [("A.hsc", text)] := by decide +kernel
  obtain ⟨compiler, keywords, products, hask, _, _, hheaders⟩ :=
    outputs_kept env words a files "Linux" replies hread hmode hexit
  obtain rfl : "/usr/bin/gcc" = compiler := Option.some.inj hask.locate_eq
  obtain rfl : [] = keywords := Except.ok.inj hask.preprocessorWords_eq
  obtain ⟨own, before, _, hbefore, hown, hkept, _⟩ := hheaders 0 "a.h" rfl
  obtain rfl : files = before := (Prod.mk.inj (Option.some.inj hbefore)).2
  obtain rfl : [("A.hsc", text)] = own := Except.ok.inj (hproduct.symm.trans hown)
  have hlater : ∀ j later, 0 < j → a.files[j]? = some later →
      Module.name later ≠ Module.name "a.h" := by
    intro j later hj hlater
    match j with
    | 1 =>
      obtain rfl : "b.h" = later := Option.some.inj hlater
      decide +kernel
    | j + 2 => cases hlater
  have hfile := hkept hlater ("A.hsc", text) (List.mem_singleton_self _)
  exact ⟨hread, hmode, hexit, hproduct, hfile⟩

/-- Two headers of one module: the second is written over the first. -/
theorem outputs_kept_not_of_sameModule :
    let env : Environment := { program := "c2hsc", locate := fun _ => some "/usr/bin/gcc" }
    let words := ["--prefix", "P", "foo_bar.h", "fooBar.h"]
    let a : Arguments :=
      { given := [.setting .modulePrefix "P"], files := ["foo_bar.h", "fooBar.h"] }
    let files : FileTree :=
      { files := [(["foo_bar.h"], "int f(void);\n"), (["fooBar.h"], "int g(void);\n")] }
    let reply (text : String) : Reply :=
      .finished 0 (text.toList.map fun c => UInt8.ofNat c.toNat) []
    let replies := [reply "int f(void);\n", reply "int g(void);\n"]
    let text := "#include <bindings.dsl.h>\n#include <foo_bar.h>\nmodule P.FooBar where\n"
      ++ "#strict_import\n\n#ccall f , IO (CInt)\n"
    Arguments.read words = .ok a ∧
      (∀ f ∈ [Flag.help, .version, .listBackends, .stdout], a.has f = false) ∧
      (run env words (.start files "Linux" replies)).2 = .exit 0 ∧
      (a.files.map Path.baseName).Nodup ∧
      (a.job "/usr/bin/gcc" []).product "foo_bar.h" "Linux" (reply "int f(void);\n") files
        = .ok [("FooBar.hsc", text)] ∧
      (run env words (.start files "Linux" replies)).1.files.read
        (Path.join a.outputDirectory "FooBar.hsc") ≠ .ok text := by
  intro env words a files reply replies text
  exact ⟨rfl, by decide, by decide +kernel, by decide +kernel, by decide +kernel, by decide +kernel⟩

end CommandLine

end HeaderBindings
