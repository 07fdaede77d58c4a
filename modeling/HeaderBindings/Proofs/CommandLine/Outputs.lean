/-
  What a run delivers.  The files of a header are made from its own reply and its own text
  (`Job.product`), so those of several headers are read off the replies and the files one after
  another (`Job.outputs`).

  Main statement (`bindHeaders_of_outputs`): once headers are delivered, the run goes on with those
  after them on the files that these outputs leave.
-/
import HeaderBindings.Proofs.CommandLine.Isolation
import HeaderBindings.Proofs.CommandLine.Places

namespace HeaderBindings

/-! ## Writing several files -/

namespace FileTree

variable {t next last : FileTree} {directory : String} {files more : List (String × String)}
variable {names : List String}

theorem writeAll_cons_eq_ok {file : String × String}
    (h : t.writeAll directory (file :: files) = (next, .ok names)) :
    ∃ between names', t.write (Path.join directory file.1) file.2 = .ok between ∧
      between.writeAll directory files = (next, .ok names') ∧ names = file.1 :: names' := by
  rw [writeAll] at h
  split at h
  · cases h
  · rename_i between hwrite
    rcases hrest : between.writeAll directory files with ⟨last, result⟩
    rw [hrest] at h
    cases result with
    | error fault => cases h
    | ok names' =>
      cases h
      exact ⟨between, names', hwrite, hrest, rfl⟩

/-- The files that are written are named in order. -/
theorem names_of_writeAll (h : t.writeAll directory files = (next, .ok names)) :
    names = files.map Prod.fst := by
  induction files generalizing t names with
  | nil =>
    cases h
    rfl
  | cons file rest ih =>
    obtain ⟨between, names', _, hrest, rfl⟩ := writeAll_cons_eq_ok h
    rw [ih hrest, List.map_cons]

theorem writeAll_append {names' : List String}
    (h : t.writeAll directory files = (next, .ok names))
    (hmore : next.writeAll directory more = (last, .ok names')) :
    t.writeAll directory (files ++ more) = (last, .ok (names ++ names')) := by
  induction files generalizing t names with
  | nil =>
    cases h
    exact hmore
  | cons file rest ih =>
    obtain ⟨between, names'', hwrite, hrest, rfl⟩ := writeAll_cons_eq_ok h
    rw [List.cons_append, writeAll, hwrite]
    dsimp only
    rw [ih hrest]
    rfl

/-- A text is only changed by a file that is written in its place. -/
theorem read_writeAll {path : String} {place : List String} (hfind : t.find path = .file place)
    (directory : String) (files : List (String × String)) :
    (t.writeAll directory files).1.read path = t.read path ∨
      ∃ file ∈ files, t.find (Path.join directory file.1) = .file place := by
  induction files generalizing t with
  | nil => exact .inl rfl
  | cons file rest ih =>
    rw [writeAll]
    split
    · exact .inl rfl
    · rename_i between hwrite
      obtain ⟨written, hcleared, rfl⟩ := write_eq_ok hwrite
      have hgrows := t.grows_store written file.2
      have htext := (find_eq_file_iff.mp hfind).2
      by_cases hplace : written = place
      · subst hplace
        exact .inr ⟨file, List.mem_cons_self, find_eq_file_iff.mpr ⟨hcleared, htext⟩⟩
      · rcases ih (hgrows.find_eq_file hfind) with hread | ⟨other, hother, hfound⟩
        · left
          dsimp only
          rw [hread, read, read, hgrows.find_eq_file hfind, hfind]
          simp only [text?_store, if_neg (Ne.symm hplace)]
        · right
          refine ⟨other, List.mem_cons_of_mem _ hother, find_eq_file_iff.mpr ⟨?_, htext⟩⟩
          rw [← hgrows.cleared_find]
          exact (find_eq_file_iff.mp hfound).1

end FileTree

/-! ## What a header comes to -/

/-- How a run ends when a header cannot be translated. -/
def Failure.ending (failure : Failure) : CommandLine.Ending :=
  if failure.isReported then .exit 1 else .broken failure

namespace CommandLine.Job

variable (job : Job)

/-- The translation of the header at `path` alone, where the preprocessor gives this reply. -/
def translation (path platform : String) (reply : Option Reply) : Except Failure Output :=
  (job.translate path (.start {} platform reply.toList)).2

/-- The files of the header at `path`: its translation and the includes in its own text. -/
def product (path platform : String) (reply : Option Reply) (tree : FileTree) :
    Except Failure (List (String × String)) :=
  match job.translation path platform reply, tree.read path with
  | .error failure, _ => .error failure
  | .ok _, .error fault => .error (.file fault)
  | .ok out, .ok source => .ok (out.files job.modulePrefix path (Text.unifyNewlines source))

/-- The tree with files in the directory for output, if they can be written; printed files are not. -/
def place? (tree : FileTree) (files : List (String × String)) : Option FileTree :=
  if job.useStdout then some tree
  else match tree.writeAll job.outputDirectory files with
    | (next, .ok _) => some next
    | (_, .error _) => none

/-- What is printed for files: their texts, or that they were written. -/
def shown (files : List (String × String)) : String :=
  String.join (files.map fun file =>
    if job.useStdout then file.2 else "Wrote " ++ file.1 ++ "\n")

/-- The files of each of several headers and the tree with all of them in place.  Each header has its
own reply and is read where the files of those before it are. -/
def outputs (platform : String) :
    List String → List Reply → FileTree → Option (List (List (String × String)) × FileTree)
  | [], _, tree => some ([], tree)
  | path :: rest, replies, tree =>
    match job.product path platform replies.head? tree with
    | .error _ => none
    | .ok files => (job.place? tree files).bind fun next =>
      (outputs platform rest replies.tail next).map fun others => (files :: others.1, others.2)

variable {job} {path : String} {s : Progress} {tree next last : FileTree}
variable {files more : List (String × String)}

/-! ## Files in place -/

theorem place?_eq_some_iff :
    job.place? tree files = some next ↔
      job.useStdout = true ∧ next = tree ∨
      job.useStdout = false ∧ ∃ names, tree.writeAll job.outputDirectory files = (next, .ok names) := by
  unfold place?
  cases job.useStdout with
  | true => simp [eq_comm]
  | false =>
    rcases tree.writeAll job.outputDirectory files with ⟨written, result⟩
    cases result <;> simp

theorem place?_append (h : job.place? tree files = some next)
    (hmore : job.place? next more = some last) :
    job.place? tree (files ++ more) = some last := by
  rw [place?_eq_some_iff] at h hmore ⊢
  rcases h with ⟨hstdout, rfl⟩ | ⟨hstdout, names, hwritten⟩
  · have hlast := hmore.resolve_right fun h => Bool.noConfusion (hstdout.symm.trans h.1)
    exact .inl hlast
  · obtain ⟨_, names', hwritten'⟩ :=
      hmore.resolve_left fun h => Bool.noConfusion (hstdout.symm.trans h.1)
    exact .inr ⟨hstdout, names ++ names', FileTree.writeAll_append hwritten hwritten'⟩

theorem grows_of_place? (h : job.place? tree files = some next) : tree.Grows next := by
  rcases place?_eq_some_iff.mp h with ⟨_, rfl⟩ | ⟨_, names, hwritten⟩
  · exact .refl next
  · exact FileTree.grows_of_writeAll hwritten

/-- The directory for output is no file after files were put into it. -/
theorem find_ne_file_of_place? {file : String × String} {rest : List (String × String)}
    (hname : file.1.toList.head? ≠ some '/') (h : job.place? tree (file :: rest) = some next)
    {place : List String} (htree : tree.find job.outputDirectory ≠ .file place) :
    next.find job.outputDirectory ≠ .file place := by
  rcases place?_eq_some_iff.mp h with ⟨_, rfl⟩ | ⟨_, names, hwritten⟩
  · exact htree
  · obtain ⟨between, names', hwrite, hrest, _⟩ := FileTree.writeAll_cons_eq_ok hwritten
    exact ((FileTree.grows_write hwrite).trans (FileTree.grows_of_writeAll hrest))
      |>.find_ne_file_of_write hname hwrite place

/-- The text of a header is only changed by a file that is written over it. -/
theorem read_of_place? {place : List String} (hfind : tree.find path = .file place)
    (h : job.place? tree files = some next) :
    next.read path = tree.read path ∨ job.useStdout = false ∧
      ∃ file ∈ files, tree.find (Path.join job.outputDirectory file.1) = .file place := by
  rcases place?_eq_some_iff.mp h with ⟨_, rfl⟩ | ⟨hstdout, names, hwritten⟩
  · exact .inl rfl
  · have hread := FileTree.read_writeAll hfind job.outputDirectory files
    rw [hwritten] at hread
    exact hread.imp_right fun hover => ⟨hstdout, hover⟩

/-! ## One header -/

theorem translate_eq (h : s.registry.load = ({} : Registry).load) (path : String) :
    (job.translate path s).2
      = job.translation path s.preprocessor.platform s.preprocessor.replies.head? := by
  have hreply : s.preprocessor.replies.head?.toList = s.preprocessor.replies.take 1 := by
    cases s.preprocessor.replies <;> rfl
  rw [(job.translate_continues path h).2, translation, Progress.start, hreply]
  simp only [translate, announce_registry, announce_preprocessor]
  rfl

theorem translate_files (job : Job) (path : String) (s : Progress) :
    (job.translate path s).1.files = s.files :=
  job.announce_files path s

theorem translate_output (job : Job) (path : String) (s : Progress) :
    (job.translate path s).1.output = s.output :=
  job.announce_output path s

theorem translate_replies (h : s.registry.load = ({} : Registry).load) {out : Output}
    (hout : (job.translate path s).2 = .ok out) :
    (job.translate path s).1.preprocessor.replies = s.preprocessor.replies.tail := by
  have hgenerated := (job.request path).generate_continues rfl h s.preprocessor
  have hresult : ((job.request path).generate s.registry s.preprocessor).result = .ok out := by
    simpa only [translate, announce_registry, announce_preprocessor] using hout
  have hlength := hgenerated.length_calls out (hgenerated.result_eq.symm.trans hresult)
  simp only [translate, announce_registry, announce_preprocessor, Progress.report]
  rw [hgenerated.preprocessor_eq, Preprocessor.advance, hlength, List.drop_one]

theorem deliver_of_place? {source : String} {out : Output}
    (h : job.place? s.files (out.files job.modulePrefix path source) = some next) :
    job.deliver path source out s = ({ s with files := next }.print
      (job.shown (out.files job.modulePrefix path source)), none) := by
  rcases place?_eq_some_iff.mp h with ⟨hstdout, rfl⟩ | ⟨hstdout, names, hwritten⟩
  · rw [deliver_of_stdout hstdout]
    simp only [shown, hstdout, if_true]
  · rw [deliver_of_directory hstdout, hwritten, FileTree.names_of_writeAll hwritten]
    dsimp only
    rw [List.map_map]
    simp only [shown, hstdout, Bool.false_eq_true, if_false]
    rfl

theorem exists_place?_of_deliver {source : String} {out : Output}
    (h : (job.deliver path source out s).2 = none) :
    ∃ next, job.place? s.files (out.files job.modulePrefix path source) = some next := by
  cases hstdout : job.useStdout with
  | true => exact ⟨s.files, place?_eq_some_iff.mpr (.inl ⟨hstdout, rfl⟩)⟩
  | false =>
    rw [deliver_of_directory hstdout] at h
    split at h
    · cases h
    · rename_i next names hwritten
      exact ⟨next, place?_eq_some_iff.mpr (.inr ⟨hstdout, names, hwritten⟩)⟩

theorem product_eq_ok_iff {platform : String} {reply : Option Reply} :
    job.product path platform reply tree = .ok files ↔
      ∃ out source, job.translation path platform reply = .ok out ∧ tree.read path = .ok source ∧
        files = out.files job.modulePrefix path (Text.unifyNewlines source) := by
  unfold product
  cases job.translation path platform reply with
  | error failure => simp
  | ok out => cases tree.read path <;> simp [eq_comm]

/-- A header that cannot be translated ends the run, and nothing is written or printed for it. -/
theorem bindHeader_of_translation_error (h : s.registry.load = ({} : Registry).load)
    {failure : Failure} (hfailure : job.translation path s.preprocessor.platform
      s.preprocessor.replies.head? = .error failure) :
    (job.bindHeader path s).2 = some failure.ending ∧
      (job.bindHeader path s).1.files = s.files ∧
      (job.bindHeader path s).1.output = s.output := by
  have hfiles := job.translate_files path s
  have houtput := job.translate_output path s
  have hresult := (translate_eq h path).trans hfailure
  unfold bindHeader Failure.ending
  rcases htranslate : job.translate path s with ⟨after, result⟩
  rw [htranslate] at hfiles houtput hresult
  cases hresult
  dsimp only
  split
  · exact ⟨rfl, hfiles, houtput⟩
  · exact ⟨rfl, hfiles, houtput⟩

/-- `next` is where a run has come to from `s` when `n` headers are delivered as `files`. -/
structure Delivered (job : Job) (s next : Progress) (n : Nat) (files : List (String × String)) :
    Prop where
  load_registry : next.registry.load = ({} : Registry).load
  platform_eq : next.preprocessor.platform = s.preprocessor.platform
  replies_eq : next.preprocessor.replies = s.preprocessor.replies.drop n
  output_eq : next.output = s.output ++ job.shown files

theorem bindHeader_of_read {out : Output} {source : String}
    (hout : (job.translate path s).2 = .ok out) (hsource : s.files.read path = .ok source) :
    job.bindHeader path s
      = job.deliver path (Text.unifyNewlines source) out (job.translate path s).1 := by
  have hfiles := job.translate_files path s
  unfold bindHeader
  rcases htranslate : job.translate path s with ⟨after, result⟩
  rw [htranslate] at hout hfiles
  cases hout
  dsimp only at hfiles ⊢
  rw [hfiles, hsource]

theorem bindHeader_of_read_error {out : Output} {fault : FileFault}
    (hout : (job.translate path s).2 = .ok out) (hfault : s.files.read path = .error fault) :
    (job.bindHeader path s).2 = some (.broken (.file fault)) := by
  have hfiles := job.translate_files path s
  unfold bindHeader
  rcases htranslate : job.translate path s with ⟨after, result⟩
  rw [htranslate] at hout hfiles
  cases hout
  dsimp only at hfiles ⊢
  rw [hfiles, hfault]

/-- No header ends a run with success. -/
theorem bindHeader_ne_exit_zero (job : Job) (path : String) (s : Progress) :
    (job.bindHeader path s).2 ≠ some (.exit 0) := by
  unfold bindHeader
  split
  · split <;> simp
  · split
    · simp
    · cases hstdout : job.useStdout with
      | true => simp [deliver_of_stdout hstdout]
      | false =>
        rw [deliver_of_directory hstdout]
        split <;> simp

/-- A header whose files can be put in place is followed by the next one. -/
theorem bindHeader_of_product (h : s.registry.load = ({} : Registry).load)
    (hproduct : job.product path s.preprocessor.platform s.preprocessor.replies.head? s.files
      = .ok files)
    (hplace : job.place? s.files files = some next) :
    (job.bindHeader path s).2 = none ∧ (job.bindHeader path s).1.files = next ∧
      job.Delivered s (job.bindHeader path s).1 1 files := by
  obtain ⟨out, source, hout, hsource, rfl⟩ := product_eq_ok_iff.mp hproduct
  rw [← translate_eq h] at hout
  rw [← translate_files job path s] at hplace
  obtain ⟨hcontinues, _⟩ := job.translate_continues path h
  rw [bindHeader_of_read hout hsource, deliver_of_place? hplace]
  refine ⟨rfl, rfl, hcontinues.load_registry, ?_, ?_, ?_⟩
  · change (job.translate path s).1.preprocessor.platform = _
    rw [hcontinues.preprocessor_eq]
    rfl
  · exact (translate_replies h hout).trans (List.drop_one).symm
  · exact congrArg (· ++ _) (translate_output job path s)

/-- Only such a header is followed by another. -/
theorem exists_product_of_bindHeader (h : s.registry.load = ({} : Registry).load)
    (hheader : (job.bindHeader path s).2 = none) :
    ∃ files next, job.product path s.preprocessor.platform s.preprocessor.replies.head? s.files
      = .ok files ∧ job.place? s.files files = some next := by
  have hresult := (translate_eq h path : (job.translate path s).2 = _)
  cases hout : (job.translate path s).2 with
  | error failure =>
    rw [(bindHeader_of_translation_error h (hresult.symm.trans hout)).1] at hheader
    cases hheader
  | ok out =>
    cases hsource : s.files.read path with
    | error fault =>
      rw [bindHeader_of_read_error hout hsource] at hheader
      cases hheader
    | ok source =>
      rw [bindHeader_of_read hout hsource] at hheader
      obtain ⟨next, hplace⟩ := exists_place?_of_deliver hheader
      rw [translate_files] at hplace
      exact ⟨_, next, product_eq_ok_iff.mpr ⟨out, source, hresult.symm.trans hout, hsource, rfl⟩,
        hplace⟩

/-! ## Several headers -/

theorem Delivered.refl (h : s.registry.load = ({} : Registry).load) : job.Delivered s s 0 [] :=
  ⟨h, rfl, rfl, String.append_empty.symm⟩

theorem shown_append (job : Job) (files more : List (String × String)) :
    job.shown (files ++ more) = job.shown files ++ job.shown more := by
  rw [shown, List.map_append, String.join_append]
  rfl

theorem Delivered.trans {s' s'' : Progress} {n m : Nat} (h : job.Delivered s s' n files)
    (h' : job.Delivered s' s'' m more) : job.Delivered s s'' (n + m) (files ++ more) where
  load_registry := h'.load_registry
  platform_eq := h'.platform_eq.trans h.platform_eq
  replies_eq := by rw [h'.replies_eq, h.replies_eq, List.drop_drop]
  output_eq := by rw [h'.output_eq, h.output_eq, shown_append, String.append_assoc]

variable {platform : String} {paths : List String} {replies : List Reply}
variable {products : List (List (String × String))}

theorem outputs_cons (hproduct : job.product path platform replies.head? tree = .ok files)
    (hplace : job.place? tree files = some next) :
    job.outputs platform (path :: paths) replies tree
      = (job.outputs platform paths replies.tail next).map fun others =>
        (files :: others.1, others.2) := by
  rw [outputs, hproduct]
  dsimp only
  rw [hplace, Option.bind_some]

theorem outputs_cons_eq_some
    (h : job.outputs platform (path :: paths) replies tree = some (products, last)) :
    ∃ own next others, job.product path platform replies.head? tree = .ok own ∧
      job.place? tree own = some next ∧
      job.outputs platform paths replies.tail next = some (others, last) ∧
      products = own :: others := by
  rw [outputs] at h
  split at h
  · cases h
  · rename_i own hproduct
    obtain ⟨next, hplace, h⟩ := Option.bind_eq_some_iff.mp h
    obtain ⟨⟨others, last'⟩, hrest, heq⟩ := Option.map_eq_some_iff.mp h
    cases heq
    exact ⟨own, next, others, hproduct, hplace, hrest, rfl⟩

theorem place?_of_outputs (h : job.outputs platform paths replies tree = some (products, last)) :
    job.place? tree products.flatten = some last := by
  induction paths generalizing tree replies products with
  | nil =>
    cases h
    unfold place? FileTree.writeAll
    exact ite_self _
  | cons path paths ih =>
    obtain ⟨own, next, others, _, hplace, hrest, rfl⟩ := outputs_cons_eq_some h
    exact place?_append hplace (ih hrest)

/-- A header comes to what it would come to at the start, unless a file was written over it. -/
theorem product_of_outputs (h : job.outputs platform paths replies tree = some (products, last))
    {i : Nat} (hpath : paths[i]? = some path) (hfiles : products[i]? = some files)
    {place : List String} (hfind : tree.find path = .file place) :
    job.product path platform replies[i]? tree = .ok files ∨ job.useStdout = false ∧
      ∃ file ∈ (products.take i).flatten,
        tree.find (Path.join job.outputDirectory file.1) = .file place := by
  induction paths generalizing i replies tree products with
  | nil => cases hpath
  | cons first rest ih =>
    obtain ⟨own, next, others, hproduct, hplace, hrest, rfl⟩ := outputs_cons_eq_some h
    cases i with
    | zero =>
      cases hpath
      cases hfiles
      exact .inl (List.head?_eq_getElem? ▸ hproduct)
    | succ i =>
      rw [List.getElem?_cons_succ] at hpath hfiles
      rw [List.take_succ_cons, List.flatten_cons]
      have hgrows := grows_of_place? hplace
      rcases ih hrest hpath hfiles (hgrows.find_eq_file hfind) with hlater | ⟨hstdout, file, hfile, hover⟩
      · rcases read_of_place? hfind hplace with hread | ⟨hstdout, file, hfile, hover⟩
        · left
          rw [← hlater, product, product, hread, List.getElem?_tail]
        · exact .inr ⟨hstdout, file, List.mem_append_left _ hfile, hover⟩
      · have hcleared := (FileTree.find_eq_file_iff.mp hover).1
        have htext := (FileTree.find_eq_file_iff.mp hfind).2
        rw [hgrows.cleared_find] at hcleared
        exact .inr ⟨hstdout, file, List.mem_append_right _ hfile,
          FileTree.find_eq_file_iff.mpr ⟨hcleared, htext⟩⟩

theorem bindHeaders_cons_of_none (h : (job.bindHeader path s).2 = none) :
    job.bindHeaders (path :: paths) s = job.bindHeaders paths (job.bindHeader path s).1 := by
  rw [bindHeaders]
  rcases hheader : job.bindHeader path s with ⟨next, ending⟩
  rw [hheader] at h
  cases h
  rfl

theorem bindHeaders_cons_of_some {ending : Ending} (paths : List String)
    (h : (job.bindHeader path s).2 = some ending) :
    job.bindHeaders (path :: paths) s = ((job.bindHeader path s).1, ending) := by
  rw [bindHeaders]
  rcases hheader : job.bindHeader path s with ⟨next, ending⟩
  rw [hheader] at h
  cases h
  rfl

/-- After headers that are delivered a run goes on with the next ones. -/
theorem bindHeaders_of_outputs (later : List String)
    (h : s.registry.load = ({} : Registry).load)
    (houtputs : job.outputs s.preprocessor.platform paths s.preprocessor.replies s.files
      = some (products, last)) :
    ∃ next, job.bindHeaders (paths ++ later) s = job.bindHeaders later next ∧
      next.files = last ∧ job.Delivered s next paths.length products.flatten := by
  induction paths generalizing s products with
  | nil =>
    cases houtputs
    exact ⟨s, rfl, rfl, .refl h⟩
  | cons path paths ih =>
    obtain ⟨own, tree, others, hproduct, hplace, hrest, rfl⟩ := outputs_cons_eq_some houtputs
    obtain ⟨hending, hfiles, hdelivered⟩ := bindHeader_of_product h hproduct hplace
    rw [← hdelivered.platform_eq, ← List.drop_one, ← hdelivered.replies_eq, ← hfiles] at hrest
    obtain ⟨next, hnext, hlast, hothers⟩ := ih hdelivered.load_registry hrest
    refine ⟨next, ?_, hlast, ?_⟩
    · rw [← hnext, List.cons_append, bindHeaders_cons_of_none hending]
    · rw [List.length_cons, Nat.add_comm, List.flatten_cons]
      exact hdelivered.trans hothers

/-- A run that succeeds has delivered every header. -/
theorem isSome_outputs (h : s.registry.load = ({} : Registry).load)
    (hending : (job.bindHeaders paths s).2 = .exit 0) :
    (job.outputs s.preprocessor.platform paths s.preprocessor.replies s.files).isSome = true := by
  induction paths generalizing s with
  | nil => rfl
  | cons path paths ih =>
    cases hheader : (job.bindHeader path s).2 with
    | some ending =>
      rw [bindHeaders_cons_of_some paths hheader] at hending
      subst hending
      exact absurd hheader (job.bindHeader_ne_exit_zero path s)
    | none =>
      obtain ⟨own, next, hproduct, hplace⟩ := exists_product_of_bindHeader h hheader
      obtain ⟨_, hfiles, hdelivered⟩ := bindHeader_of_product h hproduct hplace
      rw [bindHeaders_cons_of_none hheader] at hending
      have hrest := ih hdelivered.load_registry hending
      rw [hdelivered.platform_eq, hdelivered.replies_eq, List.drop_one, hfiles] at hrest
      rw [outputs_cons hproduct hplace, Option.isSome_map]
      exact hrest

/-- A header that cannot be translated leaves what those before it come to. -/
theorem bindHeaders_of_translation_error (rest : List String)
    (h : s.registry.load = ({} : Registry).load)
    (houtputs : job.outputs s.preprocessor.platform paths s.preprocessor.replies s.files
      = some (products, last)) {failure : Failure}
    (hfailure : job.translation path s.preprocessor.platform
      s.preprocessor.replies[paths.length]? = .error failure) :
    (job.bindHeaders (paths ++ path :: rest) s).2 = failure.ending ∧
      (job.bindHeaders (paths ++ path :: rest) s).1.files = last ∧
      (job.bindHeaders (paths ++ path :: rest) s).1.output
        = s.output ++ job.shown products.flatten := by
  obtain ⟨next, hnext, hlast, hdelivered⟩ := bindHeaders_of_outputs (path :: rest) h houtputs
  rw [← List.head?_drop, ← hdelivered.replies_eq, ← hdelivered.platform_eq] at hfailure
  obtain ⟨hending, hfiles, houtput⟩ :=
    bindHeader_of_translation_error hdelivered.load_registry hfailure
  rw [hnext, bindHeaders_cons_of_some rest hending]
  exact ⟨rfl, hfiles.trans hlast, houtput.trans hdelivered.output_eq⟩

end CommandLine.Job

end HeaderBindings
