/-
  What is read back from files that were written.  A file of a header goes to the place that the
  directory and its name spell, and the text that stands there in the end is the one that was written
  last.

  Main statement (`files_readBack`): what is printed for a header is on lines of its own, so that its
  files are cut into them again; and the files that are written have the names that a stream gives
  back and hold together the text that it is given, with nothing else changed.
-/
import HeaderBindings.Proofs.CommandLine.Outputs
import HeaderBindings.Proofs.Emission.OneLine
import HeaderBindings.Proofs.Module.ReadBack

namespace HeaderBindings

/-! ## The last text under a name -/

/-- The text that was given last under a name. -/
def lastText? (files : List (String × String)) (name : String) : Option String :=
  files.reverse.lookup name

theorem lastText?_append (files more : List (String × String)) (name : String) :
    lastText? (files ++ more) name = (lastText? more name).or (lastText? files name) := by
  rw [lastText?, List.reverse_append, List.lookup_append]
  rfl

theorem lastText?_cons (file : String × String) (files : List (String × String)) (name : String) :
    lastText? (file :: files) name
      = (lastText? files name).or (if name = file.1 then some file.2 else none) := by
  rw [← List.singleton_append, lastText?_append]
  congr 1
  rw [lastText?, List.reverse_singleton, List.lookup_cons, List.lookup_nil]
  by_cases h : name = file.1
  · rw [if_pos h, beq_iff_eq.mpr h]
  · rw [if_neg h, beq_eq_false_iff_ne.mpr h]

theorem mem_of_lastText? {files : List (String × String)} {name text : String}
    (h : lastText? files name = some text) : (name, text) ∈ files := by
  obtain ⟨before, after, heq, _⟩ := List.lookup_eq_some_iff.mp h
  rw [← List.mem_reverse, heq]
  exact List.mem_append_right before List.mem_cons_self

theorem lastText?_eq_none_iff {files : List (String × String)} {name : String} :
    lastText? files name = none ↔ name ∉ files.map Prod.fst := by
  rw [lastText?, List.lookup_eq_none_iff, List.mem_map]
  simp only [List.mem_reverse, bne_iff_ne, ne_eq, not_exists, not_and]
  exact forall₂_congr fun _ _ => not_congr eq_comm

/-- Where each name is given once, its text is the last one. -/
theorem lastText?_of_nodup {files : List (String × String)} (h : (files.map Prod.fst).Nodup)
    {file : String × String} (hfile : file ∈ files) : lastText? files file.1 = some file.2 := by
  induction files with
  | nil => cases hfile
  | cons first rest ih =>
    rw [List.map_cons, List.nodup_cons] at h
    rw [lastText?_cons]
    rcases List.mem_cons.mp hfile with rfl | hfile
    · rw [lastText?_eq_none_iff.mpr h.1, Option.none_or, if_pos rfl]
    · rw [ih h.2 hfile, Option.some_or]

/-! ## Places of files -/

namespace FileTree

variable {t next : FileTree} {directory name text : String} {files : List (String × String)}
variable {names : List String}

/-- A file may only be where its path spells. -/
theorem eq_foldl_of_walk {here place : List String} {along : List String}
    (h : (t.walk here along).cleared = .vacant place) : place = along.foldl step here := by
  induction along generalizing here with
  | nil => cases h
  | cons name rest ih =>
    by_cases hpasses : t.Passes here name
    · rw [walk_of_passes hpasses] at h
      exact ih h
    · rw [cleared_walk_of_not_passes hpasses] at h
      split at h
      · cases h
      · cases rest with
        | nil =>
          cases h
          rfl
        | cons => cases h

theorem eq_resolve_of_find {path : String} {place : List String}
    (h : (t.find path).cleared = .vacant place) : place = resolve path := by
  unfold find at h
  split at h
  · cases h
  · exact eq_foldl_of_walk h

theorem componentsFrom_of_slash_not_mem {component cs : List Char} (h : '/' ∉ cs) :
    componentsFrom component cs = [String.ofList (component.reverse ++ cs)] := by
  induction cs generalizing component with
  | nil => rw [componentsFrom, List.append_nil]
  | cons c cs ih =>
    rw [List.mem_cons, not_or] at h
    rw [componentsFrom, if_neg (Ne.symm h.1), ih h.2, List.reverse_cons, List.append_assoc]
    rfl

theorem resolve_join (directory : String) (hname : IsComponent name) :
    resolve (Path.join directory name) = resolve directory ++ [name] := by
  have hhead : name.toList.head? ≠ some '/' := fun h => hname.slash_not_mem (List.mem_of_head? h)
  have hblank : ∀ here, step here "" = here := fun here => if_pos (.inl rfl)
  have hown : ∀ here, step here name = here ++ [name] := fun here => by
    rw [step, if_neg (not_or.mpr ⟨hname.ne_empty, hname.ne_here⟩), if_neg hname.ne_above]
    rfl
  obtain ⟨between, hroute, hdirectory⟩ := route_join directory hhead
  have hbetween : resolve directory = between.foldl step (route directory).1 := by
    rw [resolve]
    rcases hdirectory with h | h
    · rw [h]
    · rw [h, List.foldl_append, List.foldl_cons, List.foldl_nil, hblank]
  rw [hbetween, resolve, hroute, componentsFrom_of_slash_not_mem hname.slash_not_mem,
    List.reverse_nil, List.nil_append, String.ofList_toList, List.foldl_append, List.foldl_cons,
    List.foldl_nil, hown]

theorem eq_store_of_write (hname : IsComponent name)
    (h : t.write (Path.join directory name) text = .ok next) :
    next = t.store (resolve directory ++ [name]) text := by
  obtain ⟨place, hplace, rfl⟩ := write_eq_ok h
  rw [eq_resolve_of_find hplace, resolve_join directory hname]

/-! ## Texts after writing -/

theorem cleared_find_of_writeAll (h : t.writeAll directory files = (next, .ok names))
    {file : String × String} (hfile : file ∈ files) :
    ∃ place, (t.find (Path.join directory file.1)).cleared = .vacant place := by
  induction files generalizing t names with
  | nil => cases hfile
  | cons first rest ih =>
    obtain ⟨between, names', hwrite, hrest, _⟩ := writeAll_cons_eq_ok h
    rcases List.mem_cons.mp hfile with rfl | hfile
    · obtain ⟨place, hplace, _⟩ := write_eq_ok hwrite
      exact ⟨place, hplace⟩
    · obtain ⟨place, hplace⟩ := ih hrest hfile
      exact ⟨place, by rw [← (grows_write hwrite).cleared_find, hplace]⟩

variable (h : t.writeAll directory files = (next, .ok names))
variable (hnames : ∀ file ∈ files, IsComponent file.1)

include h hnames

/-- What stands under a name in the directory is what was written last under it. -/
theorem text?_writeAll (name : String) :
    next.text? (resolve directory ++ [name])
      = (lastText? files name).or (t.text? (resolve directory ++ [name])) := by
  induction files generalizing t names with
  | nil =>
    cases h
    rfl
  | cons file rest ih =>
    obtain ⟨between, names', hwrite, hrest, _⟩ := writeAll_cons_eq_ok h
    obtain ⟨hfile, hothers⟩ := List.forall_mem_cons.mp hnames
    rw [ih hrest hothers, eq_store_of_write hfile hwrite, text?_store, lastText?_cons,
      Option.or_assoc]
    congr 1
    by_cases hname : name = file.1
    · rw [if_pos (by rw [hname]), if_pos hname, Option.some_or]
    · rw [if_neg (by simpa using hname), if_neg hname, Option.none_or]

/-- What stands elsewhere is not changed. -/
theorem text?_writeAll_of_ne {place : List String}
    (hplace : ∀ file ∈ files, place ≠ resolve directory ++ [file.1]) :
    next.text? place = t.text? place := by
  induction files generalizing t names with
  | nil =>
    cases h
    rfl
  | cons file rest ih =>
    obtain ⟨between, names', hwrite, hrest, _⟩ := writeAll_cons_eq_ok h
    obtain ⟨hfile, hothers⟩ := List.forall_mem_cons.mp hnames
    obtain ⟨hne, helsewhere⟩ := List.forall_mem_cons.mp hplace
    rw [ih hrest hothers helsewhere, eq_store_of_write hfile hwrite, text?_store, if_neg hne]

/-- A file is read with the text that was written last in its place. -/
theorem read_of_lastText? (hlast : lastText? files name = some text) :
    next.read (Path.join directory name) = .ok text := by
  have hmem := mem_of_lastText? hlast
  obtain ⟨place, hplace⟩ := cleared_find_of_writeAll h hmem
  have htext : next.text? place = some text := by
    rw [eq_resolve_of_find hplace, resolve_join directory (hnames _ hmem),
      text?_writeAll h hnames name, hlast, Option.some_or]
  have hfind : next.find (Path.join directory name) = .file place :=
    find_eq_file_iff.mpr ⟨((grows_of_writeAll h).cleared_find _).trans hplace, by rw [htext]; rfl⟩
  rw [read, hfind]
  dsimp only
  rw [htext]

omit h hnames

/-- Files were put into a directory, and nothing else was changed. -/
structure Received (t next : FileTree) (directory : String) (files : List (String × String)) :
    Prop where
  directories_eq : next.directories = t.directories
  read_eq : ∀ file ∈ files, next.read (Path.join directory file.1) = .ok file.2
  text?_eq : ∀ place, (∀ file ∈ files, place ≠ resolve (Path.join directory file.1)) →
    next.text? place = t.text? place

theorem received_of_writeAll (h : t.writeAll directory files = (next, .ok names))
    (hnames : ∀ file ∈ files, IsComponent file.1) (hnodup : (files.map Prod.fst).Nodup) :
    t.Received next directory files where
  directories_eq := (grows_of_writeAll h).directories_eq
  read_eq file hfile := read_of_lastText? h hnames (lastText?_of_nodup hnodup hfile)
  text?_eq place hplace := text?_writeAll_of_ne h hnames fun file hfile => by
    rw [← resolve_join directory (hnames file hfile)]
    exact hplace file hfile

end FileTree

/-! ## The files of a header -/

/-- Writing into a directory leaves the stream as it is. -/
theorem Sinks.put_directory_eq_ok {s next : Sinks} {files : List (String × String)}
    {directory : String} {names : List String}
    (h : s.put files (.directory directory) = (next, .ok names)) :
    s.tree.writeAll directory files = (next.tree, .ok names) ∧ next.stream = s.stream := by
  obtain ⟨rfl, hnames⟩ := Prod.mk.inj h
  exact ⟨Prod.ext rfl hnames, rfl⟩

namespace Output

variable (out : Output) (pre filename source : String)

/-- The name of a helper file is the name of no module's file. -/
theorem append_helper_ne (stem stem' : String) : stem ++ ".hsc.helper.c" ≠ stem' ++ ".hsc" := by
  intro h
  have hlast := congrArg (fun s : String => s.toList.reverse[3]?) h
  simp [String.toList_append] at hlast

theorem map_fst_files :
    (out.files pre filename source).map Prod.fst
      = (Module.name filename ++ ".hsc")
        :: if out.helpers = [] then [] else [Module.name filename ++ ".hsc.helper.c"] := by
  have hname : Module.name filename ++ ".hsc" ++ ".helper.c"
      = Module.name filename ++ ".hsc.helper.c" := by
    rw [String.append_assoc]
    rfl
  unfold files
  cases out.helpers with
  | nil => rfl
  | cons => simp [hname]

theorem nodup_names : ((out.files pre filename source).map Prod.fst).Nodup := by
  rw [map_fst_files]
  split
  · exact List.nodup_singleton _
  · refine List.nodup_cons.mpr ⟨fun h => ?_, List.nodup_singleton _⟩
    exact append_helper_ne _ _ (List.mem_singleton.mp h).symm

theorem helperName_mem_names_iff :
    Module.name filename ++ ".hsc.helper.c" ∈ (out.files pre filename source).map Prod.fst
      ↔ out.helpers ≠ [] := by
  rw [map_fst_files, List.mem_cons, or_iff_right (append_helper_ne _ _)]
  by_cases hempty : out.helpers = [] <;> simp [hempty]

end Output

/-- What is written for a header can be read back.  A header that was read from C prints no line
break, so its files are cut into their parts at the line feeds.  And files that are written into a
directory hold in order the text that a stream is given instead of them, under the names that it gives
back, the helper file among them if there is a helper line, while everything else stays. -/
theorem files_readBack (text : List Char) (path pre filename source : String) {header : Header}
    (hread : C.read text path = .ok header) (hpre : '\n' ∉ pre.toList)
    (hfilename : '\n' ∉ filename.toList) :
    let out := header.bindings filename
    (∀ line ∈ out.bindingText ++ out.helperText, OneLine line) ∧
    Text.pieces (out.moduleText pre filename source)
      = Module.preamble pre filename
        ++ (Module.localIncludes source).map (Module.importLine pre)
        ++ out.bindingText ++ [""] ∧
    Text.pieces (out.helperFileText filename source)
      = ["#include <bindings.cmacros.h>", "#include <" ++ Path.baseName filename ++ ">"]
        ++ Module.localIncludes source ++ [""] ++ out.helperText ++ [""] ∧
    ∀ (products : Output) (pre filename source directory : String) (s next : Sinks)
      (names : List String),
      let files := products.files pre filename source
      products.write pre filename source (.directory directory) s = (next, .ok names) →
      names = files.map Prod.fst ∧ next.stream = s.stream ∧
      (∃ texts, names.map (fun name => next.tree.read (Path.join directory name))
          = texts.map .ok ∧
        ∀ t : Sinks, products.write pre filename source .stream t
          = ({ t with stream := t.stream ++ String.join texts }, .ok names)) ∧
      (Module.name filename ++ ".hsc.helper.c" ∈ names ↔ products.helpers ≠ []) ∧
      s.tree.Received next.tree directory files := by
  intro out
  obtain ⟨hlines, hhelpers⟩ := C.bindings_oneLine hread filename
  refine ⟨List.forall_mem_append.mpr ⟨hlines, hhelpers⟩,
    Output.pieces_moduleText source hpre hfilename hlines,
    Output.pieces_helperFileText source hfilename hhelpers, ?_⟩
  intro products pre filename source directory s next names files hput
  obtain ⟨hwritten, hstream⟩ := Sinks.put_directory_eq_ok hput
  have hcomponents : ∀ file ∈ files, FileTree.IsComponent file.1 := fun file hfile =>
    Output.isComponent_of_mem_files hfile
  have hreceived := FileTree.received_of_writeAll hwritten hcomponents
    (products.nodup_names pre filename source)
  have hnames : names = files.map Prod.fst := FileTree.names_of_writeAll hwritten
  refine ⟨hnames, hstream, ⟨files.map Prod.snd, ?_, fun t => ?_⟩, ?_, hreceived⟩
  · rw [hnames, List.map_map, List.map_map]
    exact List.map_congr_left hreceived.read_eq
  · rw [hnames]
    rfl
  · rw [hnames]
    exact products.helperName_mem_names_iff pre filename source

/-- An inline function in a header that includes another one. -/
theorem files_readBack_inlineFunction :
    let text := "static inline int twice(int x) \x7b return 2 * x; \x7d\n"
    let source := "#include \"sys/base.h\"\n" ++ text
    let start : Sinks := { tree := {} }
    ∃ header, C.read text.toList "t.h" = .ok header ∧
      let out := header.bindings "t.h"
      Text.pieces (out.moduleText "P" "t.h" source)
        = ["#include <bindings.dsl.h>", "#include <t.h>", "module P.T where", "#strict_import", "",
          "import P.Base", "#cinline twice , CInt -> IO (CInt)", ""] ∧
      Text.pieces (out.helperFileText "t.h" source)
        = ["#include <bindings.cmacros.h>", "#include <t.h>", "#include \"sys/base.h\"", "",
          "BC_INLINE1(twice, int, int)", ""] ∧
      ∃ next, out.write "P" "t.h" source (.directory ".") start
          = (next, .ok ["T.hsc", "T.hsc.helper.c"]) ∧
        (out.write "P" "t.h" source .stream start).2 = .ok ["T.hsc", "T.hsc.helper.c"] ∧
        start.tree.Received next.tree "." (out.files "P" "t.h" source) := by
  intro text source start
  let written (header : Header) :=
    (header.bindings "t.h").write "P" "t.h" source (.directory ".") start
  have hbindings : (C.read text.toList "t.h").toOption.map (fun header =>
        ((header.bindings "t.h").bindingText, (header.bindings "t.h").helperText,
          (written header).2))
      = some (["#cinline twice , CInt -> IO (CInt)"], ["BC_INLINE1(twice, int, int)"],
          .ok ["T.hsc", "T.hsc.helper.c"]) := by
    decide +kernel
  obtain ⟨header, hread, hprinted⟩ := C.exists_read_of_map hbindings
  obtain ⟨_, hmodule, hhelper, hfiles⟩ :=
    files_readBack text.toList "t.h" "P" "t.h" source hread (by decide) (by decide)
  simp only [Prod.mk.injEq] at hprinted
  obtain ⟨hbinding, hhelperText, hnames⟩ := hprinted
  rw [hbinding] at hmodule
  rw [hhelperText] at hhelper
  have hwritten : written header = ((written header).1, .ok ["T.hsc", "T.hsc.helper.c"]) :=
    Prod.ext rfl hnames
  obtain ⟨_, _, ⟨texts, _, hprint⟩, _, hreceived⟩ := hfiles _ _ _ _ _ _ _ _ hwritten
  exact ⟨header, hread, hmodule.trans (by decide +kernel), hhelper.trans (by decide +kernel),
    _, hwritten, congrArg Prod.snd (hprint start), hreceived⟩

end HeaderBindings
