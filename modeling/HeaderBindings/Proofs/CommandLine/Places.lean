/-
  What paths lead to while files are written.  Writing makes no directory and removes no file, so a
  path that leads to a directory or to a file still does, and a directory into which a file was
  written stays one: the checks of the paths before a run need not be made again within it.
-/
import HeaderBindings.FileTree
import HeaderBindings.Module.Text
import HeaderBindings.Proofs.Module.Names

namespace HeaderBindings

/-! ## Names of outputs -/

/-- The name of a module is a single component. -/
theorem Module.slash_not_mem_name (path : String) : '/' ∉ (name path).toList := by
  intro h
  have hbase := mem_baseName_of_mem_name (by decide) h
  rw [Path.baseName, String.toList_ofList] at hbase
  exact Path.slash_not_mem_baseNameChars _ hbase

/-- A name of its own: no separator stands in it, and it leads neither nowhere nor upward. -/
structure FileTree.IsComponent (name : String) : Prop where
  slash_not_mem : '/' ∉ name.toList
  ne_empty : name ≠ ""
  ne_here : name ≠ "."
  ne_above : name ≠ ".."

theorem FileTree.isComponent_append {stem extension : String} (hstem : '/' ∉ stem.toList)
    (hextension : '/' ∉ extension.toList) (hlong : 2 < extension.length) :
    IsComponent (stem ++ extension) := by
  have hlength : 2 < (stem ++ extension).length := by
    rw [String.length_append]
    omega
  have hne : ∀ short : String, short.length ≤ 2 → stem ++ extension ≠ short := by
    rintro short hshort rfl
    omega
  refine ⟨?_, hne "" (by decide), hne "." (by decide), hne ".." (by decide)⟩
  rw [String.toList_append, List.mem_append]
  exact not_or.mpr ⟨hstem, hextension⟩

/-- Every file of a header is named by a single component. -/
theorem Output.isComponent_of_mem_files {out : Output} {pre path source : String}
    {file : String × String} (h : file ∈ out.files pre path source) :
    FileTree.IsComponent file.1 := by
  have hmodule : FileTree.IsComponent (Module.name path ++ ".hsc") :=
    FileTree.isComponent_append (Module.slash_not_mem_name path) (by decide) (by decide)
  unfold Output.files at h
  rcases List.mem_cons.mp h with rfl | h
  · exact hmodule
  · split at h
    · cases h
    · rw [List.mem_singleton.mp h]
      exact FileTree.isComponent_append hmodule.slash_not_mem (by decide) (by decide)

/-- No file of a header has an absolute name. -/
theorem Output.head?_name_ne_slash {out : Output} {pre path source : String}
    {file : String × String} (h : file ∈ out.files pre path source) :
    file.1.toList.head? ≠ some '/' := fun hhead =>
  (isComponent_of_mem_files h).slash_not_mem (List.mem_of_head? hhead)

namespace FileTree

/-! ## Walks -/

theorem componentsFrom_ne_nil (component cs : List Char) : componentsFrom component cs ≠ [] := by
  induction cs generalizing component with
  | nil => simp [componentsFrom]
  | cons c cs ih =>
    rw [componentsFrom]
    split
    · simp
    · exact ih _

/-- A separator divides a path into the components before it and after it. -/
theorem componentsFrom_append (component cs ds : List Char) :
    componentsFrom component (cs ++ '/' :: ds)
      = componentsFrom component cs ++ componentsFrom [] ds := by
  induction cs generalizing component with
  | nil => simp [componentsFrom]
  | cons c cs ih =>
    rw [List.cons_append, componentsFrom, componentsFrom]
    split
    · rw [ih, List.cons_append]
    · exact ih _

/-- A place whatever files there are. -/
def Place.cleared : Place → Place
  | .file components => .vacant components
  | .notDirectory => .missing
  | place => place

theorem Place.cleared_eq_directory {place : Place} {components : List String} :
    place.cleared = .directory components ↔ place = .directory components := by
  cases place <;> simp [Place.cleared]

/-- A walk from `here` goes on after `name`. -/
def Passes (t : FileTree) (here : List String) (name : String) : Prop :=
  (step here name).length ≤ here.length
    ∨ name.utf8ByteSize ≤ 255 ∧ t.isDirectory (step here name) = true

variable {t next : FileTree} {here : List String} {name : String}

theorem walk_of_passes (h : t.Passes here name) (rest : List String) :
    t.walk here (name :: rest) = t.walk (step here name) rest := by
  rw [walk]
  rcases h with hback | ⟨hsize, hdirectory⟩
  · exact if_pos hback
  · rw [if_neg (Nat.not_lt.mpr hsize), if_pos hdirectory, ite_self]

theorem walk_of_not_passes (h : ¬ t.Passes here name) (rest : List String) :
    t.walk here (name :: rest)
      = if 255 < name.utf8ByteSize then .nameTooLong
        else if (t.text? (step here name)).isSome then
          if rest.isEmpty then .file (step here name) else .notDirectory
        else if rest.isEmpty then .vacant (step here name) else .missing := by
  rw [Passes, not_or, not_and] at h
  rw [walk, if_neg h.1]
  split
  · rfl
  · rename_i hsize
    rw [if_neg (h.2 (Nat.not_lt.mp hsize))]

theorem cleared_walk_of_not_passes (h : ¬ t.Passes here name) (rest : List String) :
    (t.walk here (name :: rest)).cleared
      = if 255 < name.utf8ByteSize then .nameTooLong
        else if rest.isEmpty then .vacant (step here name) else .missing := by
  rw [walk_of_not_passes h]
  split
  · rfl
  · cases rest.isEmpty <;> cases (t.text? (step here name)).isSome <;> rfl

/-- A walk on from a directory that a walk leads to. -/
theorem walk_append {names : List String} {place : List String}
    (h : t.walk here names = .directory place) (more : List String) :
    t.walk here (names ++ more) = t.walk place more := by
  induction names generalizing here with
  | nil =>
    cases h
    rfl
  | cons name rest ih =>
    by_cases hpasses : t.Passes here name
    · rw [walk_of_passes hpasses] at h
      rw [List.cons_append, walk_of_passes hpasses, ih h]
    · have hcleared := cleared_walk_of_not_passes hpasses rest
      rw [h] at hcleared
      split at hcleared
      · cases hcleared
      · split at hcleared <;> cases hcleared

/-- Only a directory leads further to where a file may be. -/
theorem exists_walk_eq_directory {names more place : List String} (hmore : more ≠ [])
    (h : (t.walk here (names ++ more)).cleared = .vacant place) :
    ∃ between, t.walk here names = .directory between := by
  induction names generalizing here with
  | nil => exact ⟨here, rfl⟩
  | cons name rest ih =>
    rw [List.cons_append] at h
    by_cases hpasses : t.Passes here name
    · rw [walk_of_passes hpasses] at h
      rw [walk_of_passes hpasses]
      exact ih h
    · rw [cleared_walk_of_not_passes hpasses] at h
      split at h
      · cases h
      · rw [if_neg (by simp [hmore])] at h
        cases h

/-- There is a file exactly where one may be and a text is. -/
theorem walk_eq_file_iff {names place : List String} :
    t.walk here names = .file place
      ↔ (t.walk here names).cleared = .vacant place ∧ (t.text? place).isSome = true := by
  induction names generalizing here with
  | nil => simp [walk, Place.cleared]
  | cons name rest ih =>
    by_cases hpasses : t.Passes here name
    · rw [walk_of_passes hpasses]
      exact ih
    · rw [cleared_walk_of_not_passes hpasses, walk_of_not_passes hpasses]
      split
      · simp
      · cases rest.isEmpty with
        | false => cases (t.text? (step here name)).isSome <;> simp
        | true =>
          cases htext : (t.text? (step here name)).isSome with
          | false =>
            refine iff_of_false (by simp) ?_
            rintro ⟨hvacant, hplace⟩
            rw [← Place.vacant.inj hvacant, htext] at hplace
            cases hplace
          | true =>
            refine ⟨fun h => ?_, fun h => ?_⟩
            · cases h
              exact ⟨rfl, htext⟩
            · cases h.1
              rfl

/-- Which files there are does not matter for where else a walk leads. -/
theorem cleared_walk_congr (h : next.directories = t.directories) (names : List String) :
    (next.walk here names).cleared = (t.walk here names).cleared := by
  have hpasses_iff : ∀ (here : List String) (name : String),
      next.Passes here name ↔ t.Passes here name := by
    intro here name
    rw [Passes, Passes, isDirectory, isDirectory, h]
  induction names generalizing here with
  | nil => rfl
  | cons name rest ih =>
    by_cases hpasses : t.Passes here name
    · rw [walk_of_passes hpasses, walk_of_passes ((hpasses_iff here name).mpr hpasses), ih]
    · rw [cleared_walk_of_not_passes hpasses,
        cleared_walk_of_not_passes (mt (hpasses_iff here name).mp hpasses)]

/-! ## Trees that grow -/

/-- `next` has the directories of `t` and keeps its files, maybe with other texts. -/
structure Grows (t next : FileTree) : Prop where
  directories_eq : next.directories = t.directories
  isSome_text? : ∀ place, (t.text? place).isSome = true → (next.text? place).isSome = true

theorem Grows.refl (t : FileTree) : t.Grows t := ⟨rfl, fun _ h => h⟩

theorem Grows.trans {last : FileTree} (h : t.Grows next) (h' : next.Grows last) : t.Grows last :=
  ⟨h'.directories_eq.trans h.directories_eq, fun place hplace =>
    h'.isSome_text? place (h.isSome_text? place hplace)⟩

theorem text?_store (t : FileTree) (place other : List String) (text : String) :
    (t.store place text).text? other = if other = place then some text else t.text? other :=
  Table.lookup_put place other text t.files

theorem grows_store (t : FileTree) (place : List String) (text : String) :
    t.Grows (t.store place text) := by
  refine ⟨rfl, fun other h => ?_⟩
  rw [text?_store]
  split
  · rfl
  · exact h

theorem Grows.cleared_find (h : t.Grows next) (path : String) :
    (next.find path).cleared = (t.find path).cleared := by
  unfold find
  split
  · rfl
  · exact cleared_walk_congr h.directories_eq _

theorem find_eq_file_iff {path : String} {place : List String} :
    t.find path = .file place
      ↔ (t.find path).cleared = .vacant place ∧ (t.text? place).isSome = true := by
  unfold find
  split
  · simp [Place.cleared]
  · exact walk_eq_file_iff

theorem Grows.find_eq_file (h : t.Grows next) {path : String} {place : List String}
    (hfind : t.find path = .file place) : next.find path = .file place := by
  rw [find_eq_file_iff] at hfind ⊢
  exact ⟨(h.cleared_find path).trans hfind.1, h.isSome_text? place hfind.2⟩

theorem Grows.find_eq_directory (h : t.Grows next) {path : String} {place : List String}
    (hfind : t.find path = .directory place) : next.find path = .directory place := by
  rw [← Place.cleared_eq_directory, h.cleared_find, hfind]
  rfl

/-! ## Writing -/

/-- A file is written where one may be. -/
theorem write_eq_ok {path text : String} (h : t.write path text = .ok next) :
    ∃ place, (t.find path).cleared = .vacant place ∧ next = t.store place text := by
  unfold write at h
  split at h
  · cases h
  · split at h <;> cases h
    · rename_i place hfind
      exact ⟨place, by rw [hfind]; rfl, rfl⟩
    · rename_i place hfind
      exact ⟨place, by rw [hfind]; rfl, rfl⟩

theorem grows_write {path text : String} (h : t.write path text = .ok next) : t.Grows next := by
  obtain ⟨place, _, rfl⟩ := write_eq_ok h
  exact t.grows_store place text

theorem grows_writeAll (t : FileTree) (directory : String) (files : List (String × String)) :
    t.Grows (t.writeAll directory files).1 := by
  induction files generalizing t with
  | nil => exact Grows.refl t
  | cons file rest ih =>
    rw [writeAll]
    split
    · exact Grows.refl t
    · rename_i next hwrite
      exact (grows_write hwrite).trans (ih next)

theorem grows_of_writeAll {directory : String} {files : List (String × String)}
    {result : Except FileFault (List String)} (h : t.writeAll directory files = (next, result)) :
    t.Grows next := by
  have hgrows := t.grows_writeAll directory files
  rwa [h] at hgrows

/-- A path that ends in a separator leads to the same directory. -/
theorem walk_append_blank {names place : List String} (h : t.walk here names = .directory place) :
    t.walk here (names ++ [""]) = .directory place := by
  have hpasses : t.Passes place "" := .inl (Nat.le_refl _)
  rw [walk_append h, walk_of_passes hpasses]
  rfl

theorem find_of_ne {path : String} (h : path ≠ "") :
    t.find path = t.walk (route path).1 (route path).2 := by
  rw [find, if_neg (by simpa using h)]

/-- A joined path goes on with the components of the name after those of the directory, without the
blank one that a separator at its end stands for. -/
theorem route_join (directory : String) {name : String} (hname : name.toList.head? ≠ some '/') :
    ∃ names, route (Path.join directory name)
        = ((route directory).1, names ++ componentsFrom [] name.toList) ∧
      ((route directory).2 = names ∨ (route directory).2 = names ++ [""]) := by
  rw [Path.join, if_neg hname]
  by_cases hempty : directory = ""
  · subst hempty
    refine ⟨[], ?_, .inr rfl⟩
    rw [route, if_neg (by simpa using hname)]
    simp [route]
  · obtain ⟨c, cs, hchars⟩ :=
      List.exists_cons_of_ne_nil (show directory.toList ≠ [] by simpa using hempty)
    have hstart : ∀ rest : String, (route (directory ++ rest)).1 = (route directory).1 := by
      intro rest
      rw [route, route, String.toList_append, hchars]
      rfl
    split
    · -- the directory ends in a separator, so its last component is blank
      rename_i hlast
      have hends : directory.toList.getLast? = some '/' := by simpa [hempty] using hlast
      obtain ⟨before, hbefore⟩ := List.getLast?_eq_some_iff.mp hends
      refine ⟨componentsFrom [] before, Prod.ext (hstart name) ?_, .inr ?_⟩
      · rw [route, String.toList_append, hbefore, List.append_assoc]
        exact componentsFrom_append ..
      · rw [route, hbefore, componentsFrom_append]
        rfl
    · refine ⟨(route directory).2, Prod.ext ?_ ?_, .inl rfl⟩
      · rw [String.append_assoc]
        exact hstart _
      · rw [route, String.toList_append, String.toList_append, List.append_assoc]
        exact componentsFrom_append ..

/-- Where a file may be below `directory`, the directory is there. -/
theorem exists_find_eq_directory {directory name : String} {place : List String}
    (hname : name.toList.head? ≠ some '/') (hdirectory : directory ≠ "")
    (h : (t.find (Path.join directory name)).cleared = .vacant place) :
    ∃ between, t.find directory = .directory between := by
  obtain ⟨names, hroute, hnames⟩ := route_join directory hname
  have hjoined : Path.join directory name ≠ "" := by
    intro hempty
    rw [find, hempty] at h
    cases h
  rw [find_of_ne hjoined, hroute] at h
  obtain ⟨between, hbetween⟩ := exists_walk_eq_directory (componentsFrom_ne_nil [] name.toList) h
  rw [find_of_ne hdirectory]
  rcases hnames with hnames | hnames
  · exact ⟨between, by rw [hnames]; exact hbetween⟩
  · exact ⟨between, by rw [hnames]; exact walk_append_blank hbetween⟩

/-- What a file is written into is a directory from then on, unless it is the empty path. -/
theorem Grows.find_ne_file_of_write {directory name text : String} {last : FileTree}
    (hlast : t.Grows last) (hname : name.toList.head? ≠ some '/')
    (h : t.write (Path.join directory name) text = .ok next) (place : List String) :
    last.find directory ≠ .file place := by
  obtain ⟨written, hcleared, _⟩ := write_eq_ok h
  by_cases hdirectory : directory = ""
  · simp [find, hdirectory]
  · obtain ⟨between, hfind⟩ := exists_find_eq_directory hname hdirectory hcleared
    simp [hlast.find_eq_directory hfind]

end FileTree

end HeaderBindings
