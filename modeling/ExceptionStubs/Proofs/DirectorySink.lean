import ExceptionStubs.Proofs.Delivery
import ExceptionStubs.Proofs.FileSystem
import ExceptionStubs.Sink.Directory
/-!
# Deliveries into a directory

The sink in a directory makes the directories of a package, fills a temporary file and moves it to
its place. Below a root that leads to a tidy tree these steps come to putting one file where nothing
was: no target needs a directory where another has its file, because only source files have names
like theirs, and the temporary file is gone in the end.
-/

namespace ExceptionStubs

namespace FileTree

/-- The second tree has the files of the first one, and a directory behind a row of names. -/
structure Prepares (t t' : FileTree) (names : List String) : Prop where
  tidy : t'.Tidy
  grows : t.Grows t'
  files : t'.files.Perm t.files
  there : t'.HasDirectory names

theorem Prepares.trans {t t' t'' : FileTree} {names names' : List String}
    (h : t.Prepares t' names) (h' : t'.Prepares t'' names') : t.Prepares t'' names' where
  tidy := h'.tidy
  grows := h.grows.trans h'.grows
  files := h'.files.trans h.files
  there := h'.there

/-- What is prepared in an entry is prepared in its directory. -/
theorem Prepares.entry {entries : List (String × FileTree)} {name : String}
    {names : List String} {inner inner' : FileTree} (h : inner.Prepares inner' names)
    (tidy : (directory entries).Tidy) (found : OrderedMap.find? name entries = some inner) :
    (directory entries).Prepares ((directory entries).replace [name] inner') (name :: names) := by
  have there : (directory entries).find [name] = .ok inner := by rw [find_singleton, found]
  refine ⟨tidy.replace there h.tidy h.grows.isDirectory, grows_replace there h.grows,
    files_replace_perm there h.files, ?_⟩
  obtain ⟨entries', there'⟩ := h.there
  exact ⟨entries', (find_append_of_ok (find_replace there inner') names).trans there'⟩

/-- An empty directory brings no files. -/
theorem prepares_append {entries : List (String × FileTree)} {name : String}
    (tidy : (directory entries).Tidy) (new : name ∉ entries.map Prod.fst)
    (kind : isSourceName name = false) :
    (directory entries).Prepares (directory (entries ++ [(name, .empty)])) [name] where
  tidy := by
    rw [← OrderedMap.put_of_notMem new]
    exact tidy.put (.directory (by simp) (by simp)) (by rw [kind]; rfl)
  grows := grows_append _ _
  files := by
    rw [files, files, filesOf_append]
    simp [filesOf, files, empty]
  there := by
    refine ⟨[], ?_⟩
    rw [find_singleton, OrderedMap.find?_append, OrderedMap.find?_eq_none_iff.2 new]
    simp [OrderedMap.find?, empty]

end FileTree

namespace FileSystem

variable {fs : FileSystem} {place : List String}

def withTree (fs : FileSystem) (place : List String) (t : FileTree) : FileSystem :=
  { fs with tree := fs.tree.replace place t }

theorem withTree_concat {entries : List (String × FileTree)}
    (there : fs.tree.find place = .ok (.directory entries)) (name : String) (t : FileTree) :
    fs.withTree (place ++ [name]) t =
      fs.withTree place ((FileTree.directory entries).replace [name] t) := by
  simp only [withTree, FileTree.replace_append there]

theorem withTree_withEntries {found : FileTree} (there : fs.tree.find place = .ok found)
    (entries : List (String × FileTree)) (t : FileTree) :
    (fs.withEntries place entries).withTree place t = fs.withTree place t := by
  simp only [withTree, withEntries, FileTree.replace_replace there]

/-- In a tidy tree the directories of a package can be created. -/
theorem createFrom_names {names : List String} (unlimited : fs.limits = .unlimited)
    {t : FileTree} (found : fs.tree.find place = .ok t) (tidy : t.Tidy)
    (isDirectory : t.isDirectory = true)
    (named : ∀ name ∈ names, Path.IsName name ∧ FileTree.isSourceName name = false) :
    ∃ t', fs.createFrom place names = (.ok (), fs.withTree place t') ∧ t.Prepares t' names := by
  induction names generalizing fs place t with
  | nil =>
    cases t with
    | file content => cases isDirectory
    | directory entries =>
      refine ⟨.directory entries, ?_, tidy, .refl _, .refl _, entries, rfl⟩
      rw [withTree, FileTree.replace_self found]
      rfl
  | cons name names ih =>
    cases t with
    | file content => cases isDirectory
    | directory entries =>
      obtain ⟨isName, kind⟩ := named name List.mem_cons_self
      have follows : fs.follow place name = .ok (place ++ [name]) := by
        rw [follow_of_directory unlimited ⟨entries, found⟩, FileTree.step_of_isName isName]
      -- Where the first directory is there, the others are created in it.
      have enter (fs : FileSystem) {entries : List (String × FileTree)} {inner : FileTree}
          (unlimited : fs.limits = .unlimited)
          (there : fs.tree.find place = .ok (.directory entries))
          (tidy : (FileTree.directory entries).Tidy)
          (first : OrderedMap.find? name entries = some inner) :
          ∃ t', fs.createFrom (place ++ [name]) names = (.ok (), fs.withTree place t') ∧
            (FileTree.directory entries).Prepares t' (name :: names) := by
        obtain ⟨inside, isDirectory⟩ := tidy.entry first
        obtain ⟨inner', created, prepared⟩ := ih unlimited (FileTree.find_concat there first) inside
          (by rw [isDirectory, kind]; rfl) fun n mem => named n (List.mem_cons_of_mem _ mem)
        refine ⟨_, ?_, prepared.entry tidy first⟩
        rw [created, withTree_concat there]
      cases first : OrderedMap.find? name entries with
      | some inner =>
        have there : fs.tree.HasDirectory (place ++ [name]) := by
          obtain ⟨-, isDirectory⟩ := tidy.entry first
          cases inner with
          | file content => simp [kind, FileTree.isDirectory] at isDirectory
          | directory entries' => exact ⟨entries', FileTree.find_concat found first⟩
        obtain ⟨t', created, prepared⟩ := enter fs unlimited found tidy first
        exact ⟨t', (createFrom_cons_of_directory follows there names).trans created, prepared⟩
      | none =>
        have new := OrderedMap.find?_eq_none_iff.1 first
        have appended : (FileTree.directory entries).Prepares _ [name] :=
          FileTree.prepares_append tidy new kind
        have last : OrderedMap.find? name (entries ++ [(name, .empty)]) =
            some FileTree.empty := by
          rw [OrderedMap.find?_append, first]
          simp [OrderedMap.find?]
        obtain ⟨t', created, prepared⟩ :=
          enter (fs.withEntries place (entries ++ [(name, .empty)])) unlimited
            (find_withEntries found _) appended.tidy last
        refine ⟨t', ?_, appended.trans prepared⟩
        rw [createFrom_cons_of_absent follows found first, created, withTree_withEntries found]

/-- A path that leads through directories to an entry of the last one. -/
structure LeadsTo (fs : FileSystem) (path : String) (place : List String) (name : String) :
    Prop where
  leads : fs.tree.Leads (fs.start path) (Path.segments path).dropLast place
  last : ∃ front, Path.components path = front ++ [name]
  isName : Path.IsName name
  nonempty : path ≠ ""
  null : '\x00' ∉ path.toList

variable {path name : String}

theorem LeadsTo.withEntries (h : fs.LeadsTo path place name) {there : List String}
    {entries : List (String × FileTree)}
    (grows : fs.tree.Grows (fs.withEntries there entries).tree) :
    (fs.withEntries there entries).LeadsTo path place name :=
  { h with leads := h.leads.grows grows }

theorem checkPath_of_unlimited (unlimited : fs.limits = .unlimited)
    (null : '\x00' ∉ path.toList) : fs.checkPath path = .ok () := by
  have short : LengthLimits.exceeded fs.limits.path path = false := by
    rw [unlimited]
    rfl
  simp [checkPath, null, short]

theorem LeadsTo.resolve (h : fs.LeadsTo path place name) (unlimited : fs.limits = .unlimited) :
    fs.resolve path = .ok (place ++ [name]) := by
  obtain ⟨front, components⟩ := h.last
  have directories := h.leads
  rw [Path.segments_eq, components, List.filter_append, List.filter_singleton,
    h.isName.isMeaningful] at directories
  simp only [cond_true, List.dropLast_concat] at directories
  have walked := foldlM_follow_of_leads unlimited (FileTree.Leads.filter_iff.1 directories)
  have last : fs.follow place name = .ok (place ++ [name]) := by
    rw [follow_of_directory unlimited directories.reached, FileTree.step_of_isName h.isName]
  unfold FileSystem.resolve
  rw [checkPath_of_unlimited unlimited h.null, components, List.foldlM_append]
  simp [bind, Except.bind, h.nonempty, walked, last, pure, Except.pure]

end FileSystem

namespace TemporaryFile

theorem length_le_intercalate {names : List String} {name : String} (h : name ∈ names) :
    name.length ≤ ("".intercalate names).length := by
  induction names with
  | nil => cases h
  | cons first names ih =>
    cases names with
    | nil => simp [List.mem_singleton.1 h]
    | cons second names =>
      rw [String.intercalate_cons_cons, String.length_append, String.length_append]
      rcases List.mem_cons.1 h with rfl | tail
      · omega
      · have rest := ih tail
        omega

/-- The name of a temporary file is new. -/
theorem freshName_notMem (names : List String) : freshName names ∉ names := by
  intro mem
  have long := length_le_intercalate mem
  have mark : ".tmp".length = 4 := by decide
  rw [freshName, String.length_append, mark] at long
  omega

/-- No class is written to a file with a name like that of a temporary file. -/
theorem fileName_ne_freshName {package name : String} (valid : Target.check package name = .ok ())
    (names : List String) : Target.fileName name ≠ freshName names := by
  intro same
  have identifier := (Target.check_eq_ok_iff.1 valid).1
  have nonempty := (JavaName.isName_of_isIdentifier identifier).nonempty
  obtain ⟨c, cs, chars⟩ : ∃ c cs, name.toList = c :: cs :=
    List.exists_cons_of_ne_nil (by simpa using nonempty)
  have mark : ".tmp".toList = '.' :: "tmp".toList := by decide
  have first := congrArg (List.head? ∘ String.toList) same
  simp only [Function.comp_apply, Target.fileName, freshName, String.toList_append, chars, mark,
    List.cons_append, List.head?_cons, Option.some.injEq] at first
  exact JavaName.dot_notMem_of_isIdentifier identifier (by simp [chars, first])

end TemporaryFile

namespace Sink

variable {fs : FileSystem} {place : List String} {path name : String}
  {entries : List (String × FileTree)}

theorem create_temporaryFile (unlimited : fs.limits = .unlimited)
    (h : fs.LeadsTo path place name) (there : fs.tree.find place = .ok (.directory entries))
    (target : String) :
    TemporaryFile.create target path fs =
      .ok (⟨target, path, place ++ [TemporaryFile.freshName (entries.map Prod.fst)]⟩,
        fs.withEntries place
          (entries ++ [(TemporaryFile.freshName (entries.map Prod.fst), .file .empty)])) := by
  unfold TemporaryFile.create
  rw [FileSystem.foldlM_follow_of_leads unlimited h.leads]
  simp only [bind, Except.bind, there, FileTree.entryNames,
    FileSystem.update_put_new there (TemporaryFile.freshName_notMem _)]
  rfl

/-- A temporary file takes what is written and then becomes the file at the path. -/
theorem write_finish_temporaryFile (root : String) (overwrite : Bool)
    (unlimited : fs.limits = .unlimited) (h : fs.LeadsTo path place name)
    (there : fs.tree.find place = .ok (.directory entries)) {temporary : String}
    (fresh : temporary ∉ entries.map Prod.fst) (new : name ∉ entries.map Prod.fst)
    (other : name ≠ temporary) (target : String) (chunk : ByteArray) :
    let writer : TemporaryFile := ⟨target, path, place ++ [temporary]⟩
    let filled := fs.withEntries place (entries ++ [(temporary, .file chunk)])
    (directory root overwrite).write chunk writer
        (fs.withEntries place (entries ++ [(temporary, .file .empty)])) = (.ok writer, filled) ∧
      (directory root overwrite).finish writer filled =
        (.ok (), fs.withEntries place (entries ++ [(name, .file chunk)])) := by
  intro writer filled
  constructor
  · have there' := FileSystem.find_withEntries there (entries ++ [(temporary, .file .empty)])
    simp only [directory, writer, FileSystem.update_append_last there' fresh,
      FileSystem.withEntries_withEntries there, ByteArray.empty_append]
    rfl
  · have there' := FileSystem.find_withEntries there (entries ++ [(temporary, .file chunk)])
    have resolved : filled.resolve path = .ok (place ++ [name]) :=
      (h.withEntries (FileSystem.grows_withEntries there _)).resolve unlimited
    have moved := FileSystem.update_move_last there' fresh new other
    rw [FileSystem.withEntries_withEntries there] at moved
    simp only [directory, TemporaryFile.persist, writer, filled, resolved, bind, Except.bind, moved]

end Sink

namespace Target

variable {package name : String}

theorem isSourceName_fileName (name : String) : FileTree.isSourceName (fileName name) = true := by
  rw [FileTree.isSourceName, List.isSuffixOf_iff_suffix, fileName, String.toList_append]
  exact List.suffix_append _ _

/-- The directories of a package are named, but not like source files. -/
theorem named_directories (valid : check package name = .ok ()) :
    ∀ directory ∈ directories package,
      Path.IsName directory ∧ FileTree.isSourceName directory = false := by
  intro directory mem
  have identifier := isIdentifier_of_mem_directories valid mem
  refine ⟨JavaName.isName_of_isIdentifier identifier, ?_⟩
  rw [Bool.eq_false_iff]
  intro source
  have suffix := List.isSuffixOf_iff_suffix.1 source
  exact JavaName.dot_notMem_of_isIdentifier identifier (suffix.subset (by decide))

end Target

namespace Artifact

def place (a : Artifact) : List String := Target.place a.package a.name

def sourceFile (a : Artifact) : List String × ByteArray := (a.place, a.body.toUTF8)

theorem qualifiedName_eq_of_place {a b : Artifact} (h : a.place = b.place) :
    a.qualifiedName = b.qualifiedName := by
  obtain ⟨package, name⟩ := Target.place_inj.1 h
  rw [qualifiedName, qualifiedName, package, name]

end Artifact

/-- Artifacts with valid targets, no two the same, that have no files in the tree. -/
structure FileTree.Lacks (t : FileTree) (artifacts : List Artifact) : Prop where
  valid : ∀ a ∈ artifacts, Target.check a.package a.name = .ok ()
  distinct : (artifacts.map Artifact.qualifiedName).Nodup
  free : ∀ a ∈ artifacts, a.place ∉ t.files.map Prod.fst

/-- The file of the first artifact is not in the way of the others. -/
theorem FileTree.Lacks.tail {t t' : FileTree} {a : Artifact} {artifacts : List Artifact}
    (h : t.Lacks (a :: artifacts)) (files : t'.files.Perm (a.sourceFile :: t.files)) :
    t'.Lacks artifacts := by
  have distinct := h.distinct
  rw [List.map_cons, List.nodup_cons] at distinct
  refine ⟨fun b mem => h.valid b (List.mem_cons_of_mem _ mem), distinct.2, ?_⟩
  intro b mem taken
  rcases List.mem_cons.1 ((files.map Prod.fst).subset taken) with same | old
  · exact distinct.1 (Artifact.qualifiedName_eq_of_place same ▸ List.mem_map_of_mem mem)
  · exact h.free b (List.mem_cons_of_mem _ mem) old

namespace FileSystem

/-- The path of a root leads to a tidy tree. -/
structure Hosts (fs : FileSystem) (root : String) (place : List String) (t : FileTree) :
    Prop where
  unlimited : fs.limits = .unlimited
  nonempty : root ≠ ""
  null : '\x00' ∉ root.toList
  leads : fs.tree.Leads (fs.start root) (Path.segments root) place
  found : fs.tree.find place = .ok t
  tidy : t.Tidy

namespace Hosts

variable {fs : FileSystem} {root package name : String} {place : List String} {t t' : FileTree}

theorem withTree (h : fs.Hosts root place t) (tidy : t'.Tidy) (grows : t.Grows t') :
    (fs.withTree place t').Hosts root place t' where
  unlimited := h.unlimited
  nonempty := h.nonempty
  null := h.null
  leads := h.leads.grows (FileTree.grows_replace h.found grows)
  found := FileTree.find_replace h.found t'
  tidy := tidy

theorem isDirectory (h : fs.Hosts root place t) : t.isDirectory = true := by
  obtain ⟨entries, there⟩ := h.leads.reached
  obtain rfl := Except.ok.inj (h.found.symm.trans there)
  rfl

/-- The source path of a target goes on from the root. -/
theorem sourcePath (h : fs.Hosts root place t) (valid : Target.check package name = .ok ()) :
    let path := (Target.place package name).foldl Path.push root
    fs.start path = fs.start root ∧
      Path.segments path =
        Path.segments root ++ Target.directories package ++ [Target.fileName name] ∧
      (∃ front, Path.components path = front ++ [Target.fileName name]) ∧
      path ≠ "" ∧ '\x00' ∉ path.toList := by
  have named : ∀ component ∈ Target.place package name, Path.IsName component :=
    fun _ => Target.isName_of_mem_place valid
  obtain ⟨nonempty, null⟩ := Path.foldl_push named h.nonempty h.null
  refine ⟨by rw [start, start, Path.isAbsolute_foldl_push named], ?_, ?_, nonempty, null⟩
  · rw [Path.segments_foldl_push named, Target.place, List.append_assoc]
  · rw [Target.place, List.foldl_append]
    obtain ⟨front, components, -⟩ := Path.components_push (Target.isName_fileName valid).slash
      ((Target.directories package).foldl Path.push root)
    exact ⟨front, components⟩

/-- Where the directories of a package are there, the source path leads to them. -/
theorem leadsTo (h : fs.Hosts root place t) (valid : Target.check package name = .ok ())
    (there : t.HasDirectory (Target.directories package)) :
    fs.LeadsTo ((Target.place package name).foldl Path.push root)
      (place ++ Target.directories package) (Target.fileName name) := by
  obtain ⟨start, segments, components, nonempty, null⟩ := h.sourcePath valid
  obtain ⟨entries, there⟩ := there
  have onward : fs.tree.Leads place (Target.directories package)
      (place ++ Target.directories package) :=
    .of_names (fun directory mem => (Target.named_directories valid directory mem).1)
      ⟨entries, (FileTree.find_append_of_ok h.found _).trans there⟩
  refine ⟨?_, components, Target.isName_fileName valid, nonempty, null⟩
  rw [start, segments, List.dropLast_concat]
  exact h.leads.append onward

end Hosts

/-- Whatever a path resolves to is in a directory that the path leads to. -/
theorem leads_of_resolve {fs : FileSystem} {path name : String} {place front : List String}
    (h : fs.resolve path = .ok place) (last : Path.components path = front ++ [name])
    (isName : Path.IsName name) :
    ∃ parent, fs.tree.Leads (fs.start path) (Path.segments path).dropLast parent ∧
      place = parent ++ [name] := by
  unfold resolve at h
  obtain ⟨-, -, h⟩ := bind_eq_ok.1 h
  split at h
  · cases h
  · rw [last, List.foldlM_append] at h
    obtain ⟨parent, walked, h⟩ := bind_eq_ok.1 h
    rw [List.foldlM_cons] at h
    obtain ⟨next, follows, same⟩ := bind_eq_ok.1 h
    obtain rfl : next = place := Except.ok.inj same
    obtain ⟨there, rfl⟩ := follow_eq_ok follows
    refine ⟨parent, ?_, FileTree.step_of_isName isName parent⟩
    rw [Path.segments_eq, last, List.filter_append, List.filter_singleton, isName.isMeaningful]
    simp only [cond_true, List.dropLast_concat]
    exact FileTree.Leads.filter_iff.2 (leads_of_foldlM_follow walked there)

/-- Making the directories on the path of a root gives a file system in which the path leads to a
tidy tree. -/
structure Readies (fs : FileSystem) (root : String) (fs' : FileSystem) (place : List String)
    (t : FileTree) : Prop where
  made : fs.createFrom (fs.start root) (Path.segments root) = (.ok (), fs')
  hosts : fs'.Hosts root place t

theorem Hosts.readies {fs : FileSystem} {root : String} {place : List String} {t : FileTree}
    (h : fs.Hosts root place t) : fs.Readies root fs place t :=
  ⟨createFrom_of_leads h.unlimited h.leads, h⟩

namespace Readies

variable {fs fs' : FileSystem} {root package name : String} {place : List String}
  {t : FileTree}

theorem start_eq (h : fs.Readies root fs' place t) (path : String) :
    fs'.start path = fs.start path := by
  rw [start, start, (grows_createFrom h.made).2.1]

theorem unlimited (h : fs.Readies root fs' place t) : fs.limits = .unlimited :=
  (grows_createFrom h.made).2.2.symm.trans h.hosts.unlimited

/-- Nothing is there yet where a file is not among those below the root. -/
theorem hasPath_eq_false (h : fs.Readies root fs' place t)
    (valid : Target.check package name = .ok ())
    (free : Target.place package name ∉ t.files.map Prod.fst) :
    fs.hasPath ((Target.place package name).foldl Path.push root) = false := by
  obtain ⟨start, segments, ⟨front, components⟩, -, -⟩ := h.hosts.sourcePath valid
  unfold hasPath
  cases there : fs.find ((Target.place package name).foldl Path.push root) with
  | error failure => rfl
  | ok found =>
    obtain ⟨spot, resolved, spotted⟩ := bind_eq_ok.1 there
    obtain ⟨parent, leads, rfl⟩ :=
      leads_of_resolve resolved components (Target.isName_fileName valid)
    have grows := (grows_createFrom h.made).1
    -- The names behind the root lead to the same place in both file systems.
    have same : parent = place ++ Target.directories package := by
      rw [← h.start_eq, start, segments, List.dropLast_concat] at leads
      rw [leads.last_eq, List.foldl_append, ← h.hosts.leads.last_eq, FileTree.foldl_step]
      exact fun directory mem => (Target.named_directories valid directory mem).1
    obtain ⟨found', there', -⟩ := grows _ _ spotted
    rw [same, List.append_assoc, FileTree.find_append_of_ok h.hosts.found] at there'
    exact absurd (h.hosts.tidy.mem_files (Target.isSourceName_fileName name) there') free

/-- The directories of a target are made where the root is ready. -/
theorem createParent_eq (h : fs.Readies root fs' place t)
    (valid : Target.check package name = .ok ()) :
    ∃ t', fs.createParent ((Target.place package name).foldl Path.push root) =
        (.ok (), fs'.withTree place t') ∧ t.Prepares t' (Target.directories package) := by
  obtain ⟨start, segments, -, -, null⟩ := h.hosts.sourcePath valid
  obtain ⟨t', created, prepared⟩ := createFrom_names h.hosts.unlimited h.hosts.found h.hosts.tidy
    h.hosts.isDirectory (Target.named_directories valid)
  refine ⟨t', ?_, prepared⟩
  rw [createParent, checkPath_of_unlimited h.unlimited null]
  apply createAlong_of_createFrom
  have leads := h.hosts.leads
  rw [h.start_eq] at leads
  rw [← h.start_eq, start, segments, List.dropLast_concat, h.start_eq,
    createFrom_append h.made leads, created]

end Readies

end FileSystem

namespace FileTree

/-- A file that is put beside the entries of a prepared directory is the only new one. -/
theorem Prepares.withFile {t t' : FileTree} {names : List String}
    {entries : List (String × FileTree)} {name : String} (h : t.Prepares t' names)
    (there : t'.find names = .ok (directory entries))
    (new : name ∉ entries.map Prod.fst) (source : isSourceName name = true) (content : ByteArray) :
    let t'' := t'.replace names (directory (entries ++ [(name, file content)]))
    t''.Tidy ∧ t.Grows t'' ∧ t''.files.Perm ((names ++ [name], content) :: t.files) := by
  intro t''
  have appended : (directory (entries ++ [(name, file content)])).Tidy := by
    rw [← OrderedMap.put_of_notMem new]
    exact (h.tidy.find there).put (.file content) (by rw [source]; rfl)
  refine ⟨h.tidy.replace there appended rfl,
    h.grows.trans (grows_replace there (grows_append _ _)), ?_⟩
  refine (files_replace_append there _).trans ?_
  rw [filesOf, filesOf, FileTree.files]
  exact h.files.cons _

end FileTree

namespace Sink

variable {fs fs' : FileSystem} {root : String} {place : List String} {t : FileTree}

/-- A writer is opened where nothing is there, the directories can be made and a temporary file
can be created in them. -/
theorem openTarget_directory {package name : String} {fs'' : FileSystem} {writer : TemporaryFile}
    (overwrite : Bool) (valid : Target.check package name = .ok ())
    (absent : fs.hasPath ((Target.place package name).foldl Path.push root) = false)
    (made : fs.createParent ((Target.place package name).foldl Path.push root) = (.ok (), fs'))
    (created : TemporaryFile.create (JavaName.qualify package name)
      ((Target.place package name).foldl Path.push root) fs' = .ok (writer, fs'')) :
    (directory root overwrite).openTarget package name fs = (.ok writer, fs'') := by
  simp only [directory, Target.sourcePath_of_valid valid, absent, Bool.and_false,
    Bool.false_eq_true, if_false, made, created]

/-- Below a ready root, an artifact whose file is not there is delivered, and its file is the only
new one. -/
theorem deliver_directory (overwrite : Bool) (h : fs.Readies root fs' place t) {a : Artifact}
    (valid : Target.check a.package a.name = .ok ()) (free : a.place ∉ t.files.map Prod.fst) :
    ∃ t', ((directory root overwrite).deliver a fs).result = .ok () ∧
      ((directory root overwrite).deliver a fs).state.Hosts root place t' ∧
      t'.files.Perm (a.sourceFile :: t.files) := by
  obtain ⟨prepared, made, prepares⟩ := h.createParent_eq valid
  obtain ⟨entries, there⟩ := prepares.there
  have new : Target.fileName a.name ∉ entries.map Prod.fst := by
    intro mem
    obtain ⟨found, first⟩ := Option.isSome_iff_exists.1 (OrderedMap.find?_isSome_iff.2 mem)
    have listed := prepares.tidy.mem_files (Target.isSourceName_fileName a.name)
      (FileTree.find_concat there first)
    exact free ((prepares.files.map Prod.fst).subset listed)
  have hosts := h.hosts.withTree prepares.tidy prepares.grows
  have leadsTo := hosts.leadsTo valid prepares.there
  have there' := (FileTree.find_append_of_ok hosts.found _).trans there
  have fresh := TemporaryFile.freshName_notMem (entries.map Prod.fst)
  have other := TemporaryFile.fileName_ne_freshName valid (entries.map Prod.fst)
  have created := create_temporaryFile hosts.unlimited leadsTo there' a.qualifiedName
  have opened := openTarget_directory overwrite valid (h.hasPath_eq_false valid free) made created
  obtain ⟨written, finished⟩ := write_finish_temporaryFile root overwrite hosts.unlimited leadsTo
    there' fresh new other a.qualifiedName a.body.toUTF8
  have delivered : (directory root overwrite).deliver a fs =
      ⟨some (a.place.foldl Path.push root), .ok (),
        (fs'.withTree place prepared).withEntries (place ++ Target.directories a.package)
          (entries ++ [(Target.fileName a.name, .file a.body.toUTF8)])⟩ := by
    simp only [deliver, stream, opened, writeAll, written, finished, if_true]
    rfl
  obtain ⟨tidy, grows, files⟩ := prepares.withFile there new
    (Target.isSourceName_fileName a.name) a.body.toUTF8
  refine ⟨_, by rw [delivered], ?_, files⟩
  have state : (fs'.withTree place prepared).withEntries (place ++ Target.directories a.package)
      (entries ++ [(Target.fileName a.name, .file a.body.toUTF8)]) =
        fs'.withTree place (prepared.replace (Target.directories a.package)
          (.directory (entries ++ [(Target.fileName a.name, .file a.body.toUTF8)]))) := by
    simp only [FileSystem.withEntries, FileSystem.withTree,
      FileTree.replace_append (FileTree.find_replace h.hosts.found prepared),
      FileTree.replace_replace h.hosts.found]
  rw [delivered, state]
  exact h.hosts.withTree tidy grows

/-- Below a hosted root, artifacts that are new there are delivered, and their files are the only
new ones. -/
theorem deliverAll_directory (overwrite : Bool) {artifacts : List Artifact}
    (h : fs.Hosts root place t) (new : t.Lacks artifacts) :
    ∃ t', ((directory root overwrite).deliverAll artifacts fs).1 = artifacts.map .accepted ∧
      ((directory root overwrite).deliverAll artifacts fs).2.Hosts root place t' ∧
      t'.files.Perm (artifacts.map Artifact.sourceFile ++ t.files) := by
  induction artifacts generalizing fs t with
  | nil => exact ⟨t, rfl, h, .refl _⟩
  | cons a artifacts ih =>
    obtain ⟨first, result, hosts, files⟩ := deliver_directory overwrite h.readies
      (new.valid a List.mem_cons_self) (new.free a List.mem_cons_self)
    obtain ⟨t', answers, hosts', files'⟩ := ih hosts (new.tail files)
    rw [deliverAll_cons, answers, result]
    exact ⟨t', rfl, hosts', files'.trans ((files.append_left _).trans List.perm_middle)⟩

end Sink

end ExceptionStubs
