import ExceptionStubs.FileTree
import ExceptionStubs.Proofs.Except
import ExceptionStubs.Proofs.OrderedMap
import Mathlib.Data.List.Perm.Basic
/-!
# Working below a place of a tree

What is done in a directory changes the tree at the place of the directory and nowhere else. So
every operation on an entry is stated as a replacement of the directory that holds it, and what such
a replacement means for the files of a tree, for what is found and for the names in it is said once.
-/

namespace ExceptionStubs

namespace OrderedMap

variable {κ α : Type} [DecidableEq κ]

theorem put_put (key : κ) (value value' : α) (entries : List (κ × α)) :
    put key value' (put key value entries) = put key value' entries := by
  induction entries with
  | nil => simp [put]
  | cons e rest ih =>
    obtain ⟨k, v⟩ := e
    by_cases h : k = key <;> simp [put, h, ih]

theorem mem_put {key : κ} {value : α} {entries : List (κ × α)} {e : κ × α}
    (h : e ∈ put key value entries) : e ∈ entries ∨ e = (key, value) := by
  induction entries with
  | nil => exact .inr (List.mem_singleton.1 h)
  | cons first rest ih =>
    obtain ⟨k, v⟩ := first
    rw [put] at h
    split at h
    · next same =>
      subst same
      rcases List.mem_cons.1 h with rfl | tail
      · exact .inr rfl
      · exact .inl (List.mem_cons_of_mem _ tail)
    · rcases List.mem_cons.1 h with rfl | tail
      · exact .inl List.mem_cons_self
      · exact (ih tail).imp_left (List.mem_cons_of_mem _)

theorem mem_of_find? {key : κ} {value : α} {entries : List (κ × α)}
    (h : find? key entries = some value) : (key, value) ∈ entries := by
  induction entries with
  | nil => cases h
  | cons first rest ih =>
    obtain ⟨k, v⟩ := first
    rw [find?] at h
    split at h
    · next same =>
      cases h
      exact same ▸ List.mem_cons_self
    · exact List.mem_cons_of_mem _ (ih h)

theorem find?_eq_none_iff {key : κ} {entries : List (κ × α)} :
    find? key entries = none ↔ key ∉ entries.map Prod.fst := by
  rw [← find?_isSome_iff, Bool.not_eq_true, Option.isSome_eq_false_iff, Option.isNone_iff_eq_none]

theorem put_append_of_notMem {key : κ} {value : α} {entries : List (κ × α)}
    (h : key ∉ entries.map Prod.fst) (rest : List (κ × α)) :
    put key value (entries ++ rest) = entries ++ put key value rest := by
  induction entries with
  | nil => rfl
  | cons first entries ih =>
    rw [List.map_cons, List.mem_cons, not_or] at h
    simp [put, Ne.symm h.1, ih h.2]

theorem find?_append (key : κ) (entries entries' : List (κ × α)) :
    find? key (entries ++ entries') = (find? key entries).or (find? key entries') := by
  induction entries with
  | nil => rfl
  | cons first rest ih =>
    obtain ⟨k, v⟩ := first
    by_cases h : k = key <;> simp [find?, h, ih]

end OrderedMap

namespace FileTree

/-! ## Replacing what stands at a place -/

def replace : FileTree → List String → FileTree → FileTree
  | _, [], new => new
  | file content, _ :: _, _ => file content
  | directory entries, name :: names, new =>
    match OrderedMap.find? name entries with
    | some t => directory (OrderedMap.put name (t.replace names new) entries)
    | none => directory entries

variable {t old : FileTree} {place : List String} {entries : List (String × FileTree)}

theorem find_cons_eq_ok {name : String} {names : List String} {found : FileTree} :
    t.find (name :: names) = .ok found ↔
      ∃ entries inner, t = directory entries ∧ OrderedMap.find? name entries = some inner ∧
        inner.find names = .ok found := by
  cases t with
  | file content => simp [find]
  | directory entries => cases h : OrderedMap.find? name entries <;> simp [find, h]

theorem find_append (place rest : List String) (t : FileTree) :
    t.find (place ++ rest) = t.find place >>= find rest := by
  induction place generalizing t with
  | nil => rfl
  | cons name names ih =>
    cases t with
    | file content => rfl
    | directory entries =>
      rw [List.cons_append, find, find]
      cases OrderedMap.find? name entries with
      | none => rfl
      | some inner => exact ih inner

theorem find_append_of_ok (h : t.find place = .ok old) (rest : List String) :
    t.find (place ++ rest) = old.find rest := by
  rw [find_append, h]
  rfl

theorem find_singleton (name : String) (entries : List (String × FileTree)) :
    (directory entries).find [name] =
      match OrderedMap.find? name entries with
      | some found => .ok found
      | none => .error .notFound := by
  rw [find]
  cases OrderedMap.find? name entries <;> rfl

theorem find_concat {name : String} {found : FileTree}
    (there : t.find place = .ok (directory entries))
    (first : OrderedMap.find? name entries = some found) :
    t.find (place ++ [name]) = .ok found := by
  rw [find_append_of_ok there, find_singleton, first]

theorem find_replace (h : t.find place = .ok old) (new : FileTree) :
    (t.replace place new).find place = .ok new := by
  induction place generalizing t with
  | nil => rfl
  | cons name names ih =>
    obtain ⟨entries, inner, rfl, found, rest⟩ := find_cons_eq_ok.1 h
    simp only [replace, found, find, OrderedMap.find?_put, if_true]
    exact ih rest

theorem replace_replace (h : t.find place = .ok old) (new new' : FileTree) :
    (t.replace place new).replace place new' = t.replace place new' := by
  induction place generalizing t with
  | nil => rfl
  | cons name names ih =>
    obtain ⟨entries, inner, rfl, found, rest⟩ := find_cons_eq_ok.1 h
    simp only [replace, found, OrderedMap.find?_put, if_true, OrderedMap.put_put, ih rest]

theorem replace_self (h : t.find place = .ok old) : t.replace place old = t := by
  induction place generalizing t with
  | nil =>
    cases h
    rfl
  | cons name names ih =>
    obtain ⟨entries, inner, rfl, found, rest⟩ := find_cons_eq_ok.1 h
    simp only [replace, found, ih rest, OrderedMap.put_of_find? found]

theorem replace_append (h : t.find place = .ok old) (rest : List String) (new : FileTree) :
    t.replace (place ++ rest) new = t.replace place (old.replace rest new) := by
  induction place generalizing t with
  | nil =>
    cases h
    rfl
  | cons name names ih =>
    obtain ⟨entries, inner, rfl, found, rest⟩ := find_cons_eq_ok.1 h
    simp only [List.cons_append, replace, found, ih rest]

theorem isDirectory_replace (h : t.find place = .ok old) {new : FileTree}
    (same : new.isDirectory = old.isDirectory) :
    (t.replace place new).isDirectory = t.isDirectory := by
  cases place with
  | nil =>
    cases h
    exact same
  | cons name names =>
    obtain ⟨entries, inner, rfl, found, rest⟩ := find_cons_eq_ok.1 h
    simp only [replace, found]
    rfl

/-- Putting an entry replaces its directory. -/
theorem put_concat (h : t.find place = .ok (directory entries)) {name : String}
    (room : ∀ found, OrderedMap.find? name entries = some found → found.isDirectory = false)
    (entry : FileTree) :
    put entry (place ++ [name]) t =
      .ok (t.replace place (directory (OrderedMap.put name entry entries))) := by
  induction place generalizing t with
  | nil =>
    cases h
    cases found : OrderedMap.find? name entries with
    | none => simp [put, found, replace]
    | some there =>
      have file := room there found
      cases there with
      | file content => simp [put, found, replace, bind, Except.bind, pure, Except.pure]
      | directory inner => cases file
  | cons first names ih =>
    obtain ⟨entries, inner, rfl, found, rest⟩ := find_cons_eq_ok.1 h
    simp only [List.cons_append, put, found, ih rest, replace]
    rfl

/-- Removing an entry replaces its directory. -/
theorem remove_concat (h : t.find place = .ok (directory entries)) (name : String) :
    t.remove (place ++ [name]) =
      t.replace place (directory (entries.filter (·.1 != name))) := by
  induction place generalizing t with
  | nil =>
    cases h
    rfl
  | cons first names ih =>
    obtain ⟨entries, inner, rfl, found, rest⟩ := find_cons_eq_ok.1 h
    obtain ⟨next, others, longer⟩ : ∃ next others, names ++ [name] = next :: others :=
      List.exists_cons_of_ne_nil (by simp)
    rw [List.cons_append, longer, remove]
    · simp only [found, replace, ← longer, ih rest]
    · simp

/-! ## Writing and moving a file -/

theorem find_last {name : String} {last : FileTree}
    (there : t.find place = .ok (directory (entries ++ [(name, last)])))
    (new : name ∉ entries.map Prod.fst) : t.find (place ++ [name]) = .ok last := by
  apply find_concat there
  rw [OrderedMap.find?_append, OrderedMap.find?_eq_none_iff.2 new]
  simp [OrderedMap.find?]

theorem append_last {name : String} {content : ByteArray}
    (there : t.find place = .ok (directory (entries ++ [(name, file content)])))
    (new : name ∉ entries.map Prod.fst) (chunk : ByteArray) :
    append chunk (place ++ [name]) t =
      .ok (t.replace place (directory (entries ++ [(name, file (content ++ chunk))]))) := by
  have room : ∀ found, OrderedMap.find? name (entries ++ [(name, file content)]) = some found →
      found.isDirectory = false := by
    intro found h
    rw [OrderedMap.find?_append, OrderedMap.find?_eq_none_iff.2 new] at h
    simp only [OrderedMap.find?, if_true, Option.none_or, Option.some.injEq] at h
    exact h ▸ rfl
  rw [append, find_last there new]
  simp only [bind, Except.bind, put_concat there room, OrderedMap.put_append_of_notMem new,
    OrderedMap.put, if_true]

/-- A file that is moved beside the others in its directory takes a new name there. -/
theorem move_last {source name : String} {content : ByteArray}
    (there : t.find place = .ok (directory (entries ++ [(source, file content)])))
    (newSource : source ∉ entries.map Prod.fst) (new : name ∉ entries.map Prod.fst)
    (other : name ≠ source) :
    t.move (place ++ [source]) (place ++ [name]) =
      .ok (t.replace place (directory (entries ++ [(name, file content)]))) := by
  have absent : name ∉ (entries ++ [(source, file content)]).map Prod.fst := by
    simpa [other] using new
  have room : ∀ found, OrderedMap.find? name (entries ++ [(source, file content)]) = some found →
      found.isDirectory = false := by
    intro found h
    rw [OrderedMap.find?_eq_none_iff.2 absent] at h
    cases h
  have others : entries.filter (·.1 != source) = entries := by
    rw [List.filter_eq_self]
    intro e mem
    exact bne_iff_ne.2 fun same => newSource (same ▸ List.mem_map_of_mem mem)
  rw [move, find_last there newSource]
  simp only [bind, Except.bind, pure, Except.pure, put_concat there room,
    OrderedMap.put_of_notMem absent]
  rw [remove_concat (find_replace there _), replace_replace there, List.filter_append,
    List.filter_append, others]
  simp [other]

/-! ## Files -/

def filedUnder (place : List String) (f : List String × ByteArray) : List String × ByteArray :=
  (place ++ f.1, f.2)

theorem filesOf_append (entries entries' : List (String × FileTree)) :
    filesOf (entries ++ entries') = filesOf entries ++ filesOf entries' := by
  induction entries with
  | nil => rfl
  | cons e rest ih => simp only [List.cons_append, filesOf, ih, List.append_assoc]

/-- The files of a directory are those of one entry and those of the others. -/
theorem filesOf_put {name : String} (h : OrderedMap.find? name entries = some t) :
    ∃ others, (filesOf entries).Perm (t.files.map (filedUnder [name]) ++ others) ∧
      ∀ new, (filesOf (OrderedMap.put name new entries)).Perm
        (new.files.map (filedUnder [name]) ++ others) := by
  induction entries with
  | nil => cases h
  | cons e rest ih =>
    obtain ⟨k, v⟩ := e
    by_cases same : k = name
    · subst same
      simp only [OrderedMap.find?, if_true, Option.some.injEq] at h
      subst h
      refine ⟨filesOf rest, .refl _, fun new => ?_⟩
      simp only [OrderedMap.put, if_true, filesOf]
      exact .refl _
    · simp only [OrderedMap.find?, same, if_false] at h
      obtain ⟨others, before, after⟩ := ih h
      have move (front : List (List String × ByteArray)) :
          (v.files.map (filedUnder [k]) ++ (front ++ others)).Perm
            (front ++ (v.files.map (filedUnder [k]) ++ others)) := by
        rw [← List.append_assoc, ← List.append_assoc]
        exact List.perm_append_comm.append_right _
      refine ⟨v.files.map (filedUnder [k]) ++ others, ?_, fun new => ?_⟩
      · exact (before.append_left _).trans (move _)
      · simp only [OrderedMap.put, same, if_false, filesOf]
        exact ((after new).append_left _).trans (move _)

/-- A replacement changes the files below its place and no others. -/
theorem files_replace (h : t.find place = .ok old) :
    ∃ others, t.files.Perm (old.files.map (filedUnder place) ++ others) ∧
      ∀ new, (t.replace place new).files.Perm (new.files.map (filedUnder place) ++ others) := by
  induction place generalizing t with
  | nil =>
    cases h
    have whole (t : FileTree) : t.files.map (filedUnder []) = t.files := List.map_id _
    refine ⟨[], ?_, fun new => ?_⟩
    · rw [whole, List.append_nil]
    · rw [whole, List.append_nil]
      rfl
  | cons name names ih =>
    obtain ⟨entries, inner, rfl, found, rest⟩ := find_cons_eq_ok.1 h
    obtain ⟨others, inside, insideNew⟩ := ih rest
    obtain ⟨beside, whole, wholeNew⟩ := filesOf_put found
    have nested (files : List (List String × ByteArray)) :
        (files.map (filedUnder names) ++ others).map (filedUnder [name]) ++ beside =
          files.map (filedUnder (name :: names)) ++ (others.map (filedUnder [name]) ++ beside) := by
      rw [List.map_append, List.map_map, List.append_assoc]
      rfl
    refine ⟨others.map (filedUnder [name]) ++ beside, ?_, fun new => ?_⟩
    · rw [← nested]
      exact whole.trans ((inside.map _).append_right _)
    · rw [← nested]
      simp only [replace, found, files]
      exact (wholeNew _).trans (((insideNew new).map _).append_right _)

theorem files_replace_perm (h : t.find place = .ok old) {new : FileTree}
    (same : new.files.Perm old.files) : (t.replace place new).files.Perm t.files := by
  obtain ⟨others, before, after⟩ := files_replace h
  exact (after new).trans (((same.map _).append_right _).trans before.symm)

/-- New entries of a directory bring their own files and leave all others. -/
theorem files_replace_append (h : t.find place = .ok (directory entries))
    (new : List (String × FileTree)) :
    (t.replace place (directory (entries ++ new))).files.Perm
      ((filesOf new).map (filedUnder place) ++ t.files) := by
  obtain ⟨others, before, after⟩ := files_replace h
  refine (after _).trans (.trans ?_ (before.symm.append_left _))
  rw [← List.append_assoc]
  refine .append_right _ ?_
  rw [files, files, filesOf_append, List.map_append]
  exact List.perm_append_comm

theorem mem_files_of_find {content : ByteArray} (h : t.find place = .ok (file content)) :
    (place, content) ∈ t.files := by
  obtain ⟨others, whole, -⟩ := files_replace h
  apply whole.symm.subset
  simp [files, filedUnder]

/-! ## What stays -/

/-- What is found in the first tree is found in the second as the same kind of thing. -/
def Grows (t t' : FileTree) : Prop :=
  ∀ place found, t.find place = .ok found →
    ∃ found', t'.find place = .ok found' ∧ found'.isDirectory = found.isDirectory

theorem Grows.refl (t : FileTree) : t.Grows t := fun _ found h => ⟨found, h, rfl⟩

theorem Grows.trans {t t' t'' : FileTree} (h : t.Grows t') (h' : t'.Grows t'') : t.Grows t'' := by
  intro place found there
  obtain ⟨found', there', same⟩ := h place found there
  obtain ⟨found'', there'', same'⟩ := h' place found' there'
  exact ⟨found'', there'', same'.trans same⟩

theorem Grows.isDirectory {t t' : FileTree} (h : t.Grows t') : t'.isDirectory = t.isDirectory := by
  obtain ⟨found, there, same⟩ := h [] t rfl
  cases there
  exact same

theorem grows_append (entries new : List (String × FileTree)) :
    (directory entries).Grows (directory (entries ++ new)) := by
  intro place found h
  cases place with
  | nil =>
    cases h
    exact ⟨_, rfl, rfl⟩
  | cons name names =>
    obtain ⟨_, inner, same, there, rest⟩ := find_cons_eq_ok.1 h
    cases same
    refine ⟨found, find_cons_eq_ok.2 ⟨_, inner, rfl, ?_, rest⟩, rfl⟩
    rw [OrderedMap.find?_append, there]
    rfl

theorem grows_replace (h : t.find place = .ok old) {new : FileTree} (grows : old.Grows new) :
    t.Grows (t.replace place new) := by
  induction place generalizing t with
  | nil =>
    cases h
    exact grows
  | cons name names ih =>
    obtain ⟨entries, inner, rfl, found, rest⟩ := find_cons_eq_ok.1 h
    simp only [replace, found]
    intro place found' there
    cases place with
    | nil =>
      cases there
      exact ⟨_, rfl, rfl⟩
    | cons first others =>
      obtain ⟨_, inner', same, at_first, below⟩ := find_cons_eq_ok.1 there
      cases same
      by_cases here : name = first
      · subst here
        obtain rfl := Option.some.inj (found.symm.trans at_first)
        obtain ⟨found'', there'', kind⟩ := ih rest _ _ below
        refine ⟨found'', find_cons_eq_ok.2 ⟨_, _, rfl, ?_, there''⟩, kind⟩
        rw [OrderedMap.find?_put, if_pos rfl]
      · refine ⟨found', find_cons_eq_ok.2 ⟨_, inner', rfl, ?_, below⟩, rfl⟩
        rw [OrderedMap.find?_put, if_neg here, at_first]

/-! ## Names of source files -/

def isSourceName (name : String) : Bool := ".java".toList.isSuffixOf name.toList

/-- The entries with names of source files are files, and all others are directories. -/
inductive Tidy : FileTree → Prop
  | file (content : ByteArray) : Tidy (file content)
  | directory {entries : List (String × FileTree)} (inner : ∀ e ∈ entries, e.2.Tidy)
    (named : ∀ e ∈ entries, e.2.isDirectory = !isSourceName e.1) : Tidy (directory entries)

namespace Tidy

theorem entry (h : (FileTree.directory entries).Tidy) {name : String} {found : FileTree}
    (there : OrderedMap.find? name entries = some found) :
    found.Tidy ∧ found.isDirectory = !isSourceName name := by
  cases h with
  | directory inner named =>
    have mem := OrderedMap.mem_of_find? there
    exact ⟨inner _ mem, named _ mem⟩

theorem put (h : (FileTree.directory entries).Tidy) {name : String} {new : FileTree}
    (tidy : new.Tidy)
    (kind : new.isDirectory = !isSourceName name) :
    (FileTree.directory (OrderedMap.put name new entries)).Tidy := by
  cases h with
  | directory inner named =>
    constructor
    · intro e mem
      rcases OrderedMap.mem_put mem with old | rfl
      · exact inner e old
      · exact tidy
    · intro e mem
      rcases OrderedMap.mem_put mem with old | rfl
      · exact named e old
      · exact kind

theorem find (h : t.Tidy) (there : t.find place = .ok old) : old.Tidy := by
  induction place generalizing t with
  | nil =>
    cases there
    exact h
  | cons name names ih =>
    obtain ⟨entries, inner, rfl, found, rest⟩ := find_cons_eq_ok.1 there
    exact ih (h.entry found).1 rest

theorem replace (h : t.Tidy) (there : t.find place = .ok old) {new : FileTree} (tidy : new.Tidy)
    (same : new.isDirectory = old.isDirectory) : (t.replace place new).Tidy := by
  induction place generalizing t with
  | nil => exact tidy
  | cons name names ih =>
    obtain ⟨entries, inner, rfl, found, rest⟩ := find_cons_eq_ok.1 there
    obtain ⟨inside, kind⟩ := h.entry found
    simp only [FileTree.replace, found]
    exact h.put (ih inside rest) ((isDirectory_replace rest same).trans kind)

theorem isDirectory_of_find (h : t.Tidy) {name : String}
    (there : t.find (place ++ [name]) = .ok old) : old.isDirectory = !isSourceName name := by
  rw [find_append] at there
  obtain ⟨above, found, below⟩ := bind_eq_ok.1 there
  obtain ⟨entries, inner, rfl, first, same⟩ := find_cons_eq_ok.1 below
  cases same
  exact ((h.find found).entry first).2

/-- What is found under the name of a source file is a file. -/
theorem mem_files (h : t.Tidy) {name : String} (source : isSourceName name = true)
    (there : t.find (place ++ [name]) = .ok old) : place ++ [name] ∈ t.files.map Prod.fst := by
  have kind := h.isDirectory_of_find there
  cases old with
  | file content => exact List.mem_map_of_mem (mem_files_of_find there)
  | directory entries => simp [source, isDirectory] at kind

end Tidy

end FileTree

end ExceptionStubs
