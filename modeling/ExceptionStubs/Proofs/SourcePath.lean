import ExceptionStubs.Proofs.Split
/-!
# Source paths

The path of a target goes through the directories of its package to a file that is named for its
class. Identifiers hold no slashes, so every part of that way is one component of the path and no
way leads out of the root. They hold no dots either and a file name does, so no way of a target is
the beginning of the way of another one.
-/

namespace ExceptionStubs

namespace Path

/-- A component that names an entry of a directory. -/
structure IsName (component : String) : Prop where
  nonempty : component ≠ ""
  dot : component ≠ "."
  dots : component ≠ ".."
  slash : '/' ∉ component.toList
  null : '\x00' ∉ component.toList

def isMeaningful (component : String) : Bool := !component.isEmpty && component != "."

theorem segments_eq (path : String) : segments path = (components path).filter isMeaningful := rfl

variable {path component : String}

theorem IsName.isMeaningful (h : IsName component) : isMeaningful component = true := by
  simp [Path.isMeaningful, h.nonempty, h.dot]

theorem isAbsolute_eq_false_of_slash (h : '/' ∉ component.toList) :
    isAbsolute component = false := by
  have ne : component.toList.head? ≠ some '/' := fun first => h (List.mem_of_head? first)
  simpa [isAbsolute] using ne

theorem push_of_slash (h : '/' ∉ component.toList) (path : String) :
    push path component = path ++ separator path ++ component := by
  rw [push, isAbsolute_eq_false_of_slash h, if_neg Bool.false_ne_true]

/-- Nothing but a slash is put behind a path, and only where components would run together. -/
theorem separator_cases (path : String) :
    path = "" ∧ separator path = "" ∨
      (∃ front, path.toList = front ++ ['/']) ∧ separator path = "" ∨ separator path = "/" := by
  unfold separator
  split
  · next joined =>
    rw [Bool.or_eq_true, String.isEmpty_iff, decide_eq_true_eq] at joined
    obtain empty | ends := joined
    · exact .inl ⟨empty, rfl⟩
    · exact .inr (.inl ⟨List.getLast?_eq_some_iff.1 ends, rfl⟩)
  · exact .inr (.inr rfl)

/-- A name that is pushed becomes the last component. -/
theorem components_push (h : '/' ∉ component.toList) (path : String) :
    ∃ front, components (push path component) = front ++ [component] ∧
      front.filter isMeaningful = segments path := by
  have alone : Text.splitChars '/' component.toList = [component.toList] :=
    Text.splitChars_of_notMem h
  rw [push_of_slash h]
  obtain ⟨rfl, none⟩ | ⟨⟨front, parts⟩, none⟩ | slash := separator_cases path
  · refine ⟨[], ?_, rfl⟩
    simp [components, Text.split, none, alone]
  · refine ⟨(Text.splitChars '/' front).map String.ofList, ?_, ?_⟩
    · simp [components, Text.split, String.toList_append, none, parts, Text.splitChars_append,
        alone]
    · rw [segments_eq, components, Text.split, parts, Text.splitChars_append]
      simp [Text.splitChars, isMeaningful]
  · refine ⟨components path, ?_, rfl⟩
    simp [components, Text.split, String.toList_append, slash, Text.splitChars_append, alone]

theorem segments_push (h : IsName component) (path : String) :
    segments (push path component) = segments path ++ [component] := by
  obtain ⟨front, components, meaningful⟩ := components_push h.slash path
  rw [segments_eq, components, List.filter_append, meaningful]
  simp [h.isMeaningful]

theorem push_ne_empty (h : IsName component) (path : String) : push path component ≠ "" := by
  rw [push_of_slash h.slash]
  simp [String.append_eq_empty_iff, h.nonempty]

theorem isAbsolute_push (h : IsName component) (path : String) :
    isAbsolute (push path component) = isAbsolute path := by
  rw [push_of_slash h.slash]
  by_cases empty : path = ""
  · rw [empty]
    exact isAbsolute_eq_false_of_slash (by simpa [separator] using h.slash)
  · obtain ⟨c, cs, chars⟩ : ∃ c cs, path.toList = c :: cs :=
      List.exists_cons_of_ne_nil (by simpa using empty)
    simp [isAbsolute, String.toList_append, chars]

theorem null_notMem_push (h : '\x00' ∉ path.toList) (name : IsName component) :
    '\x00' ∉ (push path component).toList := by
  rw [push_of_slash name.slash]
  obtain ⟨-, none⟩ | ⟨-, none⟩ | slash := separator_cases path <;>
    simp [String.toList_append, *, name.null]

/-- Behind a name stands a slash. -/
theorem separator_push (h : IsName component) (path : String) :
    separator (push path component) = "/" := by
  obtain ⟨front, last, chars⟩ : ∃ front last, component.toList = front ++ [last] := by
    obtain empty | parts := component.toList.eq_nil_or_concat'
    · exact absurd (String.toList_eq_nil_iff.1 empty) h.nonempty
    · exact parts
  have inner : last ≠ '/' := by
    rintro rfl
    exact h.slash (by simp [chars])
  have nonempty : (push path component).isEmpty = false := by simpa using push_ne_empty h path
  have ends : (push path component).toList.getLast? = some last := by
    rw [push_of_slash h.slash, String.toList_append, chars, ← List.append_assoc,
      List.getLast?_concat]
  simp [separator, nonempty, ends, inner]

/-- Names that are pushed onto a path one after the other stand behind it with slashes between
them. -/
theorem foldl_push_eq {name : String} {names : List String} (first : IsName name)
    (h : ∀ n ∈ names, IsName n) (path : String) :
    (name :: names).foldl push path =
      path ++ separator path ++ "/".intercalate (name :: names) := by
  induction names generalizing name path with
  | nil => simp [push_of_slash first.slash]
  | cons second names ih =>
    obtain ⟨next, rest⟩ := List.forall_mem_cons.1 h
    rw [List.foldl_cons, ih next rest, separator_push first, push_of_slash first.slash,
      String.intercalate_cons_cons]
    simp only [String.append_assoc]

/-- Names that are pushed onto a path extend its segments. -/
theorem segments_foldl_push {names : List String} (h : ∀ name ∈ names, IsName name)
    (path : String) : segments (names.foldl push path) = segments path ++ names := by
  induction names generalizing path with
  | nil => simp
  | cons name names ih =>
    rw [List.foldl_cons, ih fun n mem => h n (List.mem_cons_of_mem _ mem),
      segments_push (h name List.mem_cons_self), List.append_assoc, List.singleton_append]

/-- Names that are pushed onto a path change nothing about where it starts. -/
theorem isAbsolute_foldl_push {names : List String} (h : ∀ name ∈ names, IsName name)
    (path : String) : isAbsolute (names.foldl push path) = isAbsolute path := by
  induction names generalizing path with
  | nil => rfl
  | cons name names ih =>
    rw [List.foldl_cons, ih fun n mem => h n (List.mem_cons_of_mem _ mem),
      isAbsolute_push (h name List.mem_cons_self)]

/-- A path onto which names are pushed can still be asked for. -/
theorem foldl_push {names : List String} (h : ∀ name ∈ names, IsName name) {path : String}
    (nonempty : path ≠ "") (null : '\x00' ∉ path.toList) :
    names.foldl push path ≠ "" ∧ '\x00' ∉ (names.foldl push path).toList := by
  induction names generalizing path with
  | nil => exact ⟨nonempty, null⟩
  | cons name names ih =>
    have first := h name List.mem_cons_self
    exact ih (fun n mem => h n (List.mem_cons_of_mem _ mem)) (push_ne_empty first path)
      (null_notMem_push null first)

/-- A path that goes on behind another one by some components and starts where it starts. -/
structure Extends (root path : String) (components : List String) : Prop where
  text : path = root ++ separator root ++ "/".intercalate components
  absolute : isAbsolute path = isAbsolute root
  segments : segments path = segments root ++ components

theorem extends_foldl_push {names : List String} (nonempty : names ≠ [])
    (h : ∀ name ∈ names, IsName name) (root : String) :
    Extends root (names.foldl push root) names where
  text := by
    obtain ⟨name, rest, rfl⟩ := List.exists_cons_of_ne_nil nonempty
    obtain ⟨first, others⟩ := List.forall_mem_cons.1 h
    exact foldl_push_eq first others root
  absolute := isAbsolute_foldl_push h root
  segments := segments_foldl_push h root

end Path

namespace JavaName

theorem isName_of_isIdentifier {s : String} (h : isIdentifier s = true) : Path.IsName s where
  nonempty := ne_of_isIdentifier h (by decide)
  dot := ne_of_isIdentifier h (by decide)
  dots := ne_of_isIdentifier h (by decide)
  slash := notMem_of_isIdentifier h (by decide)
  null := notMem_of_isIdentifier h (by decide)

end JavaName

namespace Target

def place (package name : String) : List String := directories package ++ [fileName name]

theorem fileName_inj {name name' : String} : fileName name = fileName name' ↔ name = name' :=
  String.append_left_inj ".java"

theorem directories_inj {package package' : String} :
    directories package = directories package' ↔ package = package' := by
  constructor
  · intro h
    unfold directories at h
    cases empty : package.isEmpty <;> cases empty' : package'.isEmpty <;>
      simp only [empty, empty', if_true, Bool.false_eq_true, if_false] at h
    · exact Text.split_inj.1 h
    · exact absurd h (Text.split_ne_nil '.' package)
    · exact absurd h.symm (Text.split_ne_nil '.' package')
    · rw [String.isEmpty_iff.1 empty, String.isEmpty_iff.1 empty']
  · rintro rfl
    rfl

/-- Targets that differ have different places. -/
theorem place_inj {package name package' name' : String} :
    place package name = place package' name' ↔ package = package' ∧ name = name' := by
  unfold place
  rw [List.append_singleton_inj, directories_inj, fileName_inj]

theorem place_ne_nil (package name : String) : place package name ≠ [] :=
  List.append_ne_nil_of_right_ne_nil _ (List.cons_ne_nil _ [])

/-- Whatever is refused is refused as an invalid target under its qualified name. -/
theorem check_eq_ok_or_error (package name : String) :
    check package name = .ok () ∨ ∃ reason,
      check package name = .error (.invalidTarget (JavaName.qualify package name) reason) := by
  unfold check
  split
  · exact .inr ⟨_, rfl⟩
  · split
    · exact .inl rfl
    · split
      · exact .inr ⟨_, rfl⟩
      · exact .inl rfl

variable {package name : String}

theorem isIdentifier_of_mem_directories (valid : check package name = .ok ()) {segment : String}
    (h : segment ∈ directories package) : JavaName.isIdentifier segment = true := by
  have named := (check_eq_ok_iff.1 valid).2
  unfold directories at h
  cases empty : package.isEmpty with
  | true => simp [empty] at h
  | false =>
    simp only [JavaName.isPackageName, empty, Bool.false_or, JavaName.isQualifiedName,
      List.all_eq_true] at named
    exact named segment (by simpa [empty] using h)

theorem isName_fileName (valid : check package name = .ok ()) : Path.IsName (fileName name) := by
  have letters := JavaName.isName_of_isIdentifier (check_eq_ok_iff.1 valid).1
  have apart {text : String} (short : text.length < 5) : fileName name ≠ text := by
    rintro rfl
    have suffix : ".java".length = 5 := by decide
    rw [fileName, String.length_append, suffix] at short
    omega
  exact {
    nonempty := apart (by decide)
    dot := apart (by decide)
    dots := apart (by decide)
    slash := by simp [fileName, String.toList_append, letters.slash]
    null := by simp [fileName, String.toList_append, letters.null] }

theorem isName_of_mem_place (valid : check package name = .ok ()) {component : String}
    (h : component ∈ place package name) : Path.IsName component := by
  rcases List.mem_append.1 h with directory | file
  · exact JavaName.isName_of_isIdentifier (isIdentifier_of_mem_directories valid directory)
  · rw [List.mem_singleton.1 file]
    exact isName_fileName valid

theorem sourcePath_of_valid (valid : check package name = .ok ()) (root : String) :
    sourcePath root package name = .ok ((place package name).foldl Path.push root) := by
  rw [sourcePath, valid]
  rfl

theorem sourcePath_of_invalid {e : SinkError} (invalid : check package name = .error e)
    (root : String) : sourcePath root package name = .error e := by
  rw [sourcePath, invalid]
  rfl

theorem sourcePath_eq_ok_iff {root path : String} :
    sourcePath root package name = .ok path ↔
      check package name = .ok () ∧ path = (place package name).foldl Path.push root := by
  obtain valid | ⟨reason, invalid⟩ := check_eq_ok_or_error package name
  · rw [sourcePath_of_valid valid, Except.ok.injEq, eq_comm, and_iff_right valid]
  · simp [sourcePath_of_invalid invalid, invalid]

/-- The file of a target stands in no directory of another one, as directories have no dots in
their names. -/
theorem place_prefix {package' name' : String} (valid' : check package' name' = .ok ())
    {rest : List String} (h : place package' name' = place package name ++ rest) :
    rest = [] ∧ package = package' ∧ name = name' := by
  have dot : '.' ∈ (fileName name).toList := by simp [fileName, String.toList_append]
  obtain rfl | ⟨front, last, rfl⟩ := rest.eq_nil_or_concat'
  · rw [List.append_nil, place_inj] at h
    exact ⟨rfl, h.1.symm, h.2.symm⟩
  · rw [place, place, ← List.append_assoc, List.append_singleton_inj] at h
    have directory : fileName name ∈ directories package' := by simp [h.1]
    have identifier := isIdentifier_of_mem_directories valid' directory
    exact absurd dot (JavaName.dot_notMem_of_isIdentifier identifier)

end Target

/-- Source paths stay below the root and never meet. A target is either refused as invalid, by the
check and in the same words, or its path goes on from the root by the segments of its package and
the file name of its class, and each of them names an entry of the directory before. Targets whose
paths have the same segments are the same, and no path goes on behind the path of a target. -/
theorem source_paths_stay_apart (root : String) :
    (∀ package name,
      (∃ reason, let refused := .invalidTarget (JavaName.qualify package name) reason
        Target.check package name = .error refused ∧
        Target.sourcePath root package name = .error refused) ∨
      (Target.check package name = .ok () ∧
        ∃ path, Target.sourcePath root package name = .ok path ∧
          Path.Extends root path (Target.directories package ++ [name ++ ".java"]) ∧
          ∀ component ∈ Target.directories package ++ [name ++ ".java"], Path.IsName component)) ∧
    ∀ package name package' name' path path',
      Target.sourcePath root package name = .ok path →
      Target.sourcePath root package' name' = .ok path' →
      (Path.segments path' = Path.segments path → package = package' ∧ name = name') ∧
      ∀ rest ≠ [], Path.segments path' ≠ Path.segments path ++ rest := by
  have apart {package name package' name' path path' : String}
      (h : Target.sourcePath root package name = .ok path)
      (h' : Target.sourcePath root package' name' = .ok path') {rest : List String}
      (longer : Path.segments path' = Path.segments path ++ rest) :
      rest = [] ∧ package = package' ∧ name = name' := by
    obtain ⟨valid, rfl⟩ := Target.sourcePath_eq_ok_iff.1 h
    obtain ⟨valid', rfl⟩ := Target.sourcePath_eq_ok_iff.1 h'
    rw [Path.segments_foldl_push fun _ => Target.isName_of_mem_place valid,
      Path.segments_foldl_push fun _ => Target.isName_of_mem_place valid', List.append_assoc,
      List.append_right_inj] at longer
    exact Target.place_prefix valid' longer
  refine ⟨fun package name => ?_, fun package name package' name' path path' h h' => ⟨?_, ?_⟩⟩
  · obtain valid | ⟨reason, invalid⟩ := Target.check_eq_ok_or_error package name
    · have named : ∀ component ∈ Target.place package name, Path.IsName component :=
        fun _ => Target.isName_of_mem_place valid
      exact .inr ⟨valid, _, Target.sourcePath_of_valid valid root,
        Path.extends_foldl_push (Target.place_ne_nil package name) named root, named⟩
    · exact .inl ⟨reason, invalid, Target.sourcePath_of_invalid invalid root⟩
  · intro same
    exact (apart h h' (same.trans (List.append_nil _).symm)).2
  · intro rest nonempty longer
    exact nonempty (apart h h' longer).1

example : Target.sourcePath "out/" "com.acme" "Orders" = .ok "out/com/acme/Orders.java" := by
  decide +kernel

end ExceptionStubs
