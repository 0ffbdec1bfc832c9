import ExceptionStubs.FileSystem
import ExceptionStubs.Proofs.FileTree
import ExceptionStubs.Proofs.SourcePath
/-!
# Following paths

Where a path leads is fixed by its components as long as every one of them is asked for in a
directory. So a path that leads through directories goes on doing so when a tree grows, creating
what is there already changes nothing, and creating what is missing makes the path lead there.
-/

namespace ExceptionStubs

namespace FileTree

def HasDirectory (t : FileTree) (place : List String) : Prop :=
  ∃ entries, t.find place = .ok (directory entries)

theorem HasDirectory.grows {t t' : FileTree} {place : List String} (h : t.HasDirectory place)
    (grows : t.Grows t') : t'.HasDirectory place := by
  obtain ⟨entries, there⟩ := h
  obtain ⟨found, there', kind⟩ := grows _ _ there
  cases found with
  | file content => cases kind
  | directory entries' => exact ⟨entries', there'⟩

/-- Above what is found there are directories. -/
theorem hasDirectory_of_find_append {t found : FileTree} {place rest : List String}
    (longer : rest ≠ []) (h : t.find (place ++ rest) = .ok found) : t.HasDirectory place := by
  obtain ⟨name, names, rfl⟩ := List.exists_cons_of_ne_nil longer
  rw [find_append] at h
  obtain ⟨above, there, below⟩ := bind_eq_ok.1 h
  obtain ⟨entries, -, rfl, -, -⟩ := find_cons_eq_ok.1 below
  exact ⟨entries, there⟩

theorem HasDirectory.dropLast {t : FileTree} {place : List String} (h : t.HasDirectory place) :
    t.HasDirectory place.dropLast := by
  rcases place.eq_nil_or_concat with rfl | ⟨front, last, rfl⟩
  · exact h
  · obtain ⟨entries, there⟩ := h
    rw [List.concat_eq_append] at there ⊢
    rw [List.dropLast_concat]
    exact hasDirectory_of_find_append (List.cons_ne_nil _ _) there

def step (place : List String) (component : String) : List String :=
  if component.isEmpty || component == "." then place
  else if component == ".." then place.dropLast
  else place ++ [component]

theorem step_of_not_meaningful {component : String} (h : Path.isMeaningful component = false)
    (place : List String) : step place component = place := by
  rw [Path.isMeaningful, bne, ← Bool.not_or, Bool.not_eq_false'] at h
  rw [step, if_pos h]

theorem step_of_isName {component : String} (h : Path.IsName component) (place : List String) :
    step place component = place ++ [component] := by
  simp [step, h.nonempty, h.dot, h.dots]

theorem foldl_step {names : List String} (h : ∀ name ∈ names, Path.IsName name)
    (place : List String) : names.foldl step place = place ++ names := by
  induction names generalizing place with
  | nil => simp
  | cons name names ih =>
    rw [List.foldl_cons, step_of_isName (h name List.mem_cons_self),
      ih fun n mem => h n (List.mem_cons_of_mem _ mem), List.append_assoc, List.singleton_append]

/-- What a component leads to is there, unless it names an entry that is not. -/
theorem find_step {t : FileTree} {place : List String} {entries : List (String × FileTree)}
    (h : t.find place = .ok (directory entries)) (component : String) :
    (∃ found, t.find (step place component) = .ok found) ∨
      step place component = place ++ [component] ∧
        OrderedMap.find? component entries = none ∧
        t.find (step place component) = .error .notFound := by
  have there : t.HasDirectory place := ⟨entries, h⟩
  unfold step
  split
  · exact .inl ⟨_, h⟩
  · split
    · exact .inl ⟨_, there.dropLast.choose_spec⟩
    · rw [find_append_of_ok h, find_singleton]
      cases OrderedMap.find? component entries with
      | none => exact .inr ⟨rfl, rfl, rfl⟩
      | some found => exact .inl ⟨found, rfl⟩

/-- The components lead from one directory through directories to another. -/
inductive Leads (t : FileTree) : List String → List String → List String → Prop
  | nil {place : List String} (there : t.HasDirectory place) : Leads t place [] place
  | cons {place last components : List String} {component : String}
      (there : t.HasDirectory place) (rest : Leads t (step place component) components last) :
      Leads t place (component :: components) last

namespace Leads

variable {t : FileTree} {place middle last components components' : List String}

theorem first (h : t.Leads place components last) : t.HasDirectory place := by
  cases h with
  | nil there => exact there
  | cons there rest => exact there

theorem reached (h : t.Leads place components last) : t.HasDirectory last := by
  induction h with
  | nil there => exact there
  | cons there rest ih => exact ih

theorem grows (h : t.Leads place components last) {t' : FileTree} (grows : t.Grows t') :
    t'.Leads place components last := by
  induction h with
  | nil there => exact .nil (there.grows grows)
  | cons there rest ih => exact .cons (there.grows grows) ih

theorem append (h : t.Leads place components middle) (h' : t.Leads middle components' last) :
    t.Leads place (components ++ components') last := by
  induction h with
  | nil there => exact h'
  | cons there rest ih => exact .cons there (ih h')

theorem last_eq (h : t.Leads place components last) : last = components.foldl step place := by
  induction h with
  | nil there => rfl
  | cons there rest ih => exact ih

/-- Names lead to the directory behind them. -/
theorem of_names {names : List String} (named : ∀ name ∈ names, Path.IsName name)
    (there : t.HasDirectory (place ++ names)) : t.Leads place names (place ++ names) := by
  induction names generalizing place with
  | nil =>
    rw [List.append_nil] at there ⊢
    exact .nil there
  | cons name names ih =>
    obtain ⟨entries, found⟩ := there
    have above := hasDirectory_of_find_append (List.cons_ne_nil _ _) found
    rw [List.append_cons] at found ⊢
    refine .cons above ?_
    rw [step_of_isName (named name List.mem_cons_self)]
    exact ih (fun n mem => named n (List.mem_cons_of_mem _ mem)) ⟨entries, found⟩

/-- Components that mean nothing make no difference. -/
theorem filter_iff : t.Leads place (components.filter Path.isMeaningful) last ↔
    t.Leads place components last := by
  induction components generalizing place with
  | nil => rfl
  | cons component components ih =>
    cases meaningful : Path.isMeaningful component with
    | false =>
      have still := step_of_not_meaningful meaningful place
      rw [List.filter_cons_of_neg (by simp [meaningful]), ih]
      constructor
      · exact fun h => .cons h.first (still.symm ▸ h)
      · rintro (_ | ⟨there, rest⟩)
        exact still ▸ rest
    | true =>
      rw [List.filter_cons_of_pos meaningful]
      constructor
      · rintro (_ | ⟨there, rest⟩)
        exact .cons there (ih.1 rest)
      · rintro (_ | ⟨there, rest⟩)
        exact .cons there (ih.2 rest)

end Leads

end FileTree

namespace FileSystem

open FileTree (step)

variable {fs fs' : FileSystem} {place last components : List String} {component : String}

theorem follow_of_directory (unlimited : fs.limits = .unlimited)
    (h : fs.tree.HasDirectory place) (component : String) :
    fs.follow place component = .ok (step place component) := by
  obtain ⟨entries, there⟩ := h
  have short : LengthLimits.exceeded fs.limits.name component = false := by
    rw [unlimited]
    rfl
  unfold follow step
  rw [there]
  simp only [bind, Except.bind, short]
  split
  · rfl
  · split <;> rfl

theorem follow_eq_ok {next : List String} (h : fs.follow place component = .ok next) :
    fs.tree.HasDirectory place ∧ next = step place component := by
  unfold follow at h
  cases there : fs.tree.find place with
  | error failure =>
    rw [there] at h
    cases h
  | ok found =>
    rw [there] at h
    cases found with
    | file content => cases h
    | directory entries =>
      refine ⟨⟨entries, there⟩, ?_⟩
      simp only [bind, Except.bind] at h
      unfold step
      split at h
      · cases h
        rw [if_pos ‹_›]
      · rw [if_neg ‹_›]
        split at h
        · cases h
          rw [if_pos ‹_›]
        · rw [if_neg ‹_›]
          split at h <;> cases h
          rfl

theorem foldlM_follow_of_leads (unlimited : fs.limits = .unlimited)
    (h : fs.tree.Leads place components last) :
    components.foldlM fs.follow place = .ok last := by
  induction h with
  | nil there => rfl
  | cons there rest ih =>
    rw [List.foldlM_cons, follow_of_directory unlimited there]
    exact ih

theorem leads_of_foldlM_follow (h : components.foldlM fs.follow place = .ok last)
    (there : fs.tree.HasDirectory last) : fs.tree.Leads place components last := by
  induction components generalizing place with
  | nil =>
    cases h
    exact .nil there
  | cons component components ih =>
    rw [List.foldlM_cons] at h
    obtain ⟨next, first, rest⟩ := bind_eq_ok.1 h
    obtain ⟨there', rfl⟩ := follow_eq_ok first
    exact .cons there' (ih rest)

/-! ## Creating directories -/

def withEntries (fs : FileSystem) (place : List String) (entries : List (String × FileTree)) :
    FileSystem :=
  { fs with tree := fs.tree.replace place (.directory entries) }

theorem find_withEntries {found : FileTree} (there : fs.tree.find place = .ok found)
    (entries : List (String × FileTree)) :
    (fs.withEntries place entries).tree.find place = .ok (.directory entries) :=
  FileTree.find_replace there _

theorem withEntries_withEntries {found : FileTree} (there : fs.tree.find place = .ok found)
    (entries entries' : List (String × FileTree)) :
    (fs.withEntries place entries).withEntries place entries' = fs.withEntries place entries' := by
  simp only [withEntries, FileTree.replace_replace there]

/-- Putting an entry changes the entries of its directory. -/
theorem update_put {entries : List (String × FileTree)} {name : String}
    (there : fs.tree.find place = .ok (.directory entries))
    (room : ∀ found, OrderedMap.find? name entries = some found → found.isDirectory = false)
    (entry : FileTree) :
    fs.update (FileTree.put entry (place ++ [name]) fs.tree) =
      .ok (fs.withEntries place (OrderedMap.put name entry entries)) := by
  rw [FileTree.put_concat there room]
  rfl

/-- A new entry stands behind the others. -/
theorem update_put_new {entries : List (String × FileTree)} {name : String}
    (there : fs.tree.find place = .ok (.directory entries))
    (new : name ∉ entries.map Prod.fst) (entry : FileTree) :
    fs.update (FileTree.put entry (place ++ [name]) fs.tree) =
      .ok (fs.withEntries place (entries ++ [(name, entry)])) := by
  have room : ∀ found, OrderedMap.find? name entries = some found →
      found.isDirectory = false := by
    intro found h
    rw [OrderedMap.find?_eq_none_iff.2 new] at h
    cases h
  rw [update_put there room, OrderedMap.put_of_notMem new]

theorem update_append_last {entries : List (String × FileTree)} {name : String}
    {content : ByteArray}
    (there : fs.tree.find place = .ok (.directory (entries ++ [(name, .file content)])))
    (new : name ∉ entries.map Prod.fst) (chunk : ByteArray) :
    fs.update (FileTree.append chunk (place ++ [name]) fs.tree) =
      .ok (fs.withEntries place (entries ++ [(name, .file (content ++ chunk))])) := by
  rw [FileTree.append_last there new]
  rfl

theorem update_move_last {entries : List (String × FileTree)} {source name : String}
    {content : ByteArray}
    (there : fs.tree.find place = .ok (.directory (entries ++ [(source, .file content)])))
    (newSource : source ∉ entries.map Prod.fst) (new : name ∉ entries.map Prod.fst)
    (other : name ≠ source) :
    fs.update (fs.tree.move (place ++ [source]) (place ++ [name])) =
      .ok (fs.withEntries place (entries ++ [(name, .file content)])) := by
  rw [FileTree.move_last there newSource new other]
  rfl

/-- A component that leads to a directory is only followed. -/
theorem createFrom_cons_of_directory (follows : fs.follow place component = .ok last)
    (there : fs.tree.HasDirectory last) (components : List String) :
    fs.createFrom place (component :: components) = fs.createFrom last components := by
  obtain ⟨entries, there⟩ := there
  rw [createFrom, follows]
  simp only [there]

/-- A component that names no entry becomes a directory. -/
theorem createFrom_cons_of_absent {entries : List (String × FileTree)}
    (follows : fs.follow place component = .ok (place ++ [component]))
    (there : fs.tree.find place = .ok (.directory entries))
    (absent : OrderedMap.find? component entries = none) (components : List String) :
    fs.createFrom place (component :: components) =
      (fs.withEntries place (entries ++ [(component, .empty)])).createFrom
        (place ++ [component]) components := by
  have missing : fs.tree.find (place ++ [component]) = .error .notFound := by
    rw [FileTree.find_append_of_ok there, FileTree.find_singleton, absent]
  rw [createFrom, follows]
  simp only [missing, update_put_new there (OrderedMap.find?_eq_none_iff.1 absent)]

/-- What a successful creation does at its first component. -/
theorem createFrom_cons_eq_ok (h : fs.createFrom place (component :: components) = (.ok (), fs')) :
    fs.follow place component = .ok (step place component) ∧
      (fs.tree.HasDirectory (step place component) ∧
          fs.createFrom (step place component) components = (.ok (), fs') ∨
        fs.tree.find (step place component) = .error .notFound ∧
          ∃ entries, fs.tree.find place = .ok (.directory entries) ∧
            step place component = place ++ [component] ∧
            OrderedMap.find? component entries = none ∧
            (fs.withEntries place (entries ++ [(component, .empty)])).createFrom
              (step place component) components = (.ok (), fs')) := by
  cases follows : fs.follow place component with
  | error failure =>
    rw [createFrom, follows] at h
    cases h
  | ok next =>
    obtain ⟨⟨entries, there⟩, rfl⟩ := follow_eq_ok follows
    refine ⟨rfl, ?_⟩
    rcases FileTree.find_step there component with ⟨found, found_there⟩ | ⟨here, absent, missing⟩
    · cases found with
      | file content =>
        rw [createFrom, follows] at h
        simp [found_there] at h
      | directory entries' =>
        rw [createFrom_cons_of_directory follows ⟨entries', found_there⟩] at h
        exact .inl ⟨⟨entries', found_there⟩, h⟩
    · rw [here] at follows
      rw [createFrom_cons_of_absent follows there absent] at h
      exact .inr ⟨missing, entries, there, here, absent, here ▸ h⟩

theorem grows_withEntries {entries : List (String × FileTree)}
    (there : fs.tree.find place = .ok (.directory entries)) (new : List (String × FileTree)) :
    fs.tree.Grows (fs.withEntries place (entries ++ new)).tree :=
  FileTree.grows_replace there (FileTree.grows_append _ _)

/-- Creating directories keeps what is there. -/
theorem grows_createFrom (h : fs.createFrom place components = (.ok (), fs')) :
    fs.tree.Grows fs'.tree ∧ fs'.working = fs.working ∧ fs'.limits = fs.limits := by
  induction components generalizing fs place with
  | nil =>
    cases h
    exact ⟨.refl _, rfl, rfl⟩
  | cons component components ih =>
    obtain ⟨-, ⟨-, rest⟩ | ⟨-, entries, there, -, -, rest⟩⟩ := createFrom_cons_eq_ok h
    · exact ih rest
    · obtain ⟨grows, same⟩ := ih rest
      exact ⟨(grows_withEntries there _).trans grows, same⟩

/-- Directories that can be created lead through nothing that is no directory. -/
theorem createAlong_of_createFrom (h : fs.createFrom place components = (.ok (), fs')) :
    fs.createAlong place components = (.ok (), fs') := by
  have clear : (∃ last, components.foldlM fs.follow place = .ok last) ∨
      components.foldlM fs.follow place = .error .notFound := by
    induction components generalizing place with
    | nil => exact .inl ⟨place, rfl⟩
    | cons component components ih =>
      obtain ⟨follows, ⟨-, rest⟩ | ⟨missing, -⟩⟩ := createFrom_cons_eq_ok h
      · rw [List.foldlM_cons, follows]
        exact ih rest
      · rw [List.foldlM_cons, follows]
        cases components with
        | nil => exact .inl ⟨_, rfl⟩
        | cons next components =>
          right
          have stuck : fs.follow (step place component) next = .error .notFound := by
            rw [follow, missing]
            rfl
          simp only [bind, Except.bind, List.foldlM_cons, stuck]
  unfold createAlong
  rcases clear with ⟨last, walked⟩ | walked <;> rw [walked] <;> exact h

theorem createFrom_of_createAlong (h : fs.createAlong place components = (.ok (), fs')) :
    fs.createFrom place components = (.ok (), fs') := by
  unfold createAlong at h
  split at h
  · exact h
  · exact h
  · cases h

/-- Creating directories goes on from where the first of them lead. -/
theorem createFrom_append (h : fs.createFrom place components = (.ok (), fs'))
    (leads : fs'.tree.Leads place components last) (more : List String) :
    fs.createFrom place (components ++ more) = fs'.createFrom last more := by
  induction components generalizing fs place with
  | nil =>
    cases h
    cases leads
    rfl
  | cons component components ih =>
    obtain ⟨follows, ⟨there, rest⟩ | ⟨-, entries, there, here, absent, rest⟩⟩ :=
      createFrom_cons_eq_ok h
    all_goals
      have onward : fs'.tree.Leads (step place component) components last := by
        cases leads with
        | cons _ onward => exact onward
    · rw [List.cons_append, createFrom_cons_of_directory follows there]
      exact ih rest onward
    · rw [here] at follows onward rest
      rw [List.cons_append, createFrom_cons_of_absent follows there absent]
      exact ih rest onward

/-- Nothing is created where everything is there. -/
theorem createFrom_of_leads (unlimited : fs.limits = .unlimited)
    (h : fs.tree.Leads place components last) :
    fs.createFrom place components = (.ok (), fs) := by
  induction h with
  | nil there => rfl
  | cons there rest ih =>
    rw [createFrom_cons_of_directory (follow_of_directory unlimited there _) rest.first]
    exact ih

/-- A component that means something and does not lead back names an entry. -/
theorem step_of_isMeaningful (meaningful : Path.isMeaningful component = true)
    (onward : component ≠ "..") (place : List String) :
    step place component = place ++ [component] := by
  rw [Path.isMeaningful, bne, ← Bool.not_or, Bool.not_eq_true'] at meaningful
  simp [step, meaningful, onward]

/-- What is created behind a component that names no entry is created with its directory. -/
theorem createFrom_cons_of_missing (unlimited : fs.limits = .unlimited)
    {entries : List (String × FileTree)} (there : fs.tree.find place = .ok (.directory entries))
    (absent : OrderedMap.find? component entries = none)
    (here : step place component = place ++ [component])
    (created : (fs.withEntries place (entries ++ [(component, .empty)])).createFrom
      (place ++ [component]) components = (.ok (), fs')) :
    fs.createFrom place (component :: components) = (.ok (), fs') ∧
      fs'.tree.HasDirectory place := by
  have follows : fs.follow place component = .ok (place ++ [component]) := by
    rw [follow_of_directory unlimited ⟨_, there⟩, here]
  exact ⟨(createFrom_cons_of_absent follows there absent _).trans created,
    .grows ⟨_, find_withEntries there _⟩ (grows_createFrom created).1⟩

/-- In an empty directory everything can be created, and what the components lead to is empty. -/
theorem createFrom_of_empty (unlimited : fs.limits = .unlimited)
    (found : fs.tree.find place = .ok .empty)
    (named : ∀ component ∈ components, Path.isMeaningful component = true ∧ component ≠ "..") :
    ∃ fs' last, fs.createFrom place components = (.ok (), fs') ∧
      fs'.tree.Leads place components last ∧ fs'.tree.find last = .ok .empty := by
  induction components generalizing fs place with
  | nil => exact ⟨fs, place, rfl, .nil ⟨_, found⟩, found⟩
  | cons component components ih =>
    obtain ⟨meaningful, onward⟩ := named component List.mem_cons_self
    have here := step_of_isMeaningful meaningful onward place
    have inside := FileTree.find_last
      (find_withEntries found ([] ++ [(component, .empty)])) (by simp)
    have unlimited' : (fs.withEntries place ([] ++ [(component, .empty)])).limits = .unlimited :=
      unlimited
    obtain ⟨fs', last, created, leads, empty⟩ :=
      ih unlimited' inside fun c mem => named c (List.mem_cons_of_mem _ mem)
    obtain ⟨created, there⟩ := createFrom_cons_of_missing unlimited found rfl here created
    exact ⟨fs', last, created, .cons there (here ▸ leads), empty⟩

/-- A path that goes on behind a file fails, but not because anything is missing. -/
theorem walk_of_file {content : ByteArray} (there : fs.tree.find place = .ok (.file content))
    (components : List String) :
    (components.foldlM fs.follow place >>= fun last => fs.tree.find last) ≠ .error .notFound := by
  cases components with
  | nil =>
    intro missing
    have absent : fs.tree.find place = .error .notFound := missing
    rw [there] at absent
    cases absent
  | cons component components =>
    have stuck : fs.follow place component = .error .notADirectory := by
      rw [follow, there]
      rfl
    rw [List.foldlM_cons, stuck]
    rintro ⟨⟩

/-- Where nothing is found, the missing directories can be created unless a component leads back,
and what the components lead to then is empty. The induction goes along the part of the way that is
there. -/
theorem createFrom_of_absent (unlimited : fs.limits = .unlimited)
    (there : fs.tree.HasDirectory place)
    (absent : (components.foldlM fs.follow place >>= fun last => fs.tree.find last) =
      .error .notFound)
    (onward : ".." ∉ components) :
    ∃ fs' last, fs.createFrom place (components.filter Path.isMeaningful) = (.ok (), fs') ∧
      fs'.tree.Leads place components last ∧ fs'.tree.find last = .ok .empty := by
  induction components generalizing place with
  | nil =>
    obtain ⟨entries, there⟩ := there
    have missing : fs.tree.find place = .error .notFound := absent
    rw [there] at missing
    cases missing
  | cons component components ih =>
    obtain ⟨forward, onward⟩ := not_or.1 (List.mem_cons.not.1 onward)
    have follows := follow_of_directory unlimited there component
    rw [List.foldlM_cons, follows] at absent
    cases meaningful : Path.isMeaningful component with
    | false =>
      have still := FileTree.step_of_not_meaningful meaningful place
      obtain ⟨fs', last, created, leads, empty⟩ := ih there (still ▸ absent) onward
      rw [List.filter_cons_of_neg (by simp [meaningful])]
      exact ⟨fs', last, created, .cons leads.first (still.symm ▸ leads), empty⟩
    | true =>
      have here := step_of_isMeaningful meaningful (Ne.symm forward) place
      rw [here] at follows absent
      rw [List.filter_cons_of_pos meaningful]
      obtain ⟨entries, found⟩ := there
      cases first : OrderedMap.find? component entries with
      | none =>
        have inside := FileTree.find_last
          (find_withEntries found (entries ++ [(component, .empty)]))
          (OrderedMap.find?_eq_none_iff.1 first)
        have unlimited' : (fs.withEntries place (entries ++ [(component, .empty)])).limits =
            .unlimited := unlimited
        have named : ∀ c ∈ components.filter Path.isMeaningful,
            Path.isMeaningful c = true ∧ c ≠ ".." := by
          intro c mem
          refine ⟨(List.mem_filter.1 mem).2, ?_⟩
          rintro rfl
          exact onward (List.mem_of_mem_filter mem)
        obtain ⟨fs', last, created, leads, empty⟩ := createFrom_of_empty unlimited' inside named
        obtain ⟨created, there⟩ := createFrom_cons_of_missing unlimited found first here created
        have onward := FileTree.Leads.filter_iff.1 leads
        exact ⟨fs', last, created, .cons there (here ▸ onward), empty⟩
      | some inner =>
        have inside := FileTree.find_concat found first
        cases inner with
        | file content => exact absurd absent (walk_of_file inside components)
        | directory entries' =>
          obtain ⟨fs', last, created, leads, empty⟩ := ih ⟨_, inside⟩ absent onward
          have there' : fs'.tree.HasDirectory place :=
            FileTree.HasDirectory.grows ⟨_, found⟩ (grows_createFrom created).1
          refine ⟨fs', last, ?_, .cons there' (here ▸ leads), empty⟩
          rw [createFrom_cons_of_directory follows ⟨_, inside⟩, created]

end FileSystem

end ExceptionStubs
