import ExceptionStubs.Program
import ExceptionStubs.Proofs.DirectorySink
import ExceptionStubs.Proofs.MemorySink
/-!
# A directory and a memory

A directory that is empty, or that is still to be made, takes every artifact of a run, as an empty
sink in memory does. So both runs end with the same report, and a dry run tells what would be
written. The path of a directory that is still to be made must not lead through directories that are
made inside of it: they could take the places of source files.
-/

namespace ExceptionStubs

namespace FileSystem

variable {fs fs' : FileSystem} {root : String} {place : List String} {t : FileTree}

theorem null_notMem_of_checkPath (h : fs.checkPath root = .ok ()) : '\x00' ∉ root.toList := by
  intro null
  simp [checkPath, null] at h

/-- A directory that is found is one that the path leads to. -/
theorem leads_of_find (h : fs.find root = .ok t) (isDirectory : t.isDirectory = true) :
    fs.checkPath root = .ok () ∧ root ≠ "" ∧
      ∃ place, fs.tree.Leads (fs.start root) (Path.segments root) place ∧
        fs.tree.find place = .ok t := by
  obtain ⟨place, resolved, found⟩ := bind_eq_ok.1 h
  unfold resolve at resolved
  obtain ⟨⟨⟩, checked, walked⟩ := bind_eq_ok.1 resolved
  split at walked
  · cases walked
  · next nonempty =>
    have there : fs.tree.HasDirectory place := by
      cases t with
      | file content => cases isDirectory
      | directory entries => exact ⟨entries, found⟩
    refine ⟨checked, by simpa using nonempty, place, ?_, found⟩
    exact FileTree.Leads.filter_iff.2 (leads_of_foldlM_follow walked there)

theorem Hosts.find (h : fs.Hosts root place t) : fs.find root = .ok t := by
  have walked := foldlM_follow_of_leads h.unlimited (FileTree.Leads.filter_iff.1 h.leads)
  have resolved : fs.resolve root = .ok place := by
    unfold resolve
    rw [checkPath_of_unlimited h.unlimited h.null]
    simp [bind, Except.bind, h.nonempty, walked]
  rw [FileSystem.find, resolved]
  exact h.found

/-- The files below a hosted root are those of its tree. -/
theorem Hosts.listing_perm (h : fs.Hosts root place t) :
    (fs.listing root).Perm (t.files.map fun f => (f.1.foldl Path.push root, f.2)) := by
  obtain ⟨entries, there⟩ := h.leads.reached
  obtain rfl := Except.ok.inj (h.found.symm.trans there)
  rw [listing, h.find]
  exact List.mergeSort_perm _ _

/-- There is no file below a ready root if its tree has none. -/
theorem Readies.listing_eq_nil (h : fs.Readies root fs' place t) (empty : t.files = []) :
    fs.listing root = [] := by
  unfold listing
  split
  · next entries there =>
    obtain ⟨-, -, place', leads, found⟩ := leads_of_find there rfl
    -- What is found there is what is made there.
    obtain rfl : fs = fs' := by
      have made := h.made
      rw [createFrom_of_leads h.unlimited leads] at made
      exact (Prod.ext_iff.1 made).2
    obtain rfl := leads.last_eq.trans h.hosts.leads.last_eq.symm
    obtain rfl := Except.ok.inj (found.symm.trans h.hosts.found)
    rw [FileTree.files] at empty
    rw [empty, List.map_nil, List.mergeSort_nil]
  · rfl

/-- The path leads to a directory, or one can be made behind it, and below that directory there is
no regular file and no directory with the name of a source file. -/
def IsCleared (fs : FileSystem) (root : String) : Prop :=
  ∃ fs' t, fs.createDirectories root = (.ok (), fs') ∧ fs'.find root = .ok t ∧
    t.isDirectory = true ∧ t.Tidy ∧ t.files = []

theorem IsCleared.readies (h : fs.IsCleared root) (unlimited : fs.limits = .unlimited) :
    ∃ fs' place t, fs.Readies root fs' place t ∧ t.files = [] := by
  obtain ⟨fs', t, created, there, isDirectory, tidy, empty⟩ := h
  obtain ⟨checked, nonempty, place, leads, found⟩ := leads_of_find there isDirectory
  have null := null_notMem_of_checkPath checked
  rw [createDirectories, checkPath_of_unlimited unlimited null] at created
  have made := createFrom_of_createAlong created
  have unlimited' := (grows_createFrom made).2.2.trans unlimited
  exact ⟨fs', place, t, ⟨made, unlimited', nonempty, null, leads, found, tidy⟩, empty⟩

/-- An empty directory is cleared. -/
theorem isCleared_of_empty (unlimited : fs.limits = .unlimited) (h : fs.find root = .ok .empty) :
    fs.IsCleared root := by
  obtain ⟨checked, -, place, leads, -⟩ := leads_of_find h rfl
  refine ⟨fs, .empty, ?_, h, rfl, .directory (by simp) (by simp), rfl⟩
  rw [createDirectories, checked]
  exact createAlong_of_createFrom (createFrom_of_leads unlimited leads)

/-- So is a path that leads nowhere yet, unless a component leads back. -/
theorem isCleared_of_absent (unlimited : fs.limits = .unlimited)
    (there : fs.tree.HasDirectory (fs.start root)) (nonempty : root ≠ "")
    (absent : fs.find root = .error .notFound) (onward : ".." ∉ Path.components root) :
    fs.IsCleared root := by
  have null : '\x00' ∉ root.toList := by
    intro null
    simp [FileSystem.find, resolve, checkPath, null, bind, Except.bind] at absent
  have checked := checkPath_of_unlimited unlimited null
  have missing : ((Path.components root).foldlM fs.follow (fs.start root) >>=
      fun last => fs.tree.find last) = .error .notFound := by
    simpa [FileSystem.find, resolve, checked, nonempty, bind, Except.bind] using absent
  obtain ⟨fs', place, made, leads, empty⟩ := createFrom_of_absent unlimited there missing onward
  obtain ⟨-, working, limits⟩ := grows_createFrom made
  have hosts : fs'.Hosts root place .empty := {
    unlimited := limits.trans unlimited
    nonempty := nonempty
    null := null
    leads := by
      rw [start, working]
      exact FileTree.Leads.filter_iff.2 leads
    found := empty
    tidy := .directory (by simp) (by simp) }
  refine ⟨fs', .empty, ?_, hosts.find, rfl, hosts.tidy, rfl⟩
  rw [createDirectories, checked]
  exact createAlong_of_createFrom made

end FileSystem

namespace Sink

variable {fs fs' : FileSystem} {root : String} {place : List String} {t : FileTree}

/-- Below a ready root without files, artifacts with different targets are delivered, and their
files are all there are. -/
theorem deliverAll_ready_directory (overwrite : Bool) {artifacts : List Artifact}
    (h : fs.Readies root fs' place t) (empty : t.files = []) (new : t.Lacks artifacts) :
    ((directory root overwrite).deliverAll artifacts fs).1 = artifacts.map .accepted ∧
      (((directory root overwrite).deliverAll artifacts fs).2.listing root).Perm
        (artifacts.map fun a => (a.place.foldl Path.push root, a.body.toUTF8)) := by
  cases artifacts with
  | nil => exact ⟨rfl, .of_eq (h.listing_eq_nil empty)⟩
  | cons a artifacts =>
    obtain ⟨first, result, hosts, files⟩ := deliver_directory overwrite h
      (new.valid a List.mem_cons_self) (new.free a List.mem_cons_self)
    obtain ⟨t', answers, hosts', files'⟩ := deliverAll_directory overwrite hosts (new.tail files)
    have all := files'.trans ((files.append_left _).trans List.perm_middle)
    rw [deliverAll_cons, answers, result]
    refine ⟨rfl, hosts'.listing_perm.trans ((all.map _).trans (.of_eq ?_))⟩
    simp [empty, Artifact.sourceFile]

end Sink

/-- The report that a dry run gives instead. -/
def RunReport.dry (report : RunReport) : RunReport := { report with dryRun := true }

section Run

variable {fs : FileSystem} {root : String} (unlimited : fs.limits = .unlimited)
  (cleared : fs.IsCleared root) (snapshot : Snapshot) (options : GenerationOptions)
  (header : MetadataHeader)

include unlimited cleared

/-- Below a cleared root all attempts of a run are delivered. -/
theorem Sink.deliverAll_attempts (overwrite : Bool) :
    let outcome :=
      (directory root overwrite).deliverAll (snapshot.attempts options header) fs
    outcome.1 = (snapshot.attempts options header).map .accepted ∧
      (outcome.2.listing root).Perm ((snapshot.attempts options header).map fun a =>
        (a.place.foldl Path.push root, a.body.toUTF8)) := by
  obtain ⟨fs', place, t, ready, empty⟩ := cleared.readies unlimited
  exact deliverAll_ready_directory overwrite ready empty {
    valid := fun _ => snapshot.check_of_mem_attempts options header
    distinct := snapshot.nodup_targets_attempts options header
    free := by simp [empty] }

/-- A run into a cleared directory ends like a run over an empty shelf. -/
theorem run_result_of_cleared (overwrite rejectExisting : Bool) (phase phase' : RunPhase) :
    (run snapshot.source options header (.directory root overwrite) phase fs).result =
      (run snapshot.source options header (.memory rejectExisting) phase' .empty).result := by
  obtain ⟨report, result, -, account⟩ :=
    run_account snapshot options header (.directory root overwrite) phase fs
  obtain ⟨report', result', -, -, account'⟩ :=
    run_on_shelf snapshot options header rejectExisting phase' .empty
  rw [(Sink.deliverAll_attempts unlimited cleared snapshot options header overwrite).1] at account
  have accepted : Shelf.answerTo rejectExisting .empty = Answer.accepted := by
    funext a
    simp [Shelf.answerTo, Shelf.answer, Answer.accepted]
  rw [accepted] at account'
  have same : report = report' := account.eq account'
    (account.artifacts.trans account'.artifacts.symm)
    (account.writeFailures.trans account'.writeFailures.symm)
    (account.conflicts.trans account'.conflicts.symm)
  rw [result, result', same]

/-- And it tells the same diagnostics. -/
theorem run_diagnostics_of_cleared (overwrite rejectExisting : Bool) (phase phase' : RunPhase) :
    RunEvent.diagnostics
        (run snapshot.source options header (.directory root overwrite) phase fs).events =
      RunEvent.diagnostics
        (run snapshot.source options header (.memory rejectExisting) phase' .empty).events := by
  have answers := (Sink.deliverAll_attempts unlimited cleared snapshot options header overwrite).1
  rw [run_diagnostics_on_shelf]
  apply run_diagnostics
  rw [answers]
  simp [Answer.accepted, Shelf.answer]

/-- A dry run reports what a run into a cleared output directory reports, apart from being dry. -/
theorem Settings.execute_of_cleared (s : Settings) (output : s.outputDir = root) :
    ({ s with dryRun := true }.execute header fs).result =
      ({ s with dryRun := false }.execute header fs).result.map RunReport.dry := by
  unfold execute
  cases Snapshot.load fs s.snapshot with
  | error e => rfl
  | ok snapshot =>
    have same := run_result_of_cleared unlimited cleared snapshot s.options header true false
      .idle .idle
    subst output
    exact congrArg (Except.map _) same.symm

end Run

/-- A run into a cleared directory and a run over an empty shelf end with the same report and tell
the same diagnostics. Behind them the files in the directory are those of the reported artifacts,
one for each at its source path, and their bytes are those of the texts on the shelf. So a dry run
reports what a run into a cleared output directory does, apart from being dry. -/
theorem cleared_directory_agrees_with_memory {fs : FileSystem} {root : String}
    (unlimited : fs.limits = .unlimited) (cleared : fs.IsCleared root) (snapshot : Snapshot)
    (options : GenerationOptions) (header : MetadataHeader) (overwrite rejectExisting : Bool)
    (phase : RunPhase) :
    (∃ report,
      let written := run snapshot.source options header (.directory root overwrite) phase fs
      let held := run snapshot.source options header (.memory rejectExisting) phase .empty
      written.result = .ok report ∧ held.result = .ok report ∧
        RunEvent.diagnostics written.events = RunEvent.diagnostics held.events ∧
        ((written.state.listing root).map fun f => (Except.ok f.1, some f.2)).Perm
          (report.artifacts.map fun a =>
            (Target.sourcePath root a.package a.name,
              (held.state.get? a.qualifiedName).map String.toUTF8))) ∧
      ∀ s : Settings, s.outputDir = root →
        ({ s with dryRun := true }.execute header fs).result =
          ({ s with dryRun := false }.execute header fs).result.map RunReport.dry := by
  refine ⟨?_, Settings.execute_of_cleared unlimited cleared header⟩
  obtain ⟨report, result, -, artifacts, -⟩ :=
    run_on_shelf snapshot options header rejectExisting phase .empty
  obtain ⟨-, -, state, -⟩ :=
    run_account snapshot options header (.directory root overwrite) phase fs
  have listed := (Sink.deliverAll_attempts unlimited cleared snapshot options header overwrite).2
  have admitted := snapshot.admitted_empty options header rejectExisting
  refine ⟨report,
    (run_result_of_cleared unlimited cleared snapshot options header _ _ _ _).trans result, result,
    run_diagnostics_of_cleared unlimited cleared snapshot options header _ _ _ _, ?_⟩
  rw [state, artifacts, admitted, List.map_map]
  refine (listed.map _).trans (.of_eq ?_)
  rw [List.map_map]
  refine List.map_congr_left fun a mem => ?_
  have path := Target.sourcePath_of_valid (snapshot.check_of_mem_attempts options header mem) root
  have body := get?_of_mem_admitted snapshot options header rejectExisting phase (admitted ▸ mem)
  exact Prod.ext path.symm (congrArg (Option.map String.toUTF8) body).symm

def Snapshot.boom : Snapshot where
  declarations := [{
    element := .interfaceType
    package := ""
    enclosing := none
    name := "Orders"
    returnType := none
    parameters := []
    marker := .type ⟨["Boom"], false⟩ }]

theorem missing_directory_agrees_on_boom :
    (FileSystem.empty .unlimited).IsCleared "out" ∧
      let header : MetadataHeader := ⟨⟨2024, 1, 1, 0, 0, 0⟩⟩
      let written := run Snapshot.boom.source .standard header (.directory "out" true) .idle
        (FileSystem.empty .unlimited)
      written.result =
          (run Snapshot.boom.source .standard header (.memory false) .idle .empty).result ∧
        (written.state.listing "out").map Prod.fst = ["out/Boom.java"] := by
  have cleared : (FileSystem.empty .unlimited).IsCleared "out" :=
    FileSystem.isCleared_of_absent rfl ⟨[], rfl⟩ (by decide) rfl (by decide)
  refine ⟨cleared, ?_⟩
  intro header written
  obtain ⟨⟨report, result, result', -, files⟩, -⟩ :=
    cleared_directory_agrees_with_memory rfl cleared .boom .standard header true false .idle
  obtain ⟨_, known, -, attempted, -⟩ := run_on_empty_shelf .boom .standard header false .idle
  obtain rfl := Except.ok.inj (result'.symm.trans known)
  refine ⟨result.trans result'.symm, ?_⟩
  have target : (Snapshot.boom.attempts .standard header).map
      (fun a => Target.sourcePath "out" a.package a.name) = [.ok "out/Boom.java"] := by
    decide +kernel
  have paths := files.map Prod.fst
  rw [attempted, List.map_map, List.map_map, List.map_map] at paths
  let ok : String → Except SinkError String := .ok
  have path : ((written.state.listing "out").map Prod.fst).map ok = ["out/Boom.java"].map ok := by
    rw [List.map_map]
    exact List.perm_singleton.1 (paths.trans (.of_eq target))
  exact (List.map_inj_right fun _ _ => Except.ok.inj).1 path

/-- The sinks disagree where the path leads back from a directory that takes the place of a file. -/
theorem directory_disagrees_behind_source_name :
    (FileSystem.empty .unlimited).find "out/Boom.java/.." = .error .notFound ∧
      let header : MetadataHeader := ⟨⟨2024, 1, 1, 0, 0, 0⟩⟩
      (run Snapshot.boom.source .standard header (.directory "out/Boom.java/.." true) .idle
          (FileSystem.empty .unlimited)).result ≠
        (run Snapshot.boom.source .standard header (.memory false) .idle .empty).result := by
  refine ⟨rfl, ?_⟩
  intro header same
  obtain ⟨report, result, -, attempted, -⟩ :=
    run_on_empty_shelf .boom .standard header false .idle
  have held : report.artifacts.length = 1 := by
    rw [attempted, List.length_map]
    decide +kernel
  have written : (run Snapshot.boom.source .standard header (.directory "out/Boom.java/.." true)
      .idle (FileSystem.empty .unlimited)).result.toOption.map (·.artifacts.length) = some 0 := by
    decide +kernel
  rw [same, result] at written
  simp [Except.toOption, held] at written

end ExceptionStubs
