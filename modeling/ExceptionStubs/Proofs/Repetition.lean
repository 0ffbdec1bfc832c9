import ExceptionStubs.Proofs.Interleaving
import ExceptionStubs.Proofs.MemorySink
/-!
# Repeated runs

Behind a run every attempted target is on the shelf, whether the run has put it there or has found
it there. So the same run once more either writes the texts that are there already, or is refused
for every single target.
-/

namespace ExceptionStubs

theorem Shelf.admits_overwriting (shelf : Shelf) (target : String) :
    shelf.admits false target = true := rfl

theorem Shelf.admits_rejecting {shelf : Shelf} {target : String} :
    shelf.admits true target = false ↔ shelf.contains target = true := by
  simp [admits]

section Run

variable (snapshot : Snapshot) (options : GenerationOptions) (header : MetadataHeader)
  (rejectExisting : Bool) (phase : RunPhase) (shelf : Shelf)

theorem Snapshot.admitted_overwriting :
    snapshot.admitted options header false shelf = snapshot.attempts options header := by
  simp [admitted, Shelf.admits_overwriting]

/-- The attempts are written and failed in their own order. -/
theorem interleaved_attempts {report : RunReport} {answers : List Answer}
    (account : report.Accounts snapshot options header answers)
    (answered : answers.map Answer.artifact = snapshot.attempts options header) :
    Interleaved (report.artifacts.map ArtifactRecord.qualifiedName)
      (report.writeFailures.map WriteFailure.target)
      ((snapshot.attempts options header).map Artifact.qualifiedName) := by
  have split : ∀ a ∈ answers,
      (a.written?.map Artifact.qualifiedName = some a.artifact.qualifiedName ∧
          a.failure?.map WriteFailure.target = none) ∨
        (a.written?.map Artifact.qualifiedName = none ∧
          a.failure?.map WriteFailure.target = some a.artifact.qualifiedName) := by
    intro a _
    obtain ⟨written, failed⟩ | ⟨failure, written, failed, target⟩ := a.written?_or_failure?
    · exact .inl ⟨by rw [written]; rfl, by rw [failed]; rfl⟩
    · exact .inr ⟨by rw [written]; rfl, by rw [failed, ← target]; rfl⟩
  have merged := interleaved_filterMap split
  rw [account.artifacts, map_qualifiedName_records, account.writeFailures, List.map_filterMap,
    List.map_filterMap, ← answered, List.map_map, ← List.filterMap_eq_map]
  exact merged

/-- Behind a run over a shelf every attempted target is held. -/
theorem contains_of_mem_attempts {a : Artifact} (h : a ∈ snapshot.attempts options header) :
    (run snapshot.source options header (.memory rejectExisting) phase shelf).state.contains
      a.qualifiedName = true := by
  cases admitted : shelf.admits rejectExisting a.qualifiedName with
  | true =>
    have kept := get?_of_mem_admitted snapshot options header rejectExisting phase
      (List.mem_filter.2 ⟨h, admitted⟩)
    rw [OrderedMap.contains, kept]
    rfl
  | false =>
    have held : shelf.contains a.qualifiedName = true := by
      simp only [Shelf.admits, Bool.not_eq_false', Bool.and_eq_true] at admitted
      exact admitted.2
    obtain ⟨-, -, state, -, -⟩ := run_on_shelf snapshot options header rejectExisting phase shelf
    rw [state]
    exact OrderedMap.contains_insertAll held

/-- A text that a run finds is left alone if names that are held are rejected. -/
theorem get?_of_rejecting {name body : String} (h : shelf.get? name = some body) :
    (run snapshot.source options header (.memory true) phase shelf).state.get? name =
      some body := by
  obtain ⟨-, -, state, -, -⟩ := run_on_shelf snapshot options header true phase shelf
  have held : shelf.contains name = true := by rw [OrderedMap.contains, h]; rfl
  have other : name ∉ ((snapshot.admitted options header true shelf).map Artifact.entry).map
      Prod.fst := by
    rw [Artifact.map_fst_entry]
    intro mem
    obtain ⟨a, admitted, rfl⟩ := List.mem_map.1 mem
    have taken := (List.mem_filter.1 admitted).2
    rw [Shelf.admits_rejecting.2 held] at taken
    exact Bool.false_ne_true taken
  rw [state, OrderedMap.get?_insertAll_of_notMem other, h]

end Run

namespace Shelf

variable {shelf : Shelf} {artifacts : List Artifact}

/-- Artifacts that are all held are all refused if names that are held are rejected. -/
theorem refused_of_held (held : ∀ a ∈ artifacts, shelf.contains a.qualifiedName = true) :
    artifacts.filter (shelf.admits true ·.qualifiedName) = [] ∧
      (artifacts.map (shelf.answerTo true)).filterMap Answer.failure? =
        (artifacts.map Artifact.qualifiedName).map
          fun target => .sink target (.alreadyExists target) := by
  constructor
  · apply List.filter_eq_nil_iff.2
    intro a mem
    rw [admits_rejecting.2 (held a mem)]
    exact Bool.false_ne_true
  · have refused : (artifacts.map Artifact.qualifiedName).filter (!shelf.admits true ·) =
        artifacts.map Artifact.qualifiedName := by
      apply List.filter_eq_self.2
      intro target named
      obtain ⟨a, mem, rfl⟩ := List.mem_map.1 named
      rw [admits_rejecting.2 (held a mem)]
      rfl
    rw [failed_answerTo, refused]

end Shelf

/-- A run is repeated over the shelf that it has left. If names may be overwritten, the second run
leaves everything as it is and gives the same report. If they may not, neither run changes a text
that it finds; the second run leaves the shelf as it is and writes nothing, fails for exactly the
targets that the first one has written or failed for, in the order of the attempts, and reports
otherwise what the first one reports. -/
theorem repeated_run_settles (snapshot : Snapshot) (options : GenerationOptions)
    (header : MetadataHeader) (phase phase' : RunPhase) (shelf : Shelf) :
    let runOver rejectExisting := run snapshot.source options header (.memory rejectExisting)
    (∃ report,
      let first := runOver false phase shelf
      let second := runOver false phase' first.state
      first.result = .ok report ∧ second.result = .ok report ∧ second.state = first.state) ∧
    ∃ report again,
      let first := runOver true phase shelf
      let second := runOver true phase' first.state
      let targets := again.writeFailures.map WriteFailure.target
      first.result = .ok report ∧ second.result = .ok again ∧
        (∀ name body, shelf.get? name = some body → first.state.get? name = some body) ∧
        second.state = first.state ∧
        again.artifacts = [] ∧
        again.writeFailures = targets.map (fun target => .sink target (.alreadyExists target)) ∧
        targets = (snapshot.attempts options header).map Artifact.qualifiedName ∧
        Interleaved (report.artifacts.map ArtifactRecord.qualifiedName)
          (report.writeFailures.map WriteFailure.target) targets ∧
        again.claimed = report.claimed ∧ again.conflicts = report.conflicts ∧
        again.malformed = report.malformed ∧
        again.inputFingerprint = report.inputFingerprint := by
  intro runOver
  constructor
  · obtain ⟨report, result, state, artifacts, account⟩ :=
      run_on_shelf snapshot options header false phase shelf
    obtain ⟨again, result', state', artifacts', account'⟩ :=
      run_on_shelf snapshot options header false phase' (runOver false phase shelf).state
    rw [Snapshot.admitted_overwriting] at state state' artifacts artifacts'
    have distinct := snapshot.nodup_entries_admitted options header false shelf
    rw [Snapshot.admitted_overwriting] at distinct
    have same : again = report := by
      refine account'.eq account (artifacts'.trans artifacts.symm) ?_
        (account'.conflicts.trans account.conflicts.symm)
      rw [account'.writeFailures, account.writeFailures, Shelf.failed_answerTo,
        Shelf.failed_answerTo]
      simp only [Shelf.admits_overwriting]
    refine ⟨report, result, same ▸ result', ?_⟩
    calc (runOver false phase' (runOver false phase shelf).state).state
        = (runOver false phase shelf).state.insertAll _ := state'
      _ = (runOver false phase shelf).state := by
        rw [state]
        exact OrderedMap.insertAll_insertAll distinct shelf
  · obtain ⟨report, result, state, artifacts, account⟩ :=
      run_on_shelf snapshot options header true phase shelf
    obtain ⟨again, result', state', artifacts', account'⟩ :=
      run_on_shelf snapshot options header true phase' (runOver true phase shelf).state
    obtain ⟨none_admitted, refused⟩ := Shelf.refused_of_held fun _ =>
      contains_of_mem_attempts snapshot options header true phase shelf
    have admitted : snapshot.admitted options header true (runOver true phase shelf).state = [] :=
      none_admitted
    have failures := account'.writeFailures.trans refused
    have targets : again.writeFailures.map WriteFailure.target =
        (snapshot.attempts options header).map Artifact.qualifiedName := by
      rw [failures, List.map_map]
      exact List.map_id _
    refine ⟨report, again, result, result', fun _ _ => ?_, ?_, ?_, ?_, targets, ?_,
      account'.claimed.trans account.claimed.symm, account'.conflicts.trans account.conflicts.symm,
      account'.malformed.trans account.malformed.symm,
      account'.inputFingerprint.trans account.inputFingerprint.symm⟩
    · exact get?_of_rejecting snapshot options header phase shelf
    · rw [admitted] at state'
      exact state'
    · rw [artifacts', admitted]
      rfl
    · rw [targets]
      exact failures
    · rw [targets]
      refine interleaved_attempts snapshot options header account ?_
      rw [List.map_map]
      exact List.map_id _

end ExceptionStubs
