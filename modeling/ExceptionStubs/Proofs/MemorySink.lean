import ExceptionStubs.Proofs.Attempts
import ExceptionStubs.Proofs.Diagnostics
import ExceptionStubs.Proofs.OrderedMap
import ExceptionStubs.Sink.Memory
import Mathlib.Data.List.Nodup
/-!
# Runs over a sink in memory

The sink in memory either keeps the whole text of an artifact under its qualified name or refuses
it and stays as it is. So behind a run it holds what it held before, with the written artifacts
inserted in the order of the report.
-/

namespace ExceptionStubs

namespace Artifact

def entry (a : Artifact) : String × String := (a.qualifiedName, a.body)

theorem map_fst_entry (artifacts : List Artifact) :
    (artifacts.map entry).map Prod.fst = artifacts.map qualifiedName := by
  rw [List.map_map]
  rfl

end Artifact

namespace Shelf

/-- A sink that may reject the names it holds takes an artifact under this name. -/
def admits (rejectExisting : Bool) (shelf : Shelf) (target : String) : Bool :=
  !(rejectExisting && shelf.contains target)

def answer (rejectExisting : Bool) (shelf : Shelf) (target : String) : Except SinkError Unit :=
  if shelf.admits rejectExisting target then .ok () else .error (.alreadyExists target)

def answerTo (rejectExisting : Bool) (shelf : Shelf) (a : Artifact) : Answer :=
  ⟨a, shelf.answer rejectExisting a.qualifiedName⟩

@[simp] theorem admits_empty (rejectExisting : Bool) (target : String) :
    admits rejectExisting OrderedMap.empty target = true := by
  cases rejectExisting <;> rfl

theorem answer_insert_of_ne {rejectExisting : Bool} {shelf : Shelf} {target name body : String}
    (h : target ≠ name) :
    answer rejectExisting (shelf.insert name body) target = shelf.answer rejectExisting target := by
  unfold answer admits OrderedMap.contains
  rw [OrderedMap.get?_insert, if_neg h.symm]

end Shelf

namespace Sink

theorem fromUTF8?_toUTF8 (s : String) : String.fromUTF8? s.toUTF8 = some s := by
  have valid : s.toUTF8.IsValidUTF8 := s.isValidUTF8
  rw [String.fromUTF8?, dif_pos valid]
  rfl

/-- An artifact with a valid target is kept if its name is admitted, and nothing changes
otherwise. -/
theorem deliver_memory_of_valid {rejectExisting : Bool} {a : Artifact} {shelf : Shelf}
    (valid : Target.check a.package a.name = .ok ()) :
    (memory rejectExisting).deliver a shelf =
      ⟨none, shelf.answer rejectExisting a.qualifiedName,
        if shelf.admits rejectExisting a.qualifiedName then shelf.insert a.qualifiedName a.body
        else shelf⟩ := by
  unfold Artifact.qualifiedName Shelf.answer Shelf.admits
  cases held : rejectExisting && shelf.contains (JavaName.qualify a.package a.name) with
  | false =>
    simp only [deliver, stream, memory, writeAll, valid, held, Bool.false_eq_true, if_false,
      if_true, ByteArray.empty_append, fromUTF8?_toUTF8, Bool.not_false]
  | true =>
    simp only [deliver, stream, memory, valid, held, if_true, Bool.not_true, Bool.false_eq_true,
      if_false]

theorem deliver_memory (rejectExisting : Bool) (a : Artifact) (shelf : Shelf) :
    (memory rejectExisting).deliver a shelf =
        ⟨none, .ok (), shelf.insert a.qualifiedName a.body⟩ ∨
      ∃ e, (memory rejectExisting).deliver a shelf = ⟨none, .error e, shelf⟩ := by
  cases valid : Target.check a.package a.name with
  | error e => exact .inr ⟨e, by simp [deliver, stream, memory, valid]⟩
  | ok _ =>
    rw [deliver_memory_of_valid valid, Shelf.answer]
    cases shelf.admits rejectExisting a.qualifiedName with
    | false => exact .inr ⟨_, rfl⟩
    | true => exact .inl rfl

/-- The shelf behind deliveries has the written artifacts inserted, in order. -/
theorem state_deliverAll_memory (rejectExisting : Bool) (artifacts : List Artifact)
    (shelf : Shelf) :
    ((memory rejectExisting).deliverAll artifacts shelf).2 =
      shelf.insertAll ((((memory rejectExisting).deliverAll artifacts shelf).1.filterMap
        Answer.written?).map Artifact.entry) := by
  induction artifacts generalizing shelf with
  | nil => rfl
  | cons a artifacts ih =>
    rw [deliverAll_cons]
    obtain kept | ⟨e, refused⟩ := deliver_memory rejectExisting a shelf
    · rw [kept]
      exact ih _
    · rw [refused]
      exact ih _

/-- What a sink answers is fixed by the shelf before all deliveries if no target is delivered
twice. -/
theorem deliverAll_memory (rejectExisting : Bool) {artifacts : List Artifact} {shelf : Shelf}
    (valid : ∀ a ∈ artifacts, Target.check a.package a.name = .ok ())
    (distinct : (artifacts.map Artifact.qualifiedName).Nodup) :
    ((memory rejectExisting).deliverAll artifacts shelf).1 =
      artifacts.map (shelf.answerTo rejectExisting) := by
  induction artifacts generalizing shelf with
  | nil => rfl
  | cons a artifacts ih =>
    rw [List.map_cons, List.nodup_cons] at distinct
    have later : ∀ b ∈ artifacts, Target.check b.package b.name = .ok () :=
      fun b h => valid b (List.mem_cons_of_mem _ h)
    have unmoved : ∀ b ∈ artifacts,
        Shelf.answerTo rejectExisting (shelf.insert a.qualifiedName a.body) b =
          shelf.answerTo rejectExisting b := by
      intro b mem
      have other : b.qualifiedName ≠ a.qualifiedName :=
        fun same => distinct.1 (same ▸ List.mem_map_of_mem mem)
      rw [Shelf.answerTo, Shelf.answer_insert_of_ne other, Shelf.answerTo]
    rw [deliverAll_cons, deliver_memory_of_valid (valid a List.mem_cons_self), List.map_cons]
    cases shelf.admits rejectExisting a.qualifiedName with
    | false => exact congrArg _ (ih later distinct.2)
    | true => exact congrArg _ ((ih later distinct.2).trans (List.map_congr_left unmoved))

end Sink

theorem Shelf.written_answerTo (rejectExisting : Bool) (shelf : Shelf)
    (artifacts : List Artifact) :
    (artifacts.map (shelf.answerTo rejectExisting)).filterMap Answer.written? =
      artifacts.filter (shelf.admits rejectExisting ·.qualifiedName) := by
  rw [List.filterMap_map, ← List.filterMap_eq_filter]
  apply List.filterMap_congr
  intro a _
  cases admitted : shelf.admits rejectExisting a.qualifiedName <;>
    simp [answerTo, answer, admitted, Answer.written?, Option.guard]

theorem Shelf.failed_answerTo (rejectExisting : Bool) (shelf : Shelf)
    (artifacts : List Artifact) :
    (artifacts.map (shelf.answerTo rejectExisting)).filterMap Answer.failure? =
      ((artifacts.map Artifact.qualifiedName).filter (!shelf.admits rejectExisting ·)).map
        fun target => .sink target (.alreadyExists target) := by
  induction artifacts with
  | nil => rfl
  | cons a artifacts ih =>
    rw [List.map_cons, List.map_cons, List.filterMap_cons, List.filter_cons, ih]
    cases admitted : shelf.admits rejectExisting a.qualifiedName <;>
      simp [answerTo, answer, admitted, Answer.failure?]

/-- The attempts that a sink in memory with a shelf takes. -/
def Snapshot.admitted (snapshot : Snapshot) (options : GenerationOptions) (header : MetadataHeader)
    (rejectExisting : Bool) (shelf : Shelf) : List Artifact :=
  (snapshot.attempts options header).filter (shelf.admits rejectExisting ·.qualifiedName)

section Run

variable (snapshot : Snapshot) (options : GenerationOptions) (header : MetadataHeader)
  (rejectExisting : Bool) (phase : RunPhase)

theorem Snapshot.admitted_empty :
    snapshot.admitted options header rejectExisting .empty = snapshot.attempts options header := by
  simp [admitted]

/-- No target is admitted twice. -/
theorem Snapshot.nodup_entries_admitted (shelf : Shelf) :
    (((snapshot.admitted options header rejectExisting shelf).map Artifact.entry).map
      Prod.fst).Nodup := by
  rw [Artifact.map_fst_entry]
  exact (snapshot.nodup_targets_attempts options header).sublist (List.filter_sublist.map _)

/-- A run over a shelf puts its attempts on the shelf, apart from those that are held already if
that is rejected. -/
theorem run_on_shelf (shelf : Shelf) :
    let outcome := run snapshot.source options header (.memory rejectExisting) phase shelf
    let admitted := snapshot.admitted options header rejectExisting shelf
    ∃ report, outcome.result = .ok report ∧
      outcome.state = shelf.insertAll (admitted.map Artifact.entry) ∧
      report.artifacts = admitted.map ArtifactRecord.ofArtifact ∧
      report.Accounts snapshot options header
        ((snapshot.attempts options header).map (shelf.answerTo rejectExisting)) := by
  intro outcome admitted
  obtain ⟨report, result, state, account⟩ :=
    run_account snapshot options header (.memory rejectExisting) phase shelf
  rw [Sink.state_deliverAll_memory] at state
  rw [Sink.deliverAll_memory rejectExisting
    (fun _ => snapshot.check_of_mem_attempts options header)
    (snapshot.nodup_targets_attempts options header)] at state account
  have written := shelf.written_answerTo rejectExisting
    (snapshot.attempts options header)
  refine ⟨report, result, ?_, ?_, account⟩
  · rw [written] at state
    exact state
  · rw [account.artifacts, written]
    rfl

/-- Behind a run over a shelf every admitted attempt can be found. -/
theorem get?_of_mem_admitted {shelf : Shelf} {a : Artifact}
    (h : a ∈ snapshot.admitted options header rejectExisting shelf) :
    (run snapshot.source options header (.memory rejectExisting) phase shelf).state.get?
      a.qualifiedName = some a.body := by
  obtain ⟨-, -, state, -, -⟩ := run_on_shelf snapshot options header rejectExisting phase shelf
  rw [state]
  exact OrderedMap.get?_insertAll_of_mem (snapshot.nodup_entries_admitted options header _ shelf)
    (List.mem_map_of_mem h) shelf

/-- The diagnostics of a run over a shelf are those of its plan. -/
theorem run_diagnostics_on_shelf (shelf : Shelf) :
    RunEvent.diagnostics
        (run snapshot.source options header (.memory rejectExisting) phase shelf).events =
      (snapshot.steps options header).flatMap (Step.diagnostics (shelf.answer rejectExisting)) := by
  apply run_diagnostics
  rw [Sink.deliverAll_memory rejectExisting
    (fun _ => snapshot.check_of_mem_attempts options header)
    (snapshot.nodup_targets_attempts options header)]
  simp [Shelf.answerTo]

/-- A run over an empty shelf leaves all its attempts on the shelf and in the report. -/
theorem run_on_empty_shelf :
    ∃ report,
      (run snapshot.source options header (.memory rejectExisting) phase .empty).result =
          .ok report ∧
        (run snapshot.source options header (.memory rejectExisting) phase .empty).state.toList =
          (snapshot.attempts options header).map Artifact.entry ∧
        report.artifacts = (snapshot.attempts options header).map ArtifactRecord.ofArtifact ∧
        report.conflicts = (snapshot.verdicts options header).filterMap Verdict.conflict? ∧
        report.malformed = snapshot.malformed := by
  obtain ⟨report, result, state, artifacts, account⟩ :=
    run_on_shelf snapshot options header rejectExisting phase .empty
  have distinct : ((OrderedMap.empty : Shelf).keys ++
      ((snapshot.attempts options header).map Artifact.entry).map Prod.fst).Nodup := by
    rw [Artifact.map_fst_entry]
    exact snapshot.nodup_targets_attempts options header
  rw [snapshot.admitted_empty] at state artifacts
  refine ⟨report, result, ?_, artifacts, account.conflicts, account.malformed⟩
  rw [state, OrderedMap.toList_insertAll distinct]
  rfl

end Run

/-- A report with distinct names finds each of its artifacts. -/
theorem RunReport.artifact?_of_mem {report : RunReport} {a : ArtifactRecord}
    (distinct : (report.artifacts.map ArtifactRecord.qualifiedName).Nodup)
    (h : a ∈ report.artifacts) : report.artifact? a.qualifiedName = some a := by
  unfold artifact?
  cases found : report.artifacts.find? (·.qualifiedName == a.qualifiedName) with
  | none => exact absurd (List.find?_eq_none.1 found a h) (by simp)
  | some b =>
    have mem := List.mem_of_find?_eq_some found
    have name : b.qualifiedName = a.qualifiedName := by simpa using List.find?_some found
    rw [List.inj_on_of_nodup_map distinct mem h name]

/-- What the report lists is on the shelf behind the run, under distinct names and with texts that
have the reported hashes. All other names are as they were before the run, and new names come
behind the old ones in the order of the report. -/
theorem shelf_agrees_with_report (snapshot : Snapshot) (options : GenerationOptions)
    (header : MetadataHeader) (rejectExisting : Bool) (phase : RunPhase) (shelf : Shelf) :
    ∃ report,
      let outcome := run snapshot.source options header (.memory rejectExisting) phase shelf
      let names := report.artifacts.map ArtifactRecord.qualifiedName
      outcome.result = .ok report ∧
        names.Nodup ∧
        (∀ a ∈ report.artifacts, report.artifact? a.qualifiedName = some a ∧
          ∃ body, outcome.state.get? a.qualifiedName = some body ∧
            Fingerprint.ofBody body = a.contentHash) ∧
        (∀ key ∉ names, outcome.state.get? key = shelf.get? key) ∧
        outcome.state.keys = shelf.keys ++ names.filter (· ∉ shelf.keys) := by
  obtain ⟨report, result, state, account⟩ :=
    run_account snapshot options header (.memory rejectExisting) phase shelf
  rw [Sink.state_deliverAll_memory] at state
  obtain ⟨answers, delivered⟩ : ∃ answers, ((Sink.memory rejectExisting).deliverAll
    (snapshot.attempts options header) shelf).1 = answers := ⟨_, rfl⟩
  have named := (Sink.memory rejectExisting).targets_deliverAll
    (snapshot.attempts options header) shelf
  rw [delivered] at state account named
  have names : report.artifacts.map ArtifactRecord.qualifiedName =
      ((answers.filterMap Answer.written?).map Artifact.entry).map Prod.fst := by
    rw [account.artifacts, map_qualifiedName_records, Artifact.map_fst_entry]
  have distinct : (report.artifacts.map ArtifactRecord.qualifiedName).Nodup := by
    have sublist := Answer.written_sublist answers
    rw [named, ← Artifact.map_fst_entry, ← names] at sublist
    exact (snapshot.nodup_targets_attempts options header).sublist sublist
  refine ⟨report, result, distinct, ?_, ?_, ?_⟩
  · intro a h
    refine ⟨RunReport.artifact?_of_mem distinct h, ?_⟩
    obtain ⟨b, written, rfl⟩ := List.mem_map.1 (account.artifacts ▸ h)
    refine ⟨b.body, ?_, rfl⟩
    rw [state]
    exact OrderedMap.get?_insertAll_of_mem (names ▸ distinct) (List.mem_map_of_mem written) shelf
  · intro key h
    rw [names] at h
    rw [state, OrderedMap.get?_insertAll_of_notMem h]
  · rw [state, OrderedMap.keys_insertAll (names ▸ distinct), ← names]

end ExceptionStubs
