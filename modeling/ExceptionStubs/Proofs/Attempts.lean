import ExceptionStubs.Proofs.Account
import ExceptionStubs.Proofs.ExceptionSpec
import Mathlib.Data.List.Induction
/-!
# What a run attempts

The attempts of a run are fixed by the snapshot, the options and the header: the first spec of every
target, and then every group that passes its checks and whose target no spec has. No target is
attempted twice, so whatever the sink answers, its answers divide the attempts into those that are
written and those that failed, and with the conflicts every spec and every group is counted once.
-/

namespace ExceptionStubs

/-- A group is emitted if it passes its checks and no spec has its target. -/
def Group.isEmitted (options : GenerationOptions) (specs : List ExceptionSpec) (g : Group) : Bool :=
  (g.validate (options.checks specs)).isOk && g.target ∉ specs.map ExceptionSpec.qualifiedName

theorem Group.target_artifact?_verdict (options : GenerationOptions)
    (header : Option MetadataHeader) (specs : List ExceptionSpec) (g : Group) :
    (g.verdict options header specs).artifact?.map Artifact.qualifiedName =
      if g.isEmitted options specs then some g.target else none := by
  cases hv : g.validate (options.checks specs) with
  | error conflict => simp [verdict_of_conflict hv, isEmitted, hv, Verdict.artifact?, Except.isOk,
      Except.toBool]
  | ok v =>
    cases hc : ExceptionSpec.claimant? specs g.target with
    | some owner =>
      have taken := ExceptionSpec.mem_targets_of_claimant? hc
      simp [verdict_of_taken hv hc, isEmitted, Verdict.artifact?, taken]
    | none =>
      have free := ExceptionSpec.claimant?_eq_none_iff.1 hc
      have emitted : g.isEmitted options specs = true := by
        simp only [isEmitted, hv, free]
        rfl
      rw [verdict_of_free hv hc, if_pos emitted]
      rfl

theorem Group.isEmitted_of_artifact? {options : GenerationOptions} {header : Option MetadataHeader}
    {specs : List ExceptionSpec} {g : Group} {a : Artifact}
    (h : (g.verdict options header specs).artifact? = some a) :
    g.isEmitted options specs = true ∧ a.qualifiedName = g.target := by
  have named := g.target_artifact?_verdict options header specs
  rw [h] at named
  cases emitted : g.isEmitted options specs with
  | false => simp [emitted] at named
  | true => exact ⟨rfl, by simpa [emitted] using named⟩

namespace Plan

theorem specVerdicts_concat (header : Option MetadataHeader) (earlier specs : List ExceptionSpec)
    (s : ExceptionSpec) :
    specVerdicts header earlier (specs ++ [s]) =
      specVerdicts header earlier specs ++ [s.verdict header (earlier ++ specs)] := by
  induction specs generalizing earlier with
  | nil => simp [specVerdicts]
  | cons first specs ih =>
    rw [List.cons_append, specVerdicts_cons, specVerdicts_cons, ih, List.append_assoc earlier]
    rfl

/-- Every target of a spec is attempted where it first occurs. -/
theorem targets_specVerdicts (header : Option MetadataHeader) (specs : List ExceptionSpec) :
    ((specVerdicts header [] specs).filterMap Verdict.artifact?).map Artifact.qualifiedName =
      (specs.map ExceptionSpec.qualifiedName).eraseDups := by
  induction specs using List.reverseRecOn with
  | nil => rfl
  | append_singleton specs s ih =>
    rw [specVerdicts_concat, List.filterMap_append, List.map_append, ih, List.map_append,
      List.map_singleton, eraseDups_concat, List.nil_append]
    cases hc : ExceptionSpec.claimant? specs s.qualifiedName with
    | some owner =>
      have taken := ExceptionSpec.mem_targets_of_claimant? hc
      simp [ExceptionSpec.verdict_of_taken hc, Verdict.artifact?, taken]
    | none =>
      have free := ExceptionSpec.claimant?_eq_none_iff.1 hc
      simp only [ExceptionSpec.verdict_of_free hc, if_neg free]
      rfl

/-- Every group that is emitted is attempted. -/
theorem targets_groupVerdicts (options : GenerationOptions) (header : Option MetadataHeader)
    (specs : List ExceptionSpec) (groups : List Group) :
    ((groups.map (·.verdict options header specs)).filterMap Verdict.artifact?).map
        Artifact.qualifiedName =
      (groups.filter (·.isEmitted options specs)).map Group.target := by
  induction groups with
  | nil => rfl
  | cons g groups ih =>
    have head := g.target_artifact?_verdict options header specs
    rw [List.map_cons, List.filterMap_cons, List.filter_cons]
    cases attempt : (g.verdict options header specs).artifact? with
    | none =>
      have skipped : g.isEmitted options specs = false := by simpa [attempt] using head
      simpa [skipped] using ih
    | some a =>
      obtain ⟨emitted, name⟩ := Group.isEmitted_of_artifact? attempt
      simp only [emitted, if_true, List.map_cons, name, ih]

end Plan

namespace Snapshot

variable (snapshot : Snapshot) (options : GenerationOptions) (header : MetadataHeader)

theorem targets_attempts :
    (snapshot.attempts options header).map Artifact.qualifiedName =
      (snapshot.specs.map ExceptionSpec.qualifiedName).eraseDups ++
        (snapshot.groups.filter (·.isEmitted options snapshot.specs)).map Group.target := by
  rw [attempts, verdicts, Plan.verdicts, List.filterMap_append, List.map_append,
    Plan.targets_specVerdicts, Plan.targets_groupVerdicts]

/-- No target is attempted twice. -/
theorem nodup_targets_attempts :
    ((snapshot.attempts options header).map Artifact.qualifiedName).Nodup := by
  rw [targets_attempts, List.nodup_append]
  refine ⟨nodup_eraseDups _, ?_, ?_⟩
  · exact (Group.nodup_targets_ofRecords _).sublist (List.filter_sublist.map _)
  · rintro target hs _ hg rfl
    obtain ⟨g, mem, rfl⟩ := List.mem_map.1 hg
    have emitted := (List.mem_filter.1 mem).2
    simp only [Group.isEmitted, Bool.and_eq_true, decide_eq_true_eq] at emitted
    exact emitted.2 (List.mem_eraseDups.1 hs)

/-- The class is attempted for the spec. -/
def AttemptsSpec (s : ExceptionSpec) (a : Artifact) : Prop :=
  ∃ i, snapshot.specs[i]? = some s ∧
    s.verdict (options.header? header) (snapshot.specs.take i) = .attempted a

/-- The class is attempted for the group. -/
def AttemptsGroup (g : Group) (a : Artifact) : Prop :=
  g ∈ snapshot.groups ∧
    g.verdict options (options.header? header) snapshot.specs = .attempted a

/-- Every attempt is one for a spec or for a group. -/
theorem mem_attempts_iff {a : Artifact} :
    a ∈ snapshot.attempts options header ↔
      (∃ s, snapshot.AttemptsSpec options header s a) ∨
        ∃ g, snapshot.AttemptsGroup options header g a := by
  simp only [attempts, verdicts, Plan.verdicts, Plan.specVerdicts, List.mem_filterMap,
    List.mem_append, Verdict.artifact?_eq_some_iff, AttemptsSpec, AttemptsGroup, List.mem_mapIdx,
    List.mem_map, List.nil_append]
  constructor
  · rintro ⟨v, ⟨i, h, rfl⟩ | ⟨g, mem, rfl⟩, attempted⟩
    · exact .inl ⟨_, i, List.getElem?_eq_getElem h, attempted⟩
    · exact .inr ⟨g, mem, attempted⟩
  · rintro (⟨s, i, at_i, attempted⟩ | ⟨g, mem, attempted⟩)
    · obtain ⟨h, rfl⟩ := List.getElem?_eq_some_iff.1 at_i
      exact ⟨_, .inl ⟨i, h, rfl⟩, attempted⟩
    · exact ⟨_, .inr ⟨g, mem, rfl⟩, attempted⟩

/-- Every attempt has a target that the sinks accept. -/
theorem check_of_mem_attempts {a : Artifact} (h : a ∈ snapshot.attempts options header) :
    Target.check a.package a.name = .ok () := by
  rcases (snapshot.mem_attempts_iff options header).1 h with
    ⟨s, i, at_i, attempted⟩ | ⟨g, -, attempted⟩
  · obtain ⟨-, package, name⟩ := ExceptionSpec.verdict_eq_attempted attempted
    rw [package, name]
    exact ExceptionSpec.check_of_mem_accepted (List.mem_of_getElem? at_i)
  · obtain ⟨-, package, name⟩ := Group.verdict_eq_attempted attempted
    rw [package, name]
    exact g.check_target

theorem length_verdicts :
    (snapshot.verdicts options header).length =
      snapshot.specs.length + snapshot.groups.length := by
  simp [verdicts, Plan.verdicts, Plan.specVerdicts]

end Snapshot

theorem map_qualifiedName_records (artifacts : List Artifact) :
    (artifacts.map ArtifactRecord.ofArtifact).map ArtifactRecord.qualifiedName =
      artifacts.map Artifact.qualifiedName := by
  simp [ArtifactRecord.qualifiedName, ArtifactRecord.ofArtifact, Artifact.qualifiedName]

/-- A run hands its attempts to the sink in order: the class of every spec whose target no earlier
spec has, and then the implementation of every group that passes its checks and whose target no
spec has. What the sink takes is reported as written and what it refuses as failed, both in the
order of the attempts; every verdict that is no attempt is reported as a conflict. -/
theorem run_divides_attempts {σ ω : Type} (snapshot : Snapshot) (options : GenerationOptions)
    (header : MetadataHeader) (sink : Sink σ ω) (phase : RunPhase) (s : σ) :
    let outcome := run snapshot.source options header sink phase s
    let attempts := snapshot.attempts options header
    let targets := attempts.map Artifact.qualifiedName
    let answers := (sink.deliverAll attempts s).1
    targets = (snapshot.specs.map ExceptionSpec.qualifiedName).eraseDups ++
        (snapshot.groups.filter (·.isEmitted options snapshot.specs)).map Group.target ∧
      targets.Nodup ∧
      answers.map Answer.artifact = attempts ∧
      outcome.state = (sink.deliverAll attempts s).2 ∧
      ∃ report, outcome.result = .ok report ∧
        report.artifacts = (answers.filterMap Answer.written?).map ArtifactRecord.ofArtifact ∧
        report.writeFailures = answers.filterMap Answer.failure? ∧
        (report.artifacts.map ArtifactRecord.qualifiedName).Sublist targets ∧
        (report.writeFailures.map WriteFailure.target).Sublist targets ∧
        (report.artifacts.map ArtifactRecord.qualifiedName ++
          report.writeFailures.map WriteFailure.target).Perm targets ∧
        report.conflicts = (snapshot.verdicts options header).filterMap Verdict.conflict? ∧
        report.artifacts.length + report.writeFailures.length + report.conflicts.length =
          snapshot.specs.length + snapshot.groups.length ∧
        report.artifactsWritten = report.artifacts.length := by
  intro outcome attempts targets answers
  obtain ⟨report, result, state, account⟩ := run_account snapshot options header sink phase s
  have named : answers.map (·.artifact.qualifiedName) = targets :=
    sink.targets_deliverAll attempts s
  have written : report.artifacts.map ArtifactRecord.qualifiedName =
      (answers.filterMap Answer.written?).map Artifact.qualifiedName := by
    rw [account.artifacts, map_qualifiedName_records]
  have perm := Answer.written_append_failed_perm answers
  rw [named, ← written, ← account.writeFailures] at perm
  refine ⟨snapshot.targets_attempts options header, snapshot.nodup_targets_attempts options header,
    sink.artifacts_deliverAll attempts s, state, report, result, account.artifacts,
    account.writeFailures, ?_, ?_, perm, account.conflicts, ?_, rfl⟩
  · rw [written, ← named]
    exact Answer.written_sublist answers
  · rw [account.writeFailures, ← named]
    exact Answer.failed_sublist answers
  · have divided := perm.length_eq
    have counted := Verdict.length_artifacts_add_length_conflicts
      (snapshot.verdicts options header)
    rw [snapshot.length_verdicts, ← account.conflicts] at counted
    simp only [List.length_append, List.length_map, targets] at divided
    have attempted : attempts.length =
      ((snapshot.verdicts options header).filterMap Verdict.artifact?).length := rfl
    omega

end ExceptionStubs
