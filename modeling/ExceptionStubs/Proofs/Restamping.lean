import ExceptionStubs.Proofs.DateMask
import ExceptionStubs.Proofs.Diagnostics
import ExceptionStubs.Proofs.MemorySink
/-!
# Runs at different times

The time of a run is written into the headers of its classes and nowhere else. So plans for two
times are the same up to the masked dates, and neither the report nor the diagnostics nor the names
on a shelf show more of a class than its text with the date masked.
-/

namespace ExceptionStubs

def Artifact.masked (a : Artifact) : Artifact := { a with body := DateMask.mask a.body }

def Verdict.masked : Verdict → Verdict
  | attempted a => .attempted a.masked
  | skipped conflict => .skipped conflict

def Step.masked : Step → Step
  | attempt target rendered => .attempt target (rendered.map Artifact.masked)
  | enter phase => .enter phase
  | tell event => .tell event

namespace Step

theorem masked_step (v : Verdict) : v.step.masked = v.masked.step := by cases v <;> rfl

theorem artifact?_masked (step : Step) :
    step.masked.artifact? = step.artifact?.map Artifact.masked := by
  rcases step with _ | _ | ⟨target, cause | a⟩ <;> rfl

theorem told?_masked (step : Step) : step.masked.told? = step.told? := by cases step <;> rfl

theorem diagnostics_masked (answer : String → Except SinkError Unit) (step : Step) :
    step.masked.diagnostics answer = step.diagnostics answer := by
  rcases step with _ | _ | ⟨target, cause | a⟩ <;> rfl

end Step

/-- The record of an artifact shows its masked text alone. -/
theorem ArtifactRecord.ofArtifact_eq_of_masked {a b : Artifact} (h : a.masked = b.masked) :
    ofArtifact a = ofArtifact b := by
  obtain ⟨package, name, body⟩ := a
  obtain ⟨package', name', body'⟩ := b
  obtain ⟨rfl, rfl, same⟩ := Artifact.mk.inj h
  rw [ofArtifact, ofArtifact, Fingerprint.ofBody, Fingerprint.ofBody, same]

/-- What shows masked texts alone shows the same of lists with the same masked texts. -/
theorem Artifact.map_eq_of_masked {α : Type} {view : Artifact → α}
    (blind : ∀ a b : Artifact, a.masked = b.masked → view a = view b) {as bs : List Artifact}
    (h : as.map masked = bs.map masked) : as.map view = bs.map view := by
  induction as generalizing bs with
  | nil =>
    obtain rfl := List.map_eq_nil_iff.1 h.symm
    rfl
  | cons a as ih =>
    obtain ⟨b, bs, rfl, head, tail⟩ := List.map_eq_cons_iff.1 h.symm
    rw [List.map_cons, List.map_cons, blind a b head.symm, ih tail.symm]

theorem Artifact.qualifiedName_eq_of_masked {a b : Artifact} (h : a.masked = b.masked) :
    a.qualifiedName = b.qualifiedName := by
  have same : a.masked.qualifiedName = b.masked.qualifiedName := congrArg qualifiedName h
  exact same

section Header

variable (options : GenerationOptions) (header header' : MetadataHeader)

/-- A text around a header line is masked to the same text for all times. -/
theorem DateMask.mask_line (before after package : String) :
    mask (before ++ ClassText.optionalLine ""
        (MetadataHeader.line (options.header? header) package) ++ after) =
      mask (before ++ ClassText.optionalLine ""
        (MetadataHeader.line (options.header? header') package) ++ after) := by
  unfold GenerationOptions.header?
  split
  · have stamped (h : MetadataHeader) :
        before ++ ClassText.optionalLine "" (MetadataHeader.line (some h) package) ++ after =
          before ++ h.annotation package ++ ("\n" ++ after) := by
      simp only [h.optionalLine_some, String.append_assoc]
    rw [stamped, stamped, mask_annotation]
  · rfl

theorem ExceptionSpec.masked_verdict (earlier : List ExceptionSpec) (s : ExceptionSpec) :
    (s.verdict (options.header? header) earlier).masked =
      (s.verdict (options.header? header') earlier).masked := by
  have text : DateMask.mask (s.classText s.package (options.header? header)) =
      DateMask.mask (s.classText s.package (options.header? header')) := by
    unfold classText
    split
    · exact DateMask.mask_line ..
    · rfl
  cases taken : claimant? earlier s.qualifiedName with
  | some owner => rw [verdict_of_taken taken, verdict_of_taken taken]
  | none =>
    rw [verdict_of_free taken, verdict_of_free taken, Verdict.masked, Verdict.masked,
      Artifact.masked, Artifact.masked, text]

theorem Group.masked_verdict (specs : List ExceptionSpec) (g : Group) :
    (g.verdict options (options.header? header) specs).masked =
      (g.verdict options (options.header? header') specs).masked := by
  cases valid : g.validate (options.checks specs) with
  | error conflict => rw [verdict_of_conflict valid, verdict_of_conflict valid]
  | ok v =>
    have text : DateMask.mask (v.classText options.component (options.header? header)) =
        DateMask.mask (v.classText options.component (options.header? header')) := by
      have around (header : Option MetadataHeader) : v.classText options.component header =
          _ ++ ClassText.optionalLine "" (MetadataHeader.line header v.group.package) ++ (_ ++ _) :=
        String.append_assoc
      rw [around, around]
      exact DateMask.mask_line ..
    cases taken : ExceptionSpec.claimant? specs g.target with
    | some owner => rw [verdict_of_taken valid taken, verdict_of_taken valid taken]
    | none =>
      rw [verdict_of_free valid taken, verdict_of_free valid taken, Verdict.masked, Verdict.masked,
        Artifact.masked, Artifact.masked, text]

/-- Plans for two times are the same up to the dates in their texts. -/
theorem Snapshot.masked_steps (snapshot : Snapshot) :
    (snapshot.steps options header).map Step.masked =
      (snapshot.steps options header').map Step.masked := by
  refine snapshot.map_steps_congr rfl (fun earlier s => ?_) fun g => ?_
  · rw [Step.masked_step, Step.masked_step, s.masked_verdict options header header']
  · rw [Step.masked_step, Step.masked_step, g.masked_verdict options header header']

theorem Snapshot.masked_attempts (snapshot : Snapshot) :
    (snapshot.attempts options header).map Artifact.masked =
      (snapshot.attempts options header').map Artifact.masked := by
  have seen (header : MetadataHeader) : (snapshot.attempts options header).map Artifact.masked =
      ((snapshot.steps options header).map Step.masked).filterMap Step.artifact? := by
    rw [← attempts_steps, List.map_filterMap, List.filterMap_map]
    exact List.filterMap_congr fun step _ => step.artifact?_masked.symm
  rw [seen, seen, snapshot.masked_steps options header header']

theorem Snapshot.masked_admitted (snapshot : Snapshot) (rejectExisting : Bool) (shelf : Shelf) :
    (snapshot.admitted options header rejectExisting shelf).map Artifact.masked =
      (snapshot.admitted options header' rejectExisting shelf).map Artifact.masked := by
  -- Whether an artifact is admitted depends on its name, which masking leaves alone.
  have seen (header : MetadataHeader) :
      (snapshot.admitted options header rejectExisting shelf).map Artifact.masked =
        ((snapshot.attempts options header).map Artifact.masked).filter
          (shelf.admits rejectExisting ·.qualifiedName) := by
    rw [List.filter_map]
    rfl
  rw [seen, seen, snapshot.masked_attempts options header header']

theorem Snapshot.conflicts_restamped (snapshot : Snapshot) :
    (snapshot.verdicts options header).filterMap Verdict.conflict? =
      (snapshot.verdicts options header').filterMap Verdict.conflict? := by
  have seen (header : MetadataHeader) : (snapshot.steps options header).filterMap Step.told? =
      ((snapshot.steps options header).map Step.masked).filterMap Step.told? := by
    rw [List.filterMap_map]
    exact List.filterMap_congr fun step _ => step.told?_masked.symm
  rw [← skipped_steps, ← skipped_steps, seen, snapshot.masked_steps options header header', ← seen]

theorem Snapshot.diagnostics_restamped (snapshot : Snapshot)
    (answer : String → Except SinkError Unit) :
    (snapshot.steps options header).flatMap (Step.diagnostics answer) =
      (snapshot.steps options header').flatMap (Step.diagnostics answer) := by
  have seen (header : MetadataHeader) :
      (snapshot.steps options header).flatMap (Step.diagnostics answer) =
        ((snapshot.steps options header).map Step.masked).flatMap (Step.diagnostics answer) := by
    simp only [List.flatMap_map, Step.diagnostics_masked]
  rw [seen, snapshot.masked_steps options header header', ← seen]

end Header

/-- Runs at two times over the same shelf give the same report and the same diagnostics and leave
the same names in the same order; the two texts of every class that they write are the same once
their dates are masked. -/
theorem restamped_run_keeps_output (snapshot : Snapshot) (options : GenerationOptions)
    (header header' : MetadataHeader) (rejectExisting : Bool) (phase : RunPhase) (shelf : Shelf) :
    let first := run snapshot.source options header (.memory rejectExisting) phase shelf
    let second := run snapshot.source options header' (.memory rejectExisting) phase shelf
    ∃ report, first.result = .ok report ∧ second.result = .ok report ∧
      RunEvent.diagnostics first.events = RunEvent.diagnostics second.events ∧
      first.state.keys = second.state.keys ∧
      ∀ a ∈ report.artifacts, ∃ body body',
        first.state.get? a.qualifiedName = some body ∧
          second.state.get? a.qualifiedName = some body' ∧
          DateMask.mask body = DateMask.mask body' := by
  intro first second
  obtain ⟨report, result, state, artifacts, account⟩ :=
    run_on_shelf snapshot options header rejectExisting phase shelf
  obtain ⟨report', result', state', artifacts', account'⟩ :=
    run_on_shelf snapshot options header' rejectExisting phase shelf
  have named : (snapshot.attempts options header).map Artifact.qualifiedName =
      (snapshot.attempts options header').map Artifact.qualifiedName :=
    Artifact.map_eq_of_masked (fun _ _ => Artifact.qualifiedName_eq_of_masked)
      (snapshot.masked_attempts options header header')
  have admitted := snapshot.masked_admitted options header header' rejectExisting shelf
  have same : report = report' := by
    refine account.eq account' ?_ ?_ ?_
    · rw [artifacts, artifacts']
      exact Artifact.map_eq_of_masked (fun _ _ => ArtifactRecord.ofArtifact_eq_of_masked) admitted
    · rw [account.writeFailures, account'.writeFailures, Shelf.failed_answerTo,
        Shelf.failed_answerTo, named]
    · rw [account.conflicts, account'.conflicts,
        snapshot.conflicts_restamped options header header']
  have distinct := snapshot.nodup_entries_admitted options header rejectExisting shelf
  have distinct' := snapshot.nodup_entries_admitted options header' rejectExisting shelf
  refine ⟨report, result, same ▸ result', ?_, ?_, ?_⟩
  · rw [run_diagnostics_on_shelf, run_diagnostics_on_shelf,
      snapshot.diagnostics_restamped options header header']
  · rw [state, state', OrderedMap.keys_insertAll distinct, OrderedMap.keys_insertAll distinct',
      Artifact.map_fst_entry, Artifact.map_fst_entry,
      Artifact.map_eq_of_masked (fun _ _ => Artifact.qualifiedName_eq_of_masked) admitted]
  · intro record h
    obtain ⟨a, mem, rfl⟩ := List.mem_map.1 (artifacts ▸ h)
    obtain ⟨b, mem', masked⟩ := List.mem_map.1 (admitted ▸ List.mem_map_of_mem mem)
    have kept := get?_of_mem_admitted snapshot options header rejectExisting phase mem
    have kept' := get?_of_mem_admitted snapshot options header' rejectExisting phase mem'
    rw [Artifact.qualifiedName_eq_of_masked masked] at kept'
    exact ⟨a.body, b.body, kept, kept', (congrArg Artifact.body masked).symm⟩

end ExceptionStubs
