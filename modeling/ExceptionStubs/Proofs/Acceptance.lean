import ExceptionStubs.Proofs.MemorySink
/-!
# What is accepted can be written

The checks of declarations and those of sinks are made in different places. They fit together: a
declaration that is accepted gives targets that every sink takes and contexts that bind whatever
the templates ask for. So the only reason to fail for a target over a shelf is that it is there
already.
-/

namespace ExceptionStubs

/-- The context of a spec binds every variable of its template. -/
theorem ExceptionSpec.exists_render (s : ExceptionSpec) (targetPackage : String)
    (header : Option MetadataHeader) :
    ∃ body, ClassTemplates.render s.templateName (s.context targetPackage header) = .ok body := by
  obtain ⟨body, rendered, -⟩ := bind_eq_ok.1 (s.artifact_eq_ok targetPackage header)
  exact ⟨body, rendered⟩

/-- The context of a group binds every variable of the template of implementations, and so does
every item of its list of methods. -/
theorem ValidatedGroup.exists_render (v : ValidatedGroup) (settings : ComponentSettings)
    (header : Option MetadataHeader) :
    ∃ body, ClassTemplates.render ClassTemplates.implementationName (v.context settings header) =
      .ok body := by
  obtain ⟨body, rendered, -⟩ := bind_eq_ok.1 (v.artifact_eq_ok settings header)
  exact ⟨body, rendered⟩

section Run

variable (snapshot : Snapshot) (options : GenerationOptions) (header : MetadataHeader)

/-- Every attempt of a plan comes with its class text and for a target that the sinks take. -/
theorem Snapshot.check_of_attempt {target : String} {rendered : Except RenderError Artifact}
    (h : .attempt target rendered ∈ snapshot.steps options header) :
    ∃ a, rendered = .ok a ∧ target = a.qualifiedName ∧ Target.check a.package a.name = .ok () := by
  cases snapshot.sound_steps options header _ h with
  | attempt a =>
    have attempted : a ∈ snapshot.attempts options header := by
      rw [← snapshot.attempts_steps]
      exact List.mem_filterMap.2 ⟨_, h, rfl⟩
    exact ⟨a, rfl, rfl, snapshot.check_of_mem_attempts options header attempted⟩

/-- A run over a shelf fails for a target only if names that are held are rejected and it is one. -/
theorem writeFailures_on_shelf {rejectExisting : Bool} {shelf : Shelf} {report : RunReport}
    (account : report.Accounts snapshot options header
      ((snapshot.attempts options header).map (shelf.answerTo rejectExisting)))
    {failure : WriteFailure} (h : failure ∈ report.writeFailures) :
    ∃ target, failure = .sink target (.alreadyExists target) ∧
      rejectExisting = true ∧ shelf.contains target = true := by
  rw [account.writeFailures, Shelf.failed_answerTo] at h
  obtain ⟨target, refused, rfl⟩ := List.mem_map.1 h
  have held := (List.mem_filter.1 refused).2
  refine ⟨target, rfl, ?_⟩
  simpa [Shelf.admits] using held

end Run

/-- A run over a shelf whose names may be overwritten fails for nothing, and over one whose names
are rejected only for names that it holds. For every accepted exception name and every accepted
interface name with the suffix of implementations the target is one that sinks take, every attempt
comes with its class text, and none of the three templates can fail with the contexts that are
made for it. -/
theorem accepted_input_is_written (snapshot : Snapshot) (options : GenerationOptions)
    (header : MetadataHeader) (phase : RunPhase) (shelf : Shelf) :
    let runOver rejectExisting :=
      run snapshot.source options header (.memory rejectExisting) phase shelf
    (∃ report, (runOver false).result = .ok report ∧ report.writeFailures = []) ∧
    (∃ report, (runOver true).result = .ok report ∧
      ∀ failure ∈ report.writeFailures, ∃ target,
        failure = .sink target (.alreadyExists target) ∧ shelf.contains target = true) ∧
    (∀ s ∈ snapshot.specs, Target.check s.package s.name = .ok ()) ∧
    (∀ g ∈ snapshot.groups, Target.check g.package (g.interface ++ "Impl") = .ok ()) ∧
    (∀ target rendered, .attempt target rendered ∈ snapshot.steps options header →
      ∃ a, rendered = .ok a ∧ target = a.qualifiedName ∧
        Target.check a.package a.name = .ok ()) ∧
    (∀ (s : ExceptionSpec) (targetPackage : String) (stamp : Option MetadataHeader), ∃ body,
      ClassTemplates.render s.templateName (s.context targetPackage stamp) = .ok body) ∧
    ∀ (v : ValidatedGroup) (settings : ComponentSettings) (stamp : Option MetadataHeader), ∃ body,
      ClassTemplates.render ClassTemplates.implementationName (v.context settings stamp) =
        .ok body := by
  intro runOver
  refine ⟨?_, ?_, fun s mem => ExceptionSpec.check_of_mem_accepted mem, fun g _ => g.check_target,
    fun _ _ => snapshot.check_of_attempt options header, ExceptionSpec.exists_render,
    ValidatedGroup.exists_render⟩
  · obtain ⟨report, result, -, -, account⟩ :=
      run_on_shelf snapshot options header false phase shelf
    refine ⟨report, result, List.eq_nil_iff_forall_not_mem.2 ?_⟩
    intro failure mem
    obtain ⟨-, -, rejecting, -⟩ := writeFailures_on_shelf snapshot options header account mem
    exact Bool.false_ne_true rejecting
  · obtain ⟨report, result, -, -, account⟩ := run_on_shelf snapshot options header true phase shelf
    refine ⟨report, result, fun failure mem => ?_⟩
    obtain ⟨target, refused, -, held⟩ :=
      writeFailures_on_shelf snapshot options header account mem
    exact ⟨target, refused, held⟩

end ExceptionStubs
