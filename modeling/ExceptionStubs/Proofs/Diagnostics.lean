import ExceptionStubs.Proofs.Account
/-!
# Diagnostics of a run

A sink takes part in the diagnostics of a run with its answers alone. If what it answers is fixed by
the target, so are the diagnostics by the plan.
-/

namespace ExceptionStubs

def Diagnostic.ofAnswer (target : String) : Except SinkError Unit → Diagnostic
  | .ok () => ⟨.note, s!"generated {target}"⟩
  | .error cause => ⟨.error, (WriteFailure.sink target cause).message⟩

def Step.diagnostics (answer : String → Except SinkError Unit) : Step → List Diagnostic
  | enter _ => []
  | tell event => event.diagnostic?.toList
  | attempt target (.ok _) => [.ofAnswer target (answer target)]
  | attempt target (.error cause) => [⟨.error, (WriteFailure.render target cause).message⟩]

namespace Run

variable {σ ω : Type}

theorem diagnostics_enter (phase next : RunPhase) :
    RunEvent.diagnostics (enter phase next) = [] := by
  unfold enter
  split <;> rfl

theorem diagnostics_attempt (sink : Sink σ ω) (a : Artifact) (s : σ) :
    RunEvent.diagnostics (attempt sink a.qualifiedName (.ok a) s).1 =
      [.ofAnswer a.qualifiedName (sink.deliver a s).result] := by
  dsimp only [attempt]
  generalize sink.deliver a s = delivery
  obtain ⟨_ | path, cause | ⟨⟩, s'⟩ := delivery <;> rfl

/-- Carrying out steps over a sink whose answers are known tells the diagnostics of the steps. -/
theorem diagnostics_execute (sink : Sink σ ω) {answer : String → Except SinkError Unit}
    {steps : List Step} (sound : ∀ step ∈ steps, step.Sound) (phase : RunPhase) (s : σ)
    (answered : ∀ a ∈ (sink.deliverAll (steps.filterMap Step.artifact?) s).1,
      a.result = answer a.artifact.qualifiedName) :
    RunEvent.diagnostics (execute sink steps phase s).1 =
      steps.flatMap (Step.diagnostics answer) := by
  induction steps generalizing phase s with
  | nil => rfl
  | cons step steps ih =>
    have rest := ih fun step h => sound step (List.mem_cons_of_mem _ h)
    rw [List.flatMap_cons]
    cases sound step List.mem_cons_self with
    | enter next =>
      rw [← rest next s answered]
      simp only [execute, RunEvent.diagnostics, List.filterMap_append]
      exact congrArg (· ++ _) (diagnostics_enter phase next)
    | @tell event generated failed =>
      rw [← rest phase s answered]
      simp only [execute, RunEvent.diagnostics, List.filterMap_cons, Step.diagnostics]
      cases event.diagnostic? <;> rfl
    | attempt a =>
      rw [List.filterMap_cons_some (f := Step.artifact?) rfl, Sink.deliverAll_cons] at answered
      have first : (sink.deliver a s).result = answer a.qualifiedName :=
        answered _ List.mem_cons_self
      rw [← rest phase (sink.deliver a s).state fun b h => answered b (List.mem_cons_of_mem _ h)]
      simp only [execute, state_attempt, RunEvent.diagnostics, List.filterMap_append]
      refine congrArg (· ++ _) ((diagnostics_attempt sink a s).trans ?_)
      rw [first]
      rfl

end Run

theorem Snapshot.diagnostics_steps_of_unmarked {snapshot : Snapshot}
    (h : snapshot.isMarked = false) (options : GenerationOptions) (header : MetadataHeader)
    (answer : String → Except SinkError Unit) :
    (snapshot.steps options header).flatMap (Step.diagnostics answer) = [] := by
  obtain ⟨types, methods⟩ := isMarked_eq_false_iff.1 h
  rw [steps, types, methods]
  rfl

/-- A run over a sink whose answers are known tells the diagnostics of its plan. -/
theorem run_diagnostics {σ ω : Type} (snapshot : Snapshot) (options : GenerationOptions)
    (header : MetadataHeader) (sink : Sink σ ω) (phase : RunPhase) (s : σ)
    {answer : String → Except SinkError Unit}
    (answered : ∀ a ∈ (sink.deliverAll (snapshot.attempts options header) s).1,
      a.result = answer a.artifact.qualifiedName) :
    RunEvent.diagnostics (run snapshot.source options header sink phase s).events =
      (snapshot.steps options header).flatMap (Step.diagnostics answer) := by
  have started := Run.diagnostics_enter phase .discovering
  unfold RunEvent.diagnostics at started
  cases marked : snapshot.isMarked with
  | false =>
    rw [run_of_unmarked options header sink phase s marked,
      Snapshot.diagnostics_steps_of_unmarked marked, RunEvent.diagnostics, List.filterMap_append,
      started]
    rfl
  | true =>
    rw [← snapshot.attempts_steps options header] at answered
    rw [run_of_marked options header sink phase s marked,
      ← Run.diagnostics_execute sink (snapshot.sound_steps options header) .discovering s answered]
    exact Run.filterMap_around (fun _ _ => rfl) (fun _ => rfl) _ _ _ _

end ExceptionStubs
