import ExceptionStubs.Run
/-!
# Carrying out steps

A run hands its artifacts to the sink one after the other and goes on whatever the sink answers. So
the state that it leaves is the one behind these deliveries, and what it tells about artifacts is
what the sink answered; all other events are those of the steps.
-/

namespace ExceptionStubs

structure Answer where
  artifact : Artifact
  result : Except SinkError Unit

namespace Answer

def accepted (a : Artifact) : Answer := ⟨a, .ok ()⟩

def written? (a : Answer) : Option Artifact :=
  match a.result with
  | .ok () => some a.artifact
  | .error _ => none

def failure? (a : Answer) : Option WriteFailure :=
  match a.result with
  | .ok () => none
  | .error cause => some (.sink a.artifact.qualifiedName cause)

theorem written?_or_failure? (a : Answer) :
    (a.written? = some a.artifact ∧ a.failure? = none) ∨
      ∃ f, a.written? = none ∧ a.failure? = some f ∧ f.target = a.artifact.qualifiedName := by
  obtain ⟨artifact, cause | ⟨⟩⟩ := a
  · exact .inr ⟨_, rfl, rfl, rfl⟩
  · exact .inl ⟨rfl, rfl⟩

theorem written_sublist (answers : List Answer) :
    ((answers.filterMap written?).map Artifact.qualifiedName).Sublist
      (answers.map (·.artifact.qualifiedName)) := by
  induction answers with
  | nil => exact .slnil
  | cons a answers ih =>
    obtain ⟨hw, -⟩ | ⟨f, hw, -⟩ := a.written?_or_failure?
    · rw [List.filterMap_cons_some hw]
      exact ih.cons_cons _
    · rw [List.filterMap_cons_none hw]
      exact ih.cons _

theorem failed_sublist (answers : List Answer) :
    ((answers.filterMap failure?).map WriteFailure.target).Sublist
      (answers.map (·.artifact.qualifiedName)) := by
  induction answers with
  | nil => exact .slnil
  | cons a answers ih =>
    obtain ⟨-, hf⟩ | ⟨f, -, hf, target⟩ := a.written?_or_failure?
    · rw [List.filterMap_cons_none hf]
      exact ih.cons _
    · rw [List.filterMap_cons_some hf, List.map_cons, target]
      exact ih.cons_cons _

/-- Every artifact is either written or failed. -/
theorem written_append_failed_perm (answers : List Answer) :
    ((answers.filterMap written?).map Artifact.qualifiedName ++
      (answers.filterMap failure?).map WriteFailure.target).Perm
      (answers.map (·.artifact.qualifiedName)) := by
  induction answers with
  | nil => exact .nil
  | cons a answers ih =>
    obtain ⟨hw, hf⟩ | ⟨f, hw, hf, target⟩ := a.written?_or_failure?
    · rw [List.filterMap_cons_some hw, List.filterMap_cons_none hf]
      exact ih.cons _
    · rw [List.filterMap_cons_none hw, List.filterMap_cons_some hf, List.map_cons, List.map_cons,
        target]
      exact List.perm_middle.trans (ih.cons _)

end Answer

namespace Sink

variable {σ ω : Type}

def deliverAll (sink : Sink σ ω) : List Artifact → σ → List Answer × σ
  | [], s => ([], s)
  | a :: artifacts, s =>
    let delivery := sink.deliver a s
    let (answers, s') := sink.deliverAll artifacts delivery.state
    (⟨a, delivery.result⟩ :: answers, s')

@[simp] theorem deliverAll_nil (sink : Sink σ ω) (s : σ) : sink.deliverAll [] s = ([], s) := rfl

theorem deliverAll_cons (sink : Sink σ ω) (a : Artifact) (artifacts : List Artifact) (s : σ) :
    sink.deliverAll (a :: artifacts) s =
      (⟨a, (sink.deliver a s).result⟩ :: (sink.deliverAll artifacts (sink.deliver a s).state).1,
        (sink.deliverAll artifacts (sink.deliver a s).state).2) := rfl

/-- Every artifact gets its answer. -/
theorem artifacts_deliverAll (sink : Sink σ ω) (artifacts : List Artifact) (s : σ) :
    (sink.deliverAll artifacts s).1.map Answer.artifact = artifacts := by
  induction artifacts generalizing s with
  | nil => rfl
  | cons a artifacts ih => rw [deliverAll_cons, List.map_cons, ih]

theorem targets_deliverAll (sink : Sink σ ω) (artifacts : List Artifact) (s : σ) :
    (sink.deliverAll artifacts s).1.map (·.artifact.qualifiedName) =
      artifacts.map Artifact.qualifiedName := by
  have answered := congrArg (List.map Artifact.qualifiedName)
    (sink.artifacts_deliverAll artifacts s)
  rwa [List.map_map] at answered

end Sink

namespace Step

def artifact? : Step → Option Artifact
  | attempt _ (.ok artifact) => some artifact
  | attempt _ (.error _) | enter _ | tell _ => none

def told? : Step → Option RunEvent
  | tell event => some event
  | enter _ | attempt _ _ => none

@[simp] theorem artifact?_tell (event : RunEvent) : (tell event).artifact? = none := rfl

@[simp] theorem told?_tell (event : RunEvent) : (tell event).told? = some event := rfl

/-- Every attempt has its class text, and what only a sink can know is not told. -/
inductive Sound : Step → Prop
  | enter (phase : RunPhase) : Sound (.enter phase)
  | tell {event : RunEvent} (generated : event.generated? = none) (failed : event.failed? = none) :
    Sound (.tell event)
  | attempt (a : Artifact) : Sound (.attempt a.qualifiedName (.ok a))

end Step

/-- A view of events that shows nothing of phases and of what a sink does. -/
structure RunEvent.Planned {α : Type} (view : RunEvent → Option α) : Prop where
  entered : ∀ previous next, view (.entered previous next) = none
  opened : ∀ target path, view (.opened target path) = none
  generated : ∀ artifact, view (.generated artifact) = none
  failed : ∀ failure, view (.failed failure) = none

namespace RunEvent

def tolerated? : RunEvent → Option Conflict
  | tolerated conflict => some conflict
  | _ => none

theorem planned_skipped? : Planned skipped? :=
  ⟨fun _ _ => rfl, fun _ _ => rfl, fun _ => rfl, fun _ => rfl⟩

theorem planned_tolerated? : Planned tolerated? :=
  ⟨fun _ _ => rfl, fun _ _ => rfl, fun _ => rfl, fun _ => rfl⟩

theorem planned_rejected? : Planned rejected? :=
  ⟨fun _ _ => rfl, fun _ _ => rfl, fun _ => rfl, fun _ => rfl⟩

end RunEvent

namespace Run

variable {σ ω : Type}

/-- The events tell the answers of the sink and the events of the steps. -/
structure Told (steps : List Step) (answers : List Answer) (events : List RunEvent) : Prop where
  generated : events.filterMap RunEvent.generated? = answers.filterMap Answer.written?
  failed : events.filterMap RunEvent.failed? = answers.filterMap Answer.failure?
  planned : ∀ {α : Type} {view : RunEvent → Option α}, RunEvent.Planned view →
    events.filterMap view = (steps.filterMap Step.told?).filterMap view

namespace Told

variable {steps : List Step} {answers : List Answer} {events : List RunEvent}

theorem nil : Told [] [] [] := ⟨rfl, rfl, fun _ => rfl⟩

theorem append {steps' : List Step} {answers' : List Answer} {events' : List RunEvent}
    (h : Told steps answers events) (h' : Told steps' answers' events') :
    Told (steps ++ steps') (answers ++ answers') (events ++ events') where
  generated := by rw [List.filterMap_append, List.filterMap_append, h.generated, h'.generated]
  failed := by rw [List.filterMap_append, List.filterMap_append, h.failed, h'.failed]
  planned view := by simp only [List.filterMap_append, h.planned view, h'.planned view]

theorem enter (phase next : RunPhase) : Told [.enter next] [] (Run.enter phase next) := by
  unfold Run.enter
  split
  · exact ⟨rfl, rfl, fun _ => rfl⟩
  · exact ⟨rfl, rfl, fun view => List.filterMap_cons_none (view.entered _ _)⟩

theorem tell {event : RunEvent} (generated : event.generated? = none)
    (failed : event.failed? = none) : Told [.tell event] [] [event] where
  generated := List.filterMap_cons_none generated
  failed := List.filterMap_cons_none failed
  planned _ := rfl

theorem attempt (sink : Sink σ ω) (a : Artifact) (s : σ) :
    Told [.attempt a.qualifiedName (.ok a)] [⟨a, (sink.deliver a s).result⟩]
      (Run.attempt sink a.qualifiedName (.ok a) s).1 := by
  dsimp only [Run.attempt]
  generalize sink.deliver a s = delivery
  obtain ⟨_ | path, cause | ⟨⟩, s'⟩ := delivery
  all_goals exact ⟨rfl, rfl, fun view => by
    simp [Step.told?, view.opened, view.generated, view.failed]⟩

end Told

theorem state_attempt (sink : Sink σ ω) (a : Artifact) (s : σ) :
    (attempt sink a.qualifiedName (.ok a) s).2 = (sink.deliver a s).state := by
  unfold attempt
  rcases hr : (sink.deliver a s).result with cause | ⟨⟩ <;> simp [hr]

/-- Carrying out steps delivers their artifacts in order and tells the answers. -/
theorem execute_spec (sink : Sink σ ω) {steps : List Step} (sound : ∀ step ∈ steps, step.Sound)
    (phase : RunPhase) (s : σ) :
    (execute sink steps phase s).2.2 = (sink.deliverAll (steps.filterMap Step.artifact?) s).2 ∧
      Told steps (sink.deliverAll (steps.filterMap Step.artifact?) s).1
        (execute sink steps phase s).1 := by
  induction steps generalizing phase s with
  | nil => exact ⟨rfl, .nil⟩
  | cons step steps ih =>
    have rest := ih fun step h => sound step (List.mem_cons_of_mem _ h)
    cases sound step List.mem_cons_self with
    | enter next =>
      obtain ⟨state, told⟩ := rest next s
      exact ⟨state, (Told.enter phase next).append told⟩
    | tell generated failed =>
      obtain ⟨state, told⟩ := rest phase s
      exact ⟨state, (Told.tell generated failed).append told⟩
    | attempt a =>
      obtain ⟨state, told⟩ := rest phase (sink.deliver a s).state
      rw [List.filterMap_cons_some (f := Step.artifact?) rfl, Sink.deliverAll_cons]
      simp only [execute, state_attempt]
      exact ⟨state, (Told.attempt sink a s).append told⟩

/-- Steps are carried out behind others in the phase and the state that those leave. -/
theorem execute_append (sink : Sink σ ω) (first second : List Step) (phase : RunPhase) (s : σ) :
    execute sink (first ++ second) phase s =
      let before := execute sink first phase s
      let behind := execute sink second before.2.1 before.2.2
      (before.1 ++ behind.1, behind.2) := by
  induction first generalizing phase s with
  | nil => rfl
  | cons step steps ih => cases step <;> simp [execute, ih]

/-- An attempt tells what it opens, and then that it writes or fails. -/
theorem forall_events_attempt {p : RunEvent → Prop}
    (opened : ∀ target path, p (.opened target path))
    (generated : ∀ artifact, p (.generated artifact)) (failed : ∀ failure, p (.failed failure))
    (sink : Sink σ ω) (target : String) (rendered : Except RenderError Artifact) (s : σ) :
    ∀ event ∈ (attempt sink target rendered s).1, p event := by
  unfold attempt
  split
  · exact List.forall_mem_singleton.2 (failed _)
  · next a =>
    dsimp only
    generalize sink.deliver a s = delivery
    obtain ⟨_ | path, cause | ⟨⟩, s'⟩ := delivery <;> simp [opened, generated, failed]

/-- The events of a row of steps are those that tell phases, those that it tells itself and those of
its attempts. -/
theorem forall_events_execute {sink : Sink σ ω} {p : RunEvent → Prop} {steps : List Step}
    (entered : ∀ previous next, p (.entered previous next))
    (told : ∀ event, .tell event ∈ steps → p event)
    (attempted : ∀ target rendered, .attempt target rendered ∈ steps →
      ∀ t, ∀ event ∈ (attempt sink target rendered t).1, p event)
    (phase : RunPhase) (s : σ) : ∀ event ∈ (execute sink steps phase s).1, p event := by
  induction steps generalizing phase s with
  | nil => exact List.forall_mem_nil _
  | cons step steps ih =>
    have rest := ih (fun event mem => told event (List.mem_cons_of_mem step mem))
      fun target rendered mem => attempted target rendered (List.mem_cons_of_mem step mem)
    cases step with
    | enter next =>
      refine List.forall_mem_append.2 ⟨?_, rest next s⟩
      unfold enter
      split
      · exact List.forall_mem_nil _
      · exact List.forall_mem_singleton.2 (entered phase next)
    | tell event => exact List.forall_mem_cons.2 ⟨told event List.mem_cons_self, rest phase s⟩
    | attempt target rendered =>
      have first := attempted target rendered List.mem_cons_self s
      exact List.forall_mem_append.2 ⟨first, rest phase _⟩

/-- The phase that a run starts with and the report that it ends with are no part of what is told
between them. -/
theorem filterMap_around {α : Type} {view : RunEvent → Option α}
    (entered : ∀ previous next, view (.entered previous next) = none)
    (finished : ∀ report, view (.finished report) = none) (phase next : RunPhase)
    (events : List RunEvent) (report : RunReport) :
    (enter phase next ++ events ++ [RunEvent.finished report]).filterMap view =
      events.filterMap view := by
  have start : (enter phase next).filterMap view = [] := by
    unfold enter
    split
    · rfl
    · exact List.filterMap_cons_none (entered phase next)
  rw [List.filterMap_append, List.filterMap_append, start, List.filterMap_cons_none (finished _)]
  exact List.append_nil _

end Run

end ExceptionStubs
