import ExceptionStubs.Proofs.Interleaving
import ExceptionStubs.Proofs.ShapePolicies
/-!
# Diagnostics and report

The diagnostics of a run and its report are views of the same events. A run tells what it finds in
the declarations before it checks or attempts anything, so the faults of declarations come before
all other errors and the notes on declarations before those on artifacts; behind them every
conflict, every failure and every mismatch that is tolerated is told where it is met.
-/

namespace ExceptionStubs

def Diagnostic.messages (level : DiagnosticLevel) (diagnostics : List Diagnostic) : List String :=
  (diagnostics.filter (·.level = level)).map message

namespace RunEvent

def isFinding : RunEvent → Bool
  | declared _ | recorded _ | rejected _ => true
  | _ => false

def message? (level : DiagnosticLevel) (event : RunEvent) : Option String :=
  (event.diagnostic?.filter (·.level = level)).map Diagnostic.message

def finding? (event : RunEvent) : Option String :=
  if event.isFinding then event.message? .note else none

theorem planned_finding? : Planned finding? :=
  ⟨fun _ _ => rfl, fun _ _ => rfl, fun _ => rfl, fun _ => rfl⟩

theorem messages_diagnostics (level : DiagnosticLevel) (events : List RunEvent) :
    Diagnostic.messages level (diagnostics events) = events.filterMap (message? level) := by
  rw [Diagnostic.messages, diagnostics, List.filter_filterMap, List.map_filterMap]
  rfl

structure FindingViews (event : RunEvent) : Prop where
  note : event.message? .note = event.finding?
  error : event.message? .error = event.rejected?.map Malformed.message
  generated : event.generated? = none
  skipped : event.skipped? = none
  failed : event.failed? = none
  tolerated : event.tolerated? = none

theorem findingViews {event : RunEvent} (h : event.isFinding = true ∨ event.diagnostic? = none) :
    FindingViews event := by
  cases event <;> first
    | exact ⟨rfl, rfl, rfl, rfl, rfl, rfl⟩
    | exact absurd h (by simp [isFinding, diagnostic?])

structure OtherViews (event : RunEvent) : Prop where
  finding : event.finding? = none
  rejected : event.rejected? = none
  note : event.message? .note = event.generated?.map fun a => s!"generated {a.qualifiedName}"
  error : (event.message? .error = event.skipped?.map Conflict.message ∧
      event.failed? = none ∧ event.tolerated? = none) ∨
    (event.message? .error = event.failed?.map WriteFailure.message ∧
      event.skipped? = none ∧ event.tolerated? = none) ∨
    (event.message? .error = event.tolerated?.map Conflict.message ∧
      event.skipped? = none ∧ event.failed? = none)

theorem otherViews {event : RunEvent} (h : event.isFinding = false) : OtherViews event := by
  cases event with
  | declared _ | recorded _ | rejected _ => cases h
  | skipped _ => exact ⟨rfl, rfl, rfl, .inl ⟨rfl, rfl, rfl⟩⟩
  | tolerated _ => exact ⟨rfl, rfl, rfl, .inr (.inr ⟨rfl, rfl, rfl⟩)⟩
  | _ => exact ⟨rfl, rfl, rfl, .inr (.inl ⟨rfl, rfl, rfl⟩)⟩

/-- What is found in declarations is told before everything else that makes a diagnostic. -/
structure FindingsFirst (first second : List RunEvent) : Prop where
  first : ∀ event ∈ first, event.isFinding = true ∨ event.diagnostic? = none
  second : ∀ event ∈ second, event.isFinding = false

namespace FindingsFirst

variable {first second : List RunEvent} (h : FindingsFirst first second)

include h

/-- A view that shows nothing of findings shows the second part alone. -/
theorem filterMap_of_other {α : Type} {view : RunEvent → Option α}
    (blind : ∀ event : RunEvent, (event.isFinding = true ∨ event.diagnostic? = none) →
      view event = none) :
    (first ++ second).filterMap view = second.filterMap view := by
  have unseen : first.filterMap view = [] :=
    List.filterMap_eq_nil_iff.2 fun event mem => blind event (h.first event mem)
  rw [List.filterMap_append, unseen, List.nil_append]

/-- A view that shows findings alone shows the first part alone. -/
theorem filterMap_of_finding {α : Type} {view : RunEvent → Option α}
    (blind : ∀ event : RunEvent, event.isFinding = false → view event = none) :
    (first ++ second).filterMap view = first.filterMap view := by
  have unseen : second.filterMap view = [] :=
    List.filterMap_eq_nil_iff.2 fun event mem => blind event (h.second event mem)
  rw [List.filterMap_append, unseen, List.append_nil]

/-- The notes are those on declarations and then those on artifacts. -/
theorem notes :
    (first ++ second).filterMap (message? .note) =
      (first ++ second).filterMap finding? ++
        ((first ++ second).filterMap generated?).map fun a => s!"generated {a.qualifiedName}" := by
  have before : first.filterMap (message? .note) = first.filterMap finding? :=
    List.filterMap_congr fun event mem => (findingViews (h.first event mem)).note
  have behind : second.filterMap (message? .note) =
      (second.filterMap generated?).map fun a => s!"generated {a.qualifiedName}" := by
    rw [List.map_filterMap]
    exact List.filterMap_congr fun event mem => (otherViews (h.second event mem)).note
  rw [h.filterMap_of_finding fun event other => (otherViews other).finding,
    h.filterMap_of_other fun event found => (findingViews found).generated,
    List.filterMap_append, before, behind]

/-- The errors are the faults of declarations and then, interleaved, conflicts, failures and
mismatches that are tolerated. -/
theorem errors :
    ∃ skipped later,
      (first ++ second).filterMap (message? .error) =
        ((first ++ second).filterMap rejected?).map Malformed.message ++ later ∧
      Interleaved (((first ++ second).filterMap skipped?).map Conflict.message)
        (((first ++ second).filterMap failed?).map WriteFailure.message) skipped ∧
      Interleaved skipped (((first ++ second).filterMap tolerated?).map Conflict.message)
        later := by
  have before : first.filterMap (message? .error) =
      (first.filterMap rejected?).map Malformed.message := by
    rw [List.map_filterMap]
    exact List.filterMap_congr fun event mem => (findingViews (h.first event mem)).error
  let refusal (event : RunEvent) : Option String :=
    (event.skipped?.map Conflict.message).or (event.failed?.map WriteFailure.message)
  refine ⟨second.filterMap refusal, second.filterMap (message? .error), ?_, ?_, ?_⟩
  · rw [h.filterMap_of_finding fun event other => (otherViews other).rejected,
      List.filterMap_append, before]
  · rw [h.filterMap_of_other fun event found => (findingViews found).skipped,
      h.filterMap_of_other fun event found => (findingViews found).failed,
      List.map_filterMap, List.map_filterMap]
    apply interleaved_filterMap
    intro event mem
    obtain ⟨-, failed, -⟩ | ⟨-, skipped, -⟩ | ⟨-, skipped, failed⟩ :=
      (otherViews (h.second event mem)).error
    · simp [refusal, failed]
    · simp [refusal, skipped]
    · simp [refusal, skipped, failed]
  · rw [h.filterMap_of_other fun event found => (findingViews found).tolerated,
      List.map_filterMap]
    apply interleaved_filterMap
    intro event mem
    obtain ⟨error, failed, tolerated⟩ | ⟨error, skipped, tolerated⟩ | ⟨error, skipped, failed⟩ :=
      (otherViews (h.second event mem)).error
    · simp [refusal, error, failed, tolerated]
    · simp [refusal, error, skipped, tolerated]
    · simp [refusal, error, skipped, failed]

end FindingsFirst

end RunEvent

theorem Verdict.finding?_step (v : Verdict) : v.step.told?.bind RunEvent.finding? = none := by
  cases v <;> rfl

theorem Verdict.isFinding_of_step {v : Verdict} {event : RunEvent} (h : .tell event = v.step) :
    event.isFinding = false := by
  cases v with
  | attempted a => cases h
  | skipped conflict =>
    cases h
    rfl

theorem Group.isFinding_of_mem_steps {options : GenerationOptions}
    {header : Option MetadataHeader} {specs : List ExceptionSpec} {g : Group} {event : RunEvent}
    (h : .tell event ∈ g.steps options header specs) : event.isFinding = false := by
  obtain ⟨before, steps, quiet⟩ := g.steps_eq options header specs
  rw [steps, List.mem_append, List.mem_singleton] at h
  obtain mem | last := h
  · obtain ⟨phase, ⟨⟩⟩ | ⟨conflict, same⟩ := quiet _ mem
    cases same
    rfl
  · exact Verdict.isFinding_of_step last

namespace Plan

variable (options : GenerationOptions) (header : Option MetadataHeader)
  (types methods : List Declaration)

/-- A plan tells of every spec and then of every record that is accepted. -/
theorem findings_steps :
    ((steps options header types methods).filterMap Step.told?).filterMap RunEvent.finding? =
      (Build.accepted (types.map Declaration.specs)).map
          (fun s => s!"exception {s.qualifiedName} declared by {s.origin}") ++
        (Build.accepted (methods.map Declaration.records)).map fun r =>
          s!"method {r.methodName.text} of {r.owner.qualifiedInterface} throws " ++
            r.exceptionType.text := by
  have silent (vs : List Verdict) : vs.filterMap (·.step.told?.bind RunEvent.finding?) = [] :=
    List.filterMap_eq_nil_iff.2 fun v _ => v.finding?_step
  have specNotes := Build.accepted_events .declared RunEvent.finding? (fun _ => rfl) (fun _ => rfl)
    (types.map Declaration.specs)
  have recordNotes := Build.accepted_events .recorded RunEvent.finding? (fun _ => rfl)
    (fun _ => rfl) (methods.map Declaration.records)
  rw [List.filterMap_filterMap,
    filterMap_steps options header types methods (fun _ => rfl) (fun _ _ => rfl) fun _ => rfl,
    silent, List.append_nil, buildEvents, List.filterMap_append]
  exact congrArg₂ _ specNotes recordNotes

/-- With warnings, what is told to be tolerated are the mismatches in groups with a uniform
component model; otherwise nothing is. -/
theorem tolerated_told :
    ((steps options header types methods).filterMap Step.told?).filterMap RunEvent.tolerated? =
      if options.shapePolicy = .warn then
        (Group.ofRecords (Build.accepted (methods.map Declaration.records))).flatMap
          (·.tolerated options (Build.accepted (types.map Declaration.specs)))
      else [] := by
  rw [List.filterMap_filterMap]
  refine (tolerated_steps options header types methods).trans ?_
  split
  · next warned =>
    have same : options = options.under .warn := by rw [← warned]; rfl
    refine List.flatMap_congr fun g _ => ?_
    rw [same]
    exact g.tolerated_steps_warn
  · next unwarned =>
    exact List.flatMap_eq_nil_iff.2 fun g _ => Group.tolerated_steps_of_ne unwarned

end Plan

namespace Run

variable {σ ω : Type} (sink : Sink σ ω)

theorem isFinding_attempt (target : String) (rendered : Except RenderError Artifact) (s : σ) :
    ∀ event ∈ (attempt sink target rendered s).1, event.isFinding = false :=
  forall_events_attempt (fun _ _ => rfl) (fun _ => rfl) (fun _ => rfl) sink target rendered s

/-- Carrying out a plan tells the findings first. -/
theorem findingsFirst_execute (options : GenerationOptions) (header : Option MetadataHeader)
    (types methods : List Declaration) (phase : RunPhase) (s : σ) :
    ∃ first second,
      (execute sink (Plan.steps options header types methods) phase s).1 = first ++ second ∧
        RunEvent.FindingsFirst first second := by
  rw [Plan.steps_eq options header types methods rfl rfl, List.append_assoc, List.append_assoc,
    execute_append]
  refine ⟨_, _, rfl, ?_, ?_⟩
  · refine forall_events_execute (fun _ _ => .inr rfl) ?_ ?_ _ _
    · intro event mem
      simp only [List.mem_cons, reduceCtorEq, List.mem_map, Step.tell.injEq, false_or] at mem
      obtain ⟨event, found, rfl⟩ := mem
      left
      exact Plan.of_mem_buildEvents (fun _ => rfl) (fun _ => rfl) (fun _ => rfl) found
    · intro target rendered mem
      simp at mem
  · refine forall_events_execute (fun _ _ => rfl) ?_
      (fun target rendered _ => isFinding_attempt sink target rendered) _ _
    intro event mem
    simp only [List.mem_append, List.mem_cons, List.mem_map, List.mem_flatMap, List.not_mem_nil,
      or_false, reduceCtorEq, false_or, Step.tell.injEq] at mem
    obtain rfl | ⟨v, -, verdict⟩ | ⟨g, -, step⟩ := mem
    · rfl
    · exact Verdict.isFinding_of_step verdict.symm
    · exact Group.isFinding_of_mem_steps step

end Run

/-- The errors among diagnostics are the faults, conflicts and failures of a report, with conflicts
that were tolerated between them; the notes tell of every spec, every record and every artifact. -/
structure RunReport.Mirrors (report : RunReport) (specs : List ExceptionSpec)
    (records : List MethodRecord) (tolerated : List Conflict) (diagnostics : List Diagnostic) :
    Prop where
  errors : ∃ skipped later,
    Diagnostic.messages .error diagnostics = report.malformed.map Malformed.message ++ later ∧
    Interleaved (report.conflicts.map Conflict.message)
      (report.writeFailures.map WriteFailure.message) skipped ∧
    Interleaved skipped (tolerated.map Conflict.message) later
  notes : Diagnostic.messages .note diagnostics =
    specs.map (fun s => s!"exception {s.qualifiedName} declared by {s.origin}") ++
      records.map (fun r =>
        s!"method {r.methodName.text} of {r.owner.qualifiedInterface} throws " ++
          r.exceptionType.text) ++
      report.artifacts.map fun a => s!"generated {a.qualifiedName}"

section Run

variable {σ ω : Type} {source : DeclarationSource} (options : GenerationOptions)
  (header : MetadataHeader) (sink : Sink σ ω) (phase : RunPhase) (s : σ)

theorem run_of_unreadable_is_silent {e : DiscoveryError} (h : Run.discover source = .error e) :
    let outcome := run source options header sink phase s
    outcome.result = .error e ∧ outcome.state = s ∧
      (∀ target path, .opened target path ∉ outcome.events) ∧
      RunEvent.diagnostics outcome.events = [] := by
  rw [run_of_unreadable options header sink phase s h]
  refine ⟨rfl, rfl, fun target path mem => ?_, Run.diagnostics_enter ..⟩
  dsimp only [Run.enter] at mem
  split at mem <;> simp at mem

theorem run_of_found_is_mirrored {types methods : List Declaration}
    (h : Run.discover source = .ok (types, methods)) :
    let outcome := run source options header sink phase s
    let specs := Build.accepted (types.map Declaration.specs)
    let records := Build.accepted (methods.map Declaration.records)
    ∃ report, outcome.result = .ok report ∧
      report.Mirrors specs records
        (if options.shapePolicy = .warn then
          (Group.ofRecords records).flatMap (·.tolerated options specs)
        else [])
        (RunEvent.diagnostics outcome.events) := by
  by_cases idle : types = [] ∧ methods = []
  · obtain ⟨rfl, rfl⟩ := idle
    rw [run_of_idle options header sink phase s h]
    have silent : RunEvent.diagnostics (Run.enter phase .discovering ++
        [.nothingMarked, .entered .discovering .done]) = [] := by
      rw [RunEvent.diagnostics, List.filterMap_append]
      exact congrArg₂ _ (Run.diagnostics_enter ..) rfl
    have untolerated (tolerated : Group → List Conflict) :
        (Group.ofRecords (Build.accepted [])).flatMap tolerated = [] := rfl
    refine ⟨.unclaimed, rfl, ⟨[], [], ?_, .nil, ?_⟩, ?_⟩
    · rw [silent]
      rfl
    · rw [List.map_nil, List.map_nil, untolerated, ite_self]
      exact .nil
    · rw [silent]
      rfl
  · obtain ⟨first, second, events, order⟩ := Run.findingsFirst_execute sink options
      (options.header? header) types methods .discovering s
    obtain ⟨-, told⟩ := Run.execute_spec sink
      (Plan.sound_steps options (options.header? header) types methods) .discovering s
    rw [events] at told
    have findings := (told.planned RunEvent.planned_finding?).trans (Plan.findings_steps ..)
    have tolerated := (told.planned RunEvent.planned_tolerated?).trans (Plan.tolerated_told ..)
    rw [run_of_found options header sink phase s h idle, events]
    have messages (level : DiagnosticLevel) (report : RunReport) :
        Diagnostic.messages level (RunEvent.diagnostics
            (Run.enter phase .discovering ++ (first ++ second) ++ [.finished report])) =
          (first ++ second).filterMap (RunEvent.message? level) := by
      rw [RunEvent.messages_diagnostics]
      exact Run.filterMap_around (fun _ _ => rfl) (fun _ => rfl) _ _ _ _
    refine ⟨_, rfl, ?_, ?_⟩
    · rw [messages, ← tolerated]
      exact order.errors
    · rw [messages, order.notes, findings, RunReport.ofEvents, List.map_map]
      rfl

end Run

/-- A run whose source can be read ends with a report that its diagnostics mirror: first come the
faults of the declarations, and then every conflict, every failure and, with warnings, every
mismatch that is tolerated, where it is met; besides, every spec and every record is noted, and then
every artifact. A run whose source fails, at the types or at the methods, ends with that failure,
leaves the sink alone and tells nothing. -/
theorem diagnostics_mirror_report {σ ω : Type} (source : DeclarationSource)
    (options : GenerationOptions) (header : MetadataHeader) (sink : Sink σ ω) (phase : RunPhase)
    (s : σ) :
    let outcome := run source options header sink phase s
    let diagnostics := RunEvent.diagnostics outcome.events
    match source .type, source .method with
    | .ok types, .ok methods =>
      let specs := Build.accepted (types.map Declaration.specs)
      let records := Build.accepted (methods.map Declaration.records)
      let tolerated :=
        if options.shapePolicy = .warn then
          (Group.ofRecords records).flatMap (·.tolerated options specs)
        else []
      ∃ report, outcome.result = .ok report ∧
        report.Mirrors specs records tolerated diagnostics
    | .error e, _ | .ok _, .error e =>
      outcome.result = .error e ∧ outcome.state = s ∧
        (∀ target path, .opened target path ∉ outcome.events) ∧ diagnostics = [] := by
  intro outcome diagnostics
  cases types : source .type with
  | error e =>
    have failed : Run.discover source = .error e := by rw [Run.discover, types]; rfl
    exact run_of_unreadable_is_silent options header sink phase s failed
  | ok types' =>
    cases methods : source .method with
    | error e =>
      have failed : Run.discover source = .error e := by rw [Run.discover, types, methods]; rfl
      exact run_of_unreadable_is_silent options header sink phase s failed
    | ok methods' =>
      have found : Run.discover source = .ok (types', methods') := by
        rw [Run.discover, types, methods]
        rfl
      exact run_of_found_is_mirrored options header sink phase s found

end ExceptionStubs
