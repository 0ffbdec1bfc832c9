import ExceptionStubs.Proofs.Delivery
import ExceptionStubs.Proofs.Verdict
/-!
# The account of a run

Every spec and every group of a snapshot gets its verdict before anything is written. A run over any
sink attempts the classes of the verdicts, each target once, and its report is made up of the
answers of the sink and of the conflicts of the verdicts.
-/

namespace ExceptionStubs

namespace Snapshot

def specs (snapshot : Snapshot) : List ExceptionSpec :=
  Build.accepted ((snapshot.marked .type).map Declaration.specs)

def records (snapshot : Snapshot) : List MethodRecord :=
  Build.accepted ((snapshot.marked .method).map Declaration.records)

def groups (snapshot : Snapshot) : List Group := Group.ofRecords snapshot.records

/-- The faults that a run finds, those of types first. -/
def malformed (snapshot : Snapshot) : List Malformed :=
  Build.rejected ((snapshot.marked .type).map Declaration.specs) ++
    Build.rejected ((snapshot.marked .method).map Declaration.records)

def isMarked (snapshot : Snapshot) : Bool :=
  !((snapshot.marked .type).isEmpty && (snapshot.marked .method).isEmpty)

def steps (snapshot : Snapshot) (options : GenerationOptions) (header : MetadataHeader) :
    List Step :=
  Plan.steps options (options.header? header) (snapshot.marked .type) (snapshot.marked .method)

def preamble (snapshot : Snapshot) : List Step :=
  .enter .building ::
      (Plan.buildEvents (snapshot.marked .type) (snapshot.marked .method)).map .tell ++
    [.enter .grouping, .tell (.partitioned snapshot.specs.length snapshot.groups.length),
      .enter .emitting]

def fingerprint (snapshot : Snapshot) : String :=
  Plan.fingerprint (snapshot.marked .type) (snapshot.marked .method)

def verdicts (snapshot : Snapshot) (options : GenerationOptions) (header : MetadataHeader) :
    List Verdict :=
  Plan.verdicts options (options.header? header) snapshot.specs snapshot.groups

/-- The classes that a run attempts, in order. -/
def attempts (snapshot : Snapshot) (options : GenerationOptions) (header : MetadataHeader) :
    List Artifact :=
  (snapshot.verdicts options header).filterMap Verdict.artifact?

end Snapshot

theorem Build.rejected_events {α : Type} (told : α → RunEvent)
    (quiet : ∀ x, (told x).rejected? = none) (results : List (Except Malformed (List α))) :
    (Build.describe told .rejected results).filterMap RunEvent.rejected? =
      Build.rejected results := by
  induction results with
  | nil => rfl
  | cons result results ih =>
    rw [describe, List.flatMap_cons, List.filterMap_append, rejected, List.filterMap_cons]
    rcases result with fault | xs
    · exact congrArg _ ih
    · have none_told : (xs.map told).filterMap RunEvent.rejected? = [] := by simp [quiet]
      simp only [none_told, List.nil_append]
      exact ih

theorem Build.accepted_events {α β : Type} (told : α → RunEvent) (view : RunEvent → Option β)
    {seen : α → β} (shown : ∀ x, view (told x) = some (seen x))
    (quiet : ∀ fault, view (.rejected fault) = none)
    (results : List (Except Malformed (List α))) :
    (Build.describe told .rejected results).filterMap view = (Build.accepted results).map seen := by
  rw [describe, accepted, List.filterMap_flatMap, List.map_flatMap]
  apply List.flatMap_congr
  rintro (fault | xs) -
  · exact List.filterMap_cons_none (quiet fault)
  · simp [List.filterMap_map, shown]

/-- What is told about declarations are specs, records and faults. -/
@[elab_as_elim]
theorem Plan.of_mem_buildEvents {p : RunEvent → Prop} (declared : ∀ spec, p (.declared spec))
    (recorded : ∀ record, p (.recorded record)) (rejected : ∀ fault, p (.rejected fault))
    {types methods : List Declaration} {event : RunEvent} (h : event ∈ buildEvents types methods) :
    p event := by
  have described {α : Type} {told : α → RunEvent} (accepted : ∀ x, p (told x))
      {results : List (Except Malformed (List α))}
      (h : event ∈ Build.describe told .rejected results) : p event := by
    obtain ⟨fault | xs, -, h⟩ := List.mem_flatMap.1 h
    · rw [List.mem_singleton.1 h]
      exact rejected fault
    · obtain ⟨x, -, rfl⟩ := List.mem_map.1 h
      exact accepted x
  obtain h | h := List.mem_append.1 h
  · exact described declared h
  · exact described recorded h

/-- What is told about declarations has nothing to do with a sink or with conflicts. -/
theorem Plan.mem_buildEvents {types methods : List Declaration} {event : RunEvent}
    (h : event ∈ buildEvents types methods) :
    event.generated? = none ∧ event.failed? = none ∧ event.skipped? = none ∧
      event.tolerated? = none := by
  refine of_mem_buildEvents ?_ ?_ ?_ h
  all_goals exact fun _ => ⟨rfl, rfl, rfl, rfl⟩

namespace Verdict

theorem sound_step (v : Verdict) : v.step.Sound := by
  cases v with
  | attempted a => exact .attempt a
  | skipped conflict => exact .tell rfl rfl

theorem artifact?_step (v : Verdict) : v.step.artifact? = v.artifact? := by cases v <;> rfl

theorem skipped?_step (v : Verdict) : v.step.told?.bind RunEvent.skipped? = v.conflict? := by
  cases v <;> rfl

theorem rejected?_step (v : Verdict) : v.step.told?.bind RunEvent.rejected? = none := by
  cases v <;> rfl

end Verdict

namespace Group

variable (options : GenerationOptions) (header : Option MetadataHeader)
  (specs : List ExceptionSpec) (g : Group)

/-- The steps for a group are phases, tolerated conflicts and in the end its verdict. -/
theorem steps_eq : ∃ before, g.steps options header specs =
    before ++ [(g.verdict options header specs).step] ∧
    ∀ step ∈ before, (∃ phase, step = .enter phase) ∨ ∃ c, step = .tell (.tolerated c) := by
  unfold steps
  cases g.validate (options.checks specs) with
  | error conflict => exact ⟨[.enter .validating], rfl, by simp⟩
  | ok v =>
    refine ⟨.enter .validating :: v.warnings.map (.tell <| .tolerated ·) ++ [.enter .emitting],
      by simp, ?_⟩
    intro step h
    simp only [List.mem_append, List.mem_cons, List.mem_map, List.not_mem_nil, or_false] at h
    rcases h with (rfl | ⟨c, -, rfl⟩) | rfl
    · exact .inl ⟨_, rfl⟩
    · exact .inr ⟨c, rfl⟩
    · exact .inl ⟨_, rfl⟩

theorem sound_steps : ∀ step ∈ g.steps options header specs, step.Sound := by
  obtain ⟨before, steps, quiet⟩ := g.steps_eq options header specs
  intro step h
  rw [steps, List.mem_append, List.mem_singleton] at h
  rcases h with h | rfl
  · obtain ⟨phase, rfl⟩ | ⟨c, rfl⟩ := quiet step h
    · exact .enter phase
    · exact .tell rfl rfl
  · exact Verdict.sound_step _

/-- A view of steps that shows neither phases nor tolerated conflicts shows the verdict alone. -/
theorem filterMap_steps {α : Type} {view : Step → Option α} (phases : ∀ p, view (.enter p) = none)
    (tolerated : ∀ c, view (.tell (.tolerated c)) = none) :
    (g.steps options header specs).filterMap view =
      (view (g.verdict options header specs).step).toList := by
  obtain ⟨before, steps, quiet⟩ := g.steps_eq options header specs
  have hidden : before.filterMap view = [] := by
    rw [List.filterMap_eq_nil_iff]
    intro step h
    obtain ⟨phase, rfl⟩ | ⟨c, rfl⟩ := quiet step h
    · exact phases phase
    · exact tolerated c
  rw [steps, List.filterMap_append, hidden, List.nil_append]
  cases h : view (g.verdict options header specs).step <;> simp [h]

end Group

namespace Plan

variable (options : GenerationOptions) (header : Option MetadataHeader)
  (types methods : List Declaration)

/-- The steps of a plan are those of the verdicts, with phases and what is told around them. -/
theorem steps_eq {specs : List ExceptionSpec} {groups : List Group}
    (hs : specs = Build.accepted (types.map Declaration.specs))
    (hg : groups = Group.ofRecords (Build.accepted (methods.map Declaration.records))) :
    steps options header types methods =
      (.enter .building :: (buildEvents types methods).map .tell ++
        [.enter .grouping, .tell (.partitioned specs.length groups.length), .enter .emitting]) ++
      ((specVerdicts header [] specs).map Verdict.step ++
        groups.flatMap (·.steps options header specs)) ++ [.enter .done] := by
  obtain ⟨exceptions, known⟩ := exceptionSteps_eq header specs ClaimLedger.knows_empty
  have distinct : (groups.map Group.target).Nodup := hg ▸ Group.nodup_targets_ofRecords _
  have groupSteps := groupSteps_eq options header distinct fun g _ => known g.target
  rw [List.nil_append] at groupSteps
  subst hs hg
  simp only [steps, exceptions, groupSteps, List.append_assoc, List.cons_append, List.nil_append]

theorem sound_steps : ∀ step ∈ steps options header types methods, step.Sound := by
  intro step h
  rw [steps_eq options header types methods rfl rfl] at h
  simp only [List.mem_append, List.mem_cons, List.mem_map, List.mem_flatMap, List.not_mem_nil,
    or_false] at h
  rcases h with (((rfl | ⟨event, h, rfl⟩) | rfl | rfl | rfl) | ⟨v, -, rfl⟩ | ⟨g, -, h⟩) | rfl
  · exact .enter .building
  · obtain ⟨generated, failed, -⟩ := mem_buildEvents h
    exact .tell generated failed
  · exact .enter .grouping
  · exact .tell rfl rfl
  · exact .enter .emitting
  · exact v.sound_step
  · exact g.sound_steps _ _ _ step h
  · exact .enter .done

/-- A view of steps that shows neither phases, counts nor tolerated conflicts shows what is told
about the declarations and then the verdicts. -/
theorem filterMap_steps {α : Type} {view : Step → Option α} (phases : ∀ p, view (.enter p) = none)
    (counts : ∀ m n, view (.tell (.partitioned m n)) = none)
    (tolerated : ∀ c, view (.tell (.tolerated c)) = none) :
    (steps options header types methods).filterMap view =
      (buildEvents types methods).filterMap (view <| .tell ·) ++
        (verdicts options header (Build.accepted (types.map Declaration.specs))
          (Group.ofRecords (Build.accepted (methods.map Declaration.records)))).filterMap
            (view ·.step) := by
  have groupViews (specs : List ExceptionSpec) (groups : List Group) :
      (groups.flatMap (·.steps options header specs)).filterMap view =
        (groups.map (·.verdict options header specs)).filterMap (view ·.step) := by
    induction groups with
    | nil => rfl
    | cons g groups ih =>
      rw [List.flatMap_cons, List.filterMap_append, ih, g.filterMap_steps _ _ _ phases tolerated,
        List.map_cons, List.filterMap_cons]
      cases view (g.verdict options header specs).step <;> rfl
  rw [steps_eq options header types methods rfl rfl, verdicts]
  simp only [List.filterMap_append, List.filterMap_cons, List.filterMap_nil, List.filterMap_map,
    phases, counts, groupViews, List.append_assoc, List.append_nil, List.nil_append,
    List.cons_append]
  rfl

/-- A plan attempts the classes of the verdicts. -/
theorem attempts_steps :
    (steps options header types methods).filterMap Step.artifact? =
      (verdicts options header (Build.accepted (types.map Declaration.specs))
        (Group.ofRecords (Build.accepted (methods.map Declaration.records)))).filterMap
          Verdict.artifact? := by
  rw [filterMap_steps options header types methods (fun _ => rfl) (fun _ _ => rfl) fun _ => rfl]
  simp [Verdict.artifact?_step]

/-- The conflicts that a plan tells are those of the verdicts. -/
theorem skipped_steps :
    ((steps options header types methods).filterMap Step.told?).filterMap RunEvent.skipped? =
      (verdicts options header (Build.accepted (types.map Declaration.specs))
        (Group.ofRecords (Build.accepted (methods.map Declaration.records)))).filterMap
          Verdict.conflict? := by
  have quiet : (buildEvents types methods).filterMap RunEvent.skipped? = [] :=
    List.filterMap_eq_nil_iff.2 fun event h => (mem_buildEvents h).2.2.1
  rw [List.filterMap_filterMap,
    filterMap_steps options header types methods (fun _ => rfl) (fun _ _ => rfl) fun _ => rfl]
  simp [quiet, Verdict.skipped?_step]

/-- The faults that a plan tells are those of the types and then those of the methods. -/
theorem rejected_steps :
    ((steps options header types methods).filterMap Step.told?).filterMap RunEvent.rejected? =
      Build.rejected (types.map Declaration.specs) ++
        Build.rejected (methods.map Declaration.records) := by
  rw [List.filterMap_filterMap,
    filterMap_steps options header types methods (fun _ => rfl) (fun _ _ => rfl) fun _ => rfl]
  have silent (vs : List Verdict) : vs.filterMap (·.step.told?.bind RunEvent.rejected?) = [] :=
    List.filterMap_eq_nil_iff.2 fun v _ => v.rejected?_step
  simp [silent, buildEvents, Build.rejected_events .declared fun _ => rfl,
    Build.rejected_events .recorded fun _ => rfl]

end Plan

namespace Snapshot

variable {snapshot : Snapshot}

theorem discover_source (snapshot : Snapshot) :
    Run.discover snapshot.source = .ok (snapshot.marked .type, snapshot.marked .method) := rfl

theorem isMarked_eq_false_iff :
    snapshot.isMarked = false ↔ snapshot.marked .type = [] ∧ snapshot.marked .method = [] := by
  simp [isMarked]

theorem verdicts_of_unmarked (h : snapshot.isMarked = false) (options : GenerationOptions)
    (header : MetadataHeader) : snapshot.verdicts options header = [] := by
  obtain ⟨types, methods⟩ := isMarked_eq_false_iff.1 h
  simp [verdicts, specs, groups, records, types, methods, Build.accepted, Group.ofRecords,
    Plan.verdicts, Plan.specVerdicts]

theorem malformed_of_unmarked (h : snapshot.isMarked = false) : snapshot.malformed = [] := by
  obtain ⟨types, methods⟩ := isMarked_eq_false_iff.1 h
  simp [malformed, types, methods, Build.rejected]

theorem steps_eq (snapshot : Snapshot) (options : GenerationOptions) (header : MetadataHeader) :
    snapshot.steps options header =
      snapshot.preamble ++
        ((Plan.specVerdicts (options.header? header) [] snapshot.specs).map Verdict.step ++
          snapshot.groups.flatMap (·.steps options (options.header? header) snapshot.specs)) ++
        [.enter .done] :=
  Plan.steps_eq _ _ _ _ rfl rfl

/-- Plans that make the same checks look the same to a view to which their verdicts do. -/
theorem map_steps_congr {α : Type} {view : Step → α} {options options' : GenerationOptions}
    {header header' : MetadataHeader} (snapshot : Snapshot)
    (checks : options.checks snapshot.specs = options'.checks snapshot.specs)
    (specs : ∀ (earlier : List ExceptionSpec) (s : ExceptionSpec),
      view (s.verdict (options.header? header) earlier).step =
        view (s.verdict (options'.header? header') earlier).step)
    (groups : ∀ g : Group,
      view (g.verdict options (options.header? header) snapshot.specs).step =
        view (g.verdict options' (options'.header? header') snapshot.specs).step) :
    (snapshot.steps options header).map view = (snapshot.steps options' header').map view := by
  have specSteps (earlier later : List ExceptionSpec) :
      ((Plan.specVerdicts (options.header? header) earlier later).map Verdict.step).map view =
        ((Plan.specVerdicts (options'.header? header') earlier later).map Verdict.step).map
          view := by
    induction later generalizing earlier with
    | nil => rfl
    | cons s later ih => simp only [Plan.specVerdicts_cons, List.map_cons, specs, ih]
  have groupSteps (g : Group) :
      (g.steps options (options.header? header) snapshot.specs).map view =
        (g.steps options' (options'.header? header') snapshot.specs).map view := by
    unfold Group.steps
    rw [checks]
    cases g.validate (options'.checks snapshot.specs) <;> simp [groups g]
  rw [steps_eq, steps_eq]
  simp only [List.map_append, List.map_flatMap, specSteps, groupSteps]

theorem sound_steps (snapshot : Snapshot) (options : GenerationOptions) (header : MetadataHeader) :
    ∀ step ∈ snapshot.steps options header, step.Sound :=
  Plan.sound_steps _ _ _ _

theorem attempts_steps (snapshot : Snapshot) (options : GenerationOptions)
    (header : MetadataHeader) :
    (snapshot.steps options header).filterMap Step.artifact? = snapshot.attempts options header :=
  Plan.attempts_steps _ _ _ _

theorem skipped_steps (snapshot : Snapshot) (options : GenerationOptions)
    (header : MetadataHeader) :
    ((snapshot.steps options header).filterMap Step.told?).filterMap RunEvent.skipped? =
      (snapshot.verdicts options header).filterMap Verdict.conflict? :=
  Plan.skipped_steps _ _ _ _

end Snapshot

section Run

variable {σ ω : Type} {source : DeclarationSource} {snapshot : Snapshot}
  (options : GenerationOptions) (header : MetadataHeader) (sink : Sink σ ω) (phase : RunPhase)
  (s : σ)

/-- A run that cannot find out what is marked ends there. -/
theorem run_of_unreadable {e : DiscoveryError} (h : Run.discover source = .error e) :
    run source options header sink phase s =
      ⟨.error e, Run.enter phase .discovering, .discovering, s⟩ := by
  unfold run
  rw [h]

theorem run_of_idle (h : Run.discover source = .ok ([], [])) :
    run source options header sink phase s =
      ⟨.ok .unclaimed,
        Run.enter phase .discovering ++ [.nothingMarked, .entered .discovering .done],
        .done, s⟩ := by
  unfold run
  rw [h]

/-- A run that finds marked declarations carries out its plan. -/
theorem run_of_found {types methods : List Declaration}
    (h : Run.discover source = .ok (types, methods)) (found : ¬(types = [] ∧ methods = [])) :
    let outcome := Run.execute sink
      (Plan.steps options (options.header? header) types methods) .discovering s
    let report := RunReport.ofEvents (Plan.fingerprint types methods) outcome.1
    run source options header sink phase s =
      ⟨.ok report, Run.enter phase .discovering ++ outcome.1 ++ [.finished report],
        outcome.2.1, outcome.2.2⟩ := by
  unfold run
  rw [h]
  split
  · next unreadable => cases unreadable
  · next idle =>
    rw [Except.ok.injEq, Prod.mk.injEq] at idle
    exact absurd idle found
  · next same =>
    cases same
    rfl

theorem run_of_unmarked (h : snapshot.isMarked = false) :
    run snapshot.source options header sink phase s =
      ⟨.ok .unclaimed,
        Run.enter phase .discovering ++ [.nothingMarked, .entered .discovering .done],
        .done, s⟩ := by
  obtain ⟨types, methods⟩ := Snapshot.isMarked_eq_false_iff.1 h
  refine run_of_idle options header sink phase s ?_
  rw [snapshot.discover_source, types, methods]

/-- A run over a snapshot with marked declarations carries out its plan. -/
theorem run_of_marked (h : snapshot.isMarked = true) :
    let outcome := Run.execute sink (snapshot.steps options header) .discovering s
    let report := RunReport.ofEvents snapshot.fingerprint outcome.1
    run snapshot.source options header sink phase s =
      ⟨.ok report, Run.enter phase .discovering ++ outcome.1 ++ [.finished report],
        outcome.2.1, outcome.2.2⟩ := by
  refine run_of_found options header sink phase s snapshot.discover_source fun idle => ?_
  rw [Snapshot.isMarked_eq_false_iff.2 idle] at h
  cases h

end Run

/-- A report that is made up of the answers of a sink and of the verdicts on a snapshot. -/
structure RunReport.Accounts (report : RunReport) (snapshot : Snapshot)
    (options : GenerationOptions) (header : MetadataHeader) (answers : List Answer) : Prop where
  claimed : report.claimed = snapshot.isMarked
  dryRun : report.dryRun = false
  artifacts : report.artifacts = (answers.filterMap Answer.written?).map ArtifactRecord.ofArtifact
  writeFailures : report.writeFailures = answers.filterMap Answer.failure?
  conflicts : report.conflicts = (snapshot.verdicts options header).filterMap Verdict.conflict?
  malformed : report.malformed = snapshot.malformed
  inputFingerprint : report.inputFingerprint =
    if snapshot.isMarked then some snapshot.fingerprint else none

namespace RunReport

variable {snapshot : Snapshot} {options options' : GenerationOptions}
  {header header' : MetadataHeader}

/-- Reports on one snapshot with the same failures and conflicts differ in artifacts at most. -/
theorem Accounts.eq_up_to_artifacts {report report' : RunReport} {answers answers' : List Answer}
    (h : report.Accounts snapshot options header answers)
    (h' : report'.Accounts snapshot options' header' answers')
    (writeFailures : report.writeFailures = report'.writeFailures)
    (conflicts : report.conflicts = report'.conflicts) :
    report = { report' with artifacts := report.artifacts } := by
  have claimed := h.claimed.trans h'.claimed.symm
  have dryRun := h.dryRun.trans h'.dryRun.symm
  have malformed := h.malformed.trans h'.malformed.symm
  have inputFingerprint := h.inputFingerprint.trans h'.inputFingerprint.symm
  cases report
  cases report'
  simp_all only

/-- Reports on one snapshot are the same if their artifacts, failures and conflicts are. -/
theorem Accounts.eq {report report' : RunReport} {answers answers' : List Answer}
    (h : report.Accounts snapshot options header answers)
    (h' : report'.Accounts snapshot options' header' answers')
    (artifacts : report.artifacts = report'.artifacts)
    (writeFailures : report.writeFailures = report'.writeFailures)
    (conflicts : report.conflicts = report'.conflicts) : report = report' := by
  rw [h.eq_up_to_artifacts h' writeFailures conflicts, artifacts]

/-- The report of the events that tell the steps of the plan. -/
theorem accounts_ofEvents {answers : List Answer} {events : List RunEvent}
    (marked : snapshot.isMarked = true)
    (told : Run.Told (snapshot.steps options header) answers events) :
    (ofEvents snapshot.fingerprint events).Accounts snapshot options header answers where
  claimed := marked.symm
  dryRun := rfl
  artifacts := congrArg _ told.generated
  writeFailures := told.failed
  conflicts :=
    (told.planned RunEvent.planned_skipped?).trans (snapshot.skipped_steps options header)
  malformed := (told.planned RunEvent.planned_rejected?).trans (Plan.rejected_steps ..)
  inputFingerprint := by rw [if_pos marked]; rfl

theorem accounts_unclaimed (unmarked : snapshot.isMarked = false) :
    unclaimed.Accounts snapshot options header [] where
  claimed := unmarked.symm
  dryRun := rfl
  artifacts := rfl
  writeFailures := rfl
  conflicts := by rw [Snapshot.verdicts_of_unmarked unmarked]; rfl
  malformed := (Snapshot.malformed_of_unmarked unmarked).symm
  inputFingerprint := by rw [unmarked]; rfl

end RunReport

/-- A run over a snapshot ends with a report, and delivers its attempts and nothing else. -/
theorem run_account {σ ω : Type} (snapshot : Snapshot) (options : GenerationOptions)
    (header : MetadataHeader) (sink : Sink σ ω) (phase : RunPhase) (s : σ) :
    ∃ report, (run snapshot.source options header sink phase s).result = .ok report ∧
      (run snapshot.source options header sink phase s).state =
        (sink.deliverAll (snapshot.attempts options header) s).2 ∧
      report.Accounts snapshot options header
        (sink.deliverAll (snapshot.attempts options header) s).1 := by
  cases marked : snapshot.isMarked with
  | false =>
    have none_attempted : snapshot.attempts options header = [] := by
      rw [Snapshot.attempts, Snapshot.verdicts_of_unmarked marked]
      rfl
    rw [run_of_unmarked options header sink phase s marked, none_attempted]
    exact ⟨_, rfl, rfl, RunReport.accounts_unclaimed marked⟩
  | true =>
    obtain ⟨state, told⟩ :=
      Run.execute_spec sink (snapshot.sound_steps options header) .discovering s
    rw [snapshot.attempts_steps] at state told
    rw [run_of_marked options header sink phase s marked]
    exact ⟨_, rfl, state, RunReport.accounts_ofEvents marked told⟩

end ExceptionStubs
