import ExceptionStubs.Proofs.MemorySink
/-!
# Shape policies compared

The three policies look for the same mismatches and differ in what becomes of the groups that have
one. Without a check and with warnings the same classes are written, and only the warnings are not
told; under the strict policy the implementations of these groups are left out, which makes room for
nothing, because no two groups have the same target and a spec has its target either way.
-/

namespace ExceptionStubs

def RunEvent.isTolerated (event : RunEvent) : Bool := event.tolerated?.isSome

namespace Step

def tolerated? (step : Step) : Option Conflict := step.told?.bind RunEvent.tolerated?

def isTolerated (step : Step) : Bool := step.tolerated?.isSome

@[simp] theorem tolerated?_enter (phase : RunPhase) : (enter phase).tolerated? = none := rfl

@[simp] theorem tolerated?_tell (event : RunEvent) :
    (tell event).tolerated? = event.tolerated? := rfl

@[simp] theorem tolerated?_step (v : Verdict) : v.step.tolerated? = none := by cases v <;> rfl

end Step

namespace Run

variable {σ ω : Type}

theorem isTolerated_enter (phase next : RunPhase) :
    (enter phase next).filter (!·.isTolerated) = enter phase next := by
  unfold enter
  split <;> rfl

theorem isTolerated_attempt (sink : Sink σ ω) (target : String)
    (rendered : Except RenderError Artifact) (s : σ) :
    (attempt sink target rendered s).1.filter (!·.isTolerated) =
      (attempt sink target rendered s).1 :=
  List.filter_eq_self.2 <|
    forall_events_attempt (fun _ _ => rfl) (fun _ => rfl) (fun _ => rfl) sink target rendered s

/-- Steps that tell what is tolerated have no influence on the others. -/
theorem execute_untolerated (sink : Sink σ ω) (steps : List Step) (phase : RunPhase) (s : σ) :
    execute sink (steps.filter (!·.isTolerated)) phase s =
      ((execute sink steps phase s).1.filter (!·.isTolerated), (execute sink steps phase s).2) := by
  induction steps generalizing phase s with
  | nil => rfl
  | cons step steps ih =>
    cases step with
    | enter next =>
      rw [List.filter_cons_of_pos rfl]
      simp only [execute, ih, List.filter_append, isTolerated_enter]
    | tell event =>
      have same : (Step.tell event).isTolerated = event.isTolerated := rfl
      cases told : event.isTolerated <;> simp [execute, ih, same, told]
    | attempt target rendered =>
      rw [List.filter_cons_of_pos rfl]
      simp only [execute, ih, List.filter_append, isTolerated_attempt]

end Run

def GenerationOptions.under (options : GenerationOptions) (policy : ShapePolicy) :
    GenerationOptions :=
  { options with shapePolicy := policy }

@[simp] theorem GenerationOptions.header?_under (options : GenerationOptions)
    (policy : ShapePolicy) (header : MetadataHeader) :
    (options.under policy).header? header = options.header? header := rfl

namespace Group

def modelFault? (options : GenerationOptions) (g : Group) : Option Conflict :=
  if options.consistencyCheck then g.modelConflict? else none

def hasMismatch (specs : List ExceptionSpec) (g : Group) : Bool :=
  g.records.any (·.hasShapeMismatch (.ofSpecs specs))

variable {options : GenerationOptions} {header : Option MetadataHeader}
  {specs : List ExceptionSpec} {g : Group}

theorem shapeConflicts_eq_nil_iff :
    g.shapeConflicts (.ofSpecs specs) = [] ↔ g.hasMismatch specs = false := by
  simp [shapeConflicts, hasMismatch]

/-- The component model is checked in the same way under all policies. -/
theorem validate_under (policy : ShapePolicy) :
    g.validate ((options.under policy).checks specs) =
      match g.modelFault? options with
      | some conflict => .error conflict
      | none => g.checkShapes ((options.under policy).checks specs).shapes := rfl

theorem validate_of_fault {conflict : Conflict} (h : g.modelFault? options = some conflict)
    (policy : ShapePolicy) :
    g.validate ((options.under policy).checks specs) = .error conflict := by
  rw [validate_under, h]

theorem validate_of_uniform (h : g.modelFault? options = none) (policy : ShapePolicy) :
    g.validate ((options.under policy).checks specs) =
      g.checkShapes ((options.under policy).checks specs).shapes := by
  rw [validate_under, h]

theorem validate_off (h : g.modelFault? options = none) :
    g.validate ((options.under .off).checks specs) = .ok ⟨g, []⟩ :=
  validate_of_uniform h .off

theorem validate_warn (h : g.modelFault? options = none) :
    g.validate ((options.under .warn).checks specs) =
      .ok ⟨g, g.shapeConflicts (.ofSpecs specs)⟩ :=
  validate_of_uniform h .warn

theorem validate_strict (h : g.modelFault? options = none) :
    g.validate ((options.under .strict).checks specs) =
      match g.shapeConflicts (.ofSpecs specs) with
      | [] => .ok ⟨g, []⟩
      | conflict :: _ => .error conflict :=
  validate_of_uniform h .strict

/-- Whatever the policy, nothing is found in a group without a mismatch. -/
theorem validate_of_fits (h : g.modelFault? options = none) (fits : g.hasMismatch specs = false)
    (policy : ShapePolicy) :
    g.validate ((options.under policy).checks specs) = .ok ⟨g, []⟩ := by
  have none_found := shapeConflicts_eq_nil_iff.2 fits
  cases policy with
  | strict => rw [validate_strict h, none_found]
  | warn => rw [validate_warn h, none_found]
  | off => exact validate_off h

/-- A group with a mismatch is in conflict under the strict policy. -/
theorem validate_strict_of_mismatch (options : GenerationOptions)
    (mismatch : g.hasMismatch specs = true) :
    ∃ conflict, g.validate ((options.under .strict).checks specs) = .error conflict := by
  cases uniform : g.modelFault? options with
  | some conflict => exact ⟨conflict, validate_of_fault uniform .strict⟩
  | none =>
    cases found : g.shapeConflicts (.ofSpecs specs) with
    | nil =>
      rw [shapeConflicts_eq_nil_iff, mismatch] at found
      cases found
    | cons conflict rest => exact ⟨conflict, by rw [validate_strict uniform, found]⟩

theorem steps_of_fits (fits : g.hasMismatch specs = false) (policy policy' : ShapePolicy) :
    g.steps (options.under policy) header specs = g.steps (options.under policy') header specs := by
  unfold steps verdict
  cases uniform : g.modelFault? options with
  | some conflict => rw [validate_of_fault uniform, validate_of_fault uniform]
  | none =>
    rw [validate_of_fits uniform fits, validate_of_fits uniform fits]
    rfl

theorem verdict_off :
    g.verdict (options.under .off) header specs = g.verdict (options.under .warn) header specs := by
  unfold verdict
  cases uniform : g.modelFault? options with
  | some conflict => rw [validate_of_fault uniform, validate_of_fault uniform]
  | none =>
    rw [validate_off uniform, validate_warn uniform]
    rfl

theorem verdict_strict_of_fits (fits : g.hasMismatch specs = false) :
    g.verdict (options.under .strict) header specs =
      g.verdict (options.under .warn) header specs := by
  unfold verdict
  cases uniform : g.modelFault? options with
  | some conflict => rw [validate_of_fault uniform, validate_of_fault uniform]
  | none =>
    rw [validate_of_fits uniform fits, validate_of_fits uniform fits]
    rfl

theorem verdict_strict_of_mismatch (options : GenerationOptions) (header : Option MetadataHeader)
    (mismatch : g.hasMismatch specs = true) :
    ∃ conflict, g.verdict (options.under .strict) header specs = .skipped conflict := by
  obtain ⟨conflict, found⟩ := validate_strict_of_mismatch options mismatch
  exact ⟨conflict, verdict_of_conflict found⟩

/-- The mismatches that are tolerated in a group whose component model is uniform. -/
def tolerated (options : GenerationOptions) (specs : List ExceptionSpec) (g : Group) :
    List Conflict :=
  if (g.modelFault? options).isSome then [] else g.shapeConflicts (.ofSpecs specs)

/-- Without a check the steps for a group are those with warnings, apart from the warnings. -/
theorem steps_off :
    g.steps (options.under .off) header specs =
      (g.steps (options.under .warn) header specs).filter (!·.isTolerated) := by
  unfold steps
  rw [verdict_off]
  cases uniform : g.modelFault? options with
  | some conflict => simp [validate_of_fault uniform, List.filter_cons, Step.isTolerated]
  | none =>
    simp [validate_off uniform, validate_warn uniform, List.filter_cons, Step.isTolerated,
      RunEvent.tolerated?]

/-- With warnings, the steps for a group tell what is tolerated. -/
theorem tolerated_steps_warn :
    (g.steps (options.under .warn) header specs).filterMap Step.tolerated? =
      g.tolerated options specs := by
  unfold steps tolerated
  cases uniform : g.modelFault? options with
  | some conflict => simp [validate_of_fault uniform, List.filterMap_cons]
  | none =>
    have all (conflicts : List Conflict) :
        (conflicts.map (Step.tell <| .tolerated ·)).filterMap Step.tolerated? = conflicts := by
      rw [List.filterMap_map]
      exact List.filterMap_some
    simp [validate_warn uniform, List.filterMap_cons, List.filterMap_append, all]

/-- Nothing is tolerated under the other policies. -/
theorem tolerated_steps_of_ne (h : options.shapePolicy ≠ .warn) :
    (g.steps options header specs).filterMap Step.tolerated? = [] := by
  have unwarned {v : ValidatedGroup} (valid : g.validate (options.checks specs) = .ok v) :
      v.warnings = [] := by
    obtain ⟨-, -, rfl⟩ := validate_eq_ok_iff.1 valid
    exact warnings_of_not_warn (by simp [GenerationOptions.checks, h])
  unfold steps
  cases valid : g.validate (options.checks specs) with
  | error conflict => simp [List.filterMap_cons]
  | ok v => simp [List.filterMap_cons, unwarned valid]

end Group

namespace Plan

theorem tolerated_buildEvents (types methods : List Declaration) :
    ((buildEvents types methods).map Step.tell).filterMap Step.tolerated? = [] := by
  rw [List.filterMap_map]
  exact List.filterMap_eq_nil_iff.2 fun event h => (mem_buildEvents h).2.2.2

/-- What a plan tells to be tolerated is what the steps for its groups tell. -/
theorem tolerated_steps (options : GenerationOptions) (header : Option MetadataHeader)
    (types methods : List Declaration) :
    (steps options header types methods).filterMap Step.tolerated? =
      (Group.ofRecords (Build.accepted (methods.map Declaration.records))).flatMap fun g =>
        (g.steps options header (Build.accepted (types.map Declaration.specs))).filterMap
          Step.tolerated? := by
  have specSteps (verdicts : List Verdict) :
      (verdicts.map Verdict.step).filterMap Step.tolerated? = [] := by
    rw [List.filterMap_eq_nil_iff]
    intro step h
    obtain ⟨v, -, rfl⟩ := List.mem_map.1 h
    exact Step.tolerated?_step v
  have counts (m n : Nat) : (Step.tell (.partitioned m n)).tolerated? = none := rfl
  rw [steps_eq options header types methods rfl rfl]
  simp only [List.filterMap_append, List.filterMap_cons, List.filterMap_nil,
    List.filterMap_flatMap, Step.tolerated?_enter, counts, tolerated_buildEvents, specSteps,
    List.nil_append, List.append_nil]

end Plan

namespace Snapshot

variable (snapshot : Snapshot) (options : GenerationOptions) (header : MetadataHeader)

theorem tolerated_preamble : snapshot.preamble.filterMap Step.tolerated? = [] := by
  rw [preamble, List.filterMap_append, List.filterMap_cons, Plan.tolerated_buildEvents]
  rfl

theorem steps_off :
    snapshot.steps (options.under .off) header =
      (snapshot.steps (options.under .warn) header).filter (!·.isTolerated) := by
  have preamble : snapshot.preamble.filter (!·.isTolerated) = snapshot.preamble := by
    rw [List.filter_eq_self]
    intro step h
    have quiet := List.filterMap_eq_nil_iff.1 snapshot.tolerated_preamble step h
    simp [Step.isTolerated, quiet]
  have specSteps (verdicts : List Verdict) :
      (verdicts.map Verdict.step).filter (!·.isTolerated) = verdicts.map Verdict.step := by
    rw [List.filter_eq_self]
    intro step h
    obtain ⟨v, -, rfl⟩ := List.mem_map.1 h
    simp [Step.isTolerated]
  rw [steps_eq, steps_eq]
  simp only [List.filter_append, List.filter_flatMap, preamble, specSteps, Group.steps_off]
  rfl

/-- With warnings, a plan tells what is tolerated in its groups. -/
theorem tolerated_steps_warn :
    (snapshot.steps (options.under .warn) header).filterMap Step.tolerated? =
      snapshot.groups.flatMap (·.tolerated options snapshot.specs) := by
  rw [steps, Plan.tolerated_steps]
  exact List.flatMap_congr fun g _ => g.tolerated_steps_warn

/-- Without mismatches all policies plan the same. -/
theorem steps_of_fits (fits : ∀ g ∈ snapshot.groups, g.hasMismatch snapshot.specs = false)
    (policy policy' : ShapePolicy) :
    snapshot.steps (options.under policy) header =
      snapshot.steps (options.under policy') header := by
  have groupSteps : snapshot.groups.flatMap
        (·.steps (options.under policy) (options.header? header) snapshot.specs) =
      snapshot.groups.flatMap
        (·.steps (options.under policy') (options.header? header) snapshot.specs) :=
    List.flatMap_congr fun g mem => Group.steps_of_fits (fits g mem) policy policy'
  rw [steps_eq, steps_eq]
  simp only [GenerationOptions.header?_under, groupSteps]

def conflictOf? (g : Group) : Option Conflict :=
  (g.verdict options (options.header? header) snapshot.specs).conflict?

def specConflicts : List Conflict :=
  (Plan.specVerdicts (options.header? header) [] snapshot.specs).filterMap Verdict.conflict?

theorem conflicts_eq :
    (snapshot.verdicts options header).filterMap Verdict.conflict? =
      snapshot.specConflicts options header ++
        snapshot.groups.filterMap (snapshot.conflictOf? options header) := by
  rw [verdicts, Plan.verdicts, List.filterMap_append, List.filterMap_map]
  rfl

/-- Under the strict policy the groups are in conflict that are so with warnings, and those that
have a mismatch and get as far as the check of shapes. -/
theorem conflictOf?_strict (g : Group) :
    (snapshot.conflictOf? (options.under .strict) header g).isSome = true ↔
      (snapshot.conflictOf? (options.under .warn) header g).isSome = true ∨
        g.modelFault? options = none ∧ g.hasMismatch snapshot.specs = true := by
  unfold conflictOf?
  cases mismatch : g.hasMismatch snapshot.specs with
  | false => simp [Group.verdict_strict_of_fits mismatch]
  | true =>
    obtain ⟨conflict, skipped⟩ := Group.verdict_strict_of_mismatch options
      (options.header? header) mismatch
    cases uniform : g.modelFault? options with
    | none => simp [skipped, Verdict.conflict?]
    | some fault =>
      simp [Group.verdict_of_conflict (Group.validate_of_fault uniform _), Verdict.conflict?]

/-- The targets of the implementations that are attempted with warnings although their groups have
a mismatch. -/
def mismatching : List String :=
  (snapshot.groups.filter fun g =>
    g.isEmitted (options.under .warn) snapshot.specs && g.hasMismatch snapshot.specs).map
      Group.target

variable {snapshot options}

theorem notMem_mismatching_of_spec {target : String}
    (h : target ∈ snapshot.specs.map ExceptionSpec.qualifiedName) :
    target ∉ snapshot.mismatching options := by
  intro mem
  obtain ⟨g, found, rfl⟩ := List.mem_map.1 mem
  have emitted := (List.mem_filter.1 found).2
  simp only [Group.isEmitted, Bool.and_eq_true, decide_eq_true_eq] at emitted
  exact emitted.1.2 h

/-- As no two groups have the same target, only its own mismatch makes a group one of these. -/
theorem target_mem_mismatching_iff {g : Group} (mem : g ∈ snapshot.groups)
    (emitted : g.isEmitted (options.under .warn) snapshot.specs = true) :
    g.target ∈ snapshot.mismatching options ↔ g.hasMismatch snapshot.specs = true := by
  constructor
  · intro h
    obtain ⟨other, found, same⟩ := List.mem_map.1 h
    obtain ⟨mem', mismatch⟩ := List.mem_filter.1 found
    obtain rfl := List.inj_on_of_nodup_map (Group.nodup_targets_ofRecords _) mem' mem same
    exact (Bool.and_eq_true_iff.1 mismatch).2
  · intro mismatch
    refine List.mem_map_of_mem (List.mem_filter.2 ⟨mem, ?_⟩)
    rw [emitted, mismatch]
    rfl

variable (snapshot options)

theorem specAttempts_strict :
    ((Plan.specVerdicts (options.header? header) [] snapshot.specs).filterMap
        Verdict.artifact?).filter (·.qualifiedName ∉ snapshot.mismatching options) =
      (Plan.specVerdicts (options.header? header) [] snapshot.specs).filterMap
        Verdict.artifact? := by
  rw [List.filter_eq_self]
  intro a mem
  have named := List.mem_map_of_mem (f := Artifact.qualifiedName) mem
  rw [Plan.targets_specVerdicts, List.mem_eraseDups] at named
  exact decide_eq_true (notMem_mismatching_of_spec named)

theorem groupAttempt_strict {g : Group} (mem : g ∈ snapshot.groups) :
    (g.verdict (options.under .strict) (options.header? header) snapshot.specs).artifact? =
      (g.verdict (options.under .warn) (options.header? header) snapshot.specs).artifact?.filter
        (·.qualifiedName ∉ snapshot.mismatching options) := by
  cases mismatch : g.hasMismatch snapshot.specs with
  | false =>
    rw [Group.verdict_strict_of_fits mismatch]
    cases attempt :
        (g.verdict (options.under .warn) (options.header? header) snapshot.specs).artifact? with
    | none => rfl
    | some a =>
      obtain ⟨emitted, name⟩ := Group.isEmitted_of_artifact? attempt
      have kept : a.qualifiedName ∉ snapshot.mismatching options := by
        rw [name, target_mem_mismatching_iff mem emitted, mismatch]
        exact Bool.false_ne_true
      simp [Option.filter, kept]
  | true =>
    obtain ⟨conflict, skipped⟩ := Group.verdict_strict_of_mismatch options
      (options.header? header) mismatch
    rw [skipped]
    cases attempt :
        (g.verdict (options.under .warn) (options.header? header) snapshot.specs).artifact? with
    | none => rfl
    | some a =>
      obtain ⟨emitted, name⟩ := Group.isEmitted_of_artifact? attempt
      have left : a.qualifiedName ∈ snapshot.mismatching options := by
        rw [name, target_mem_mismatching_iff mem emitted, mismatch]
      simp [Option.filter, left, Verdict.artifact?]

/-- The attempts under the strict policy are those with warnings, apart from the implementations of
groups with a mismatch. -/
theorem attempts_strict :
    snapshot.attempts (options.under .strict) header =
      (snapshot.attempts (options.under .warn) header).filter
        (·.qualifiedName ∉ snapshot.mismatching options) := by
  unfold attempts verdicts Plan.verdicts
  simp only [List.filterMap_append, List.filter_append, List.filterMap_map, List.filter_filterMap,
    GenerationOptions.header?_under]
  congr 1
  · rw [← List.filter_filterMap]
    exact (snapshot.specAttempts_strict options header).symm
  · apply List.filterMap_congr
    intro g mem
    exact snapshot.groupAttempt_strict options header mem

end Snapshot

section Run

variable {σ ω : Type} (snapshot : Snapshot) (options options' : GenerationOptions)
  (header : MetadataHeader) (sink : Sink σ ω) (phase : RunPhase) (s : σ)

theorem run_eq_of_steps
    (h : snapshot.steps options header = snapshot.steps options' header) :
    run snapshot.source options header sink phase s =
      run snapshot.source options' header sink phase s := by
  cases marked : snapshot.isMarked with
  | false => rw [run_of_unmarked _ _ _ _ _ marked, run_of_unmarked _ _ _ _ _ marked]
  | true => rw [run_of_marked _ _ _ _ _ marked, run_of_marked _ _ _ _ _ marked, h]

/-- What is tolerated does not show in a report. -/
theorem RunReport.ofEvents_untolerated (fingerprint : String) (events : List RunEvent) :
    ofEvents fingerprint (events.filter (!·.isTolerated)) = ofEvents fingerprint events := by
  have unseen {α : Type} {view : RunEvent → Option α}
      (blind : ∀ conflict, view (.tolerated conflict) = none) :
      (events.filter (!·.isTolerated)).filterMap view = events.filterMap view := by
    rw [List.filterMap_filter]
    apply List.filterMap_congr
    intro event _
    cases event with
    | tolerated conflict => exact (blind conflict).symm
    | _ => rfl
  simp only [ofEvents]
  rw [unseen fun _ => rfl, unseen fun _ => rfl, unseen fun _ => rfl, unseen fun _ => rfl]

/-- Without a check a run does what it does with warnings, and tells the same apart from what is
tolerated. -/
theorem run_off :
    run snapshot.source (options.under .off) header sink phase s =
      let warned := run snapshot.source (options.under .warn) header sink phase s
      { warned with events := warned.events.filter (!·.isTolerated) } := by
  have start : (Run.enter phase .discovering).filter (!·.isTolerated) =
      Run.enter phase .discovering := Run.isTolerated_enter ..
  cases marked : snapshot.isMarked with
  | false =>
    rw [run_of_unmarked _ _ _ _ _ marked, run_of_unmarked _ _ _ _ _ marked]
    simp only [List.filter_append, start]
    rfl
  | true =>
    rw [run_of_marked _ _ _ _ _ marked, run_of_marked _ _ _ _ _ marked, snapshot.steps_off]
    simp only [Run.execute_untolerated, RunReport.ofEvents_untolerated, List.filter_append, start]
    rfl

/-- With warnings a run tells what is tolerated in its groups. -/
theorem tolerated_run_warn :
    (run snapshot.source (options.under .warn) header sink phase s).events.filterMap
        RunEvent.tolerated? =
      snapshot.groups.flatMap (·.tolerated options snapshot.specs) := by
  have start : (Run.enter phase .discovering).filterMap RunEvent.tolerated? = [] :=
    (Run.Told.enter phase .discovering).planned RunEvent.planned_tolerated?
  cases marked : snapshot.isMarked with
  | false =>
    have ungrouped : snapshot.groups = [] := by
      rw [Snapshot.groups, Snapshot.records, (Snapshot.isMarked_eq_false_iff.1 marked).2]
      rfl
    rw [run_of_unmarked _ _ _ _ _ marked, ungrouped, List.filterMap_append, start]
    rfl
  | true =>
    obtain ⟨-, told⟩ := Run.execute_spec sink (snapshot.sound_steps (options.under .warn) header)
      .discovering s
    have tolerated := told.planned RunEvent.planned_tolerated?
    rw [List.filterMap_filterMap] at tolerated
    rw [run_of_marked _ _ _ _ _ marked, ← snapshot.tolerated_steps_warn options header]
    exact (Run.filterMap_around (fun _ _ => rfl) (fun _ => rfl) _ _ _ _).trans tolerated

end Run

/-- Without a check of shapes and with warnings, runs over the same shelf give the same report and
leave the same shelf, and the events of the first are those of the second without the tolerated
conflicts, which are the mismatches in the groups with a uniform component model. The strict policy
takes the implementations of groups with a mismatch away from the artifacts and leaves the texts of
all others as they are; it puts into conflict, besides the groups that are so with warnings, those
with a uniform component model that have a mismatch. Where no group has a mismatch, all three runs
are the same. -/
theorem shape_policies_are_ordered (snapshot : Snapshot) (options : GenerationOptions)
    (header : MetadataHeader) (rejectExisting : Bool) (phase : RunPhase) (shelf : Shelf) :
    let runUnder policy :=
      run snapshot.source (options.under policy) header (.memory rejectExisting) phase shelf
    ∃ report stricter,
      (runUnder .off).result = .ok report ∧
        (runUnder .warn).result = .ok report ∧
        (runUnder .off).state = (runUnder .warn).state ∧
        (runUnder .off).events = (runUnder .warn).events.filter (!·.isTolerated) ∧
        (runUnder .warn).events.filterMap RunEvent.tolerated? =
          snapshot.groups.flatMap (·.tolerated options snapshot.specs) ∧
        (runUnder .strict).result = .ok stricter ∧
        stricter.artifacts =
          report.artifacts.filter (·.qualifiedName ∉ snapshot.mismatching options) ∧
        (∀ a ∈ stricter.artifacts, ∃ body,
          (runUnder .strict).state.get? a.qualifiedName = some body ∧
            (runUnder .warn).state.get? a.qualifiedName = some body) ∧
        report.conflicts = snapshot.specConflicts options header ++
          snapshot.groups.filterMap (snapshot.conflictOf? (options.under .warn) header) ∧
        stricter.conflicts = snapshot.specConflicts options header ++
          snapshot.groups.filterMap (snapshot.conflictOf? (options.under .strict) header) ∧
        (∀ g, (snapshot.conflictOf? (options.under .strict) header g).isSome = true ↔
          (snapshot.conflictOf? (options.under .warn) header g).isSome = true ∨
            g.modelFault? options = none ∧ g.hasMismatch snapshot.specs = true) ∧
        ((∀ g ∈ snapshot.groups, g.hasMismatch snapshot.specs = false) →
          runUnder .off = runUnder .warn ∧ runUnder .warn = runUnder .strict) := by
  intro runUnder
  obtain ⟨report, result, -, artifacts, account⟩ :=
    run_on_shelf snapshot (options.under .warn) header rejectExisting phase shelf
  obtain ⟨stricter, result', -, artifacts', account'⟩ :=
    run_on_shelf snapshot (options.under .strict) header rejectExisting phase shelf
  have off : runUnder .off =
      { runUnder .warn with events := (runUnder .warn).events.filter (!·.isTolerated) } :=
    run_off snapshot options header (.memory rejectExisting) phase shelf
  have admitted : snapshot.admitted (options.under .strict) header rejectExisting shelf =
      (snapshot.admitted (options.under .warn) header rejectExisting shelf).filter
        (·.qualifiedName ∉ snapshot.mismatching options) := by
    rw [Snapshot.admitted, snapshot.attempts_strict, List.filter_comm]
    rfl
  refine ⟨report, stricter, ?_, result, by rw [off], by rw [off],
    tolerated_run_warn snapshot options header _ phase shelf, result', ?_, ?_,
    account.conflicts.trans (snapshot.conflicts_eq _ header),
    account'.conflicts.trans (snapshot.conflicts_eq _ header),
    snapshot.conflictOf?_strict options header, ?_⟩
  · rw [off]
    exact result
  · rw [artifacts, artifacts', admitted, List.filter_map]
    rfl
  · intro record h
    obtain ⟨a, mem, rfl⟩ := List.mem_map.1 (artifacts' ▸ h)
    have mem' := (List.mem_filter.1 (admitted ▸ mem)).1
    exact ⟨a.body, get?_of_mem_admitted snapshot _ header rejectExisting phase mem,
      get?_of_mem_admitted snapshot _ header rejectExisting phase mem'⟩
  · intro fits
    have same (policy policy' : ShapePolicy) : runUnder policy = runUnder policy' :=
      run_eq_of_steps _ _ _ _ _ _ _ (snapshot.steps_of_fits options header fits policy policy')
    exact ⟨same .off .warn, same .warn .strict⟩

end ExceptionStubs
