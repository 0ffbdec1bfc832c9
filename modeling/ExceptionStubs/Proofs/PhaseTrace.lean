import ExceptionStubs.Proofs.Account
import Mathlib.Data.List.Destutter
/-!
# Phases of a run

A run enters the phases of its steps in order and tells only those that it is not in already. So
groups that fail their checks one after the other show as one phase of validating: what is told of
the groups is an alternation of validating and emitting, whose length is given by the number of
groups that pass and by the last group alone.
-/

namespace ExceptionStubs

namespace RunEvent

def transition? : RunEvent → Option (RunPhase × RunPhase)
  | entered previous next => some (previous, next)
  | _ => none

end RunEvent

def Step.phase? : Step → Option RunPhase
  | enter phase => some phase
  | tell _ | attempt _ _ => none

@[simp] theorem Step.phase?_enter (phase : RunPhase) : (enter phase).phase? = some phase := rfl

@[simp] theorem Step.phase?_tell (event : RunEvent) : (tell event).phase? = none := rfl

@[simp] theorem Step.phase?_attempt (target : String) (rendered : Except RenderError Artifact) :
    (attempt target rendered).phase? = none := rfl

@[simp] theorem Verdict.phase?_step (v : Verdict) : v.step.phase? = none := by cases v <;> rfl

namespace RunPhase

/-- Transitions that follow each other from a phase on, and none from a phase to itself. -/
structure Follows (start : RunPhase) (transitions : List (RunPhase × RunPhase)) : Prop where
  first : ∀ t ∈ transitions.head?, t.1 = start
  linked : transitions.IsChain fun t u => t.2 = u.1
  moving : ∀ t ∈ transitions, t.1 ≠ t.2

/-- The phases of a row that are entered from a phase on. -/
def entered (phase : RunPhase) (row : List RunPhase) : List RunPhase :=
  (row.destutter' (· ≠ ·) phase).tail

@[simp] theorem entered_nil (phase : RunPhase) : entered phase [] = [] := rfl

theorem destutter'_eq_cons_entered (phase : RunPhase) (row : List RunPhase) :
    row.destutter' (· ≠ ·) phase = phase :: entered phase row := by
  unfold entered
  induction row generalizing phase with
  | nil => rfl
  | cons next row ih =>
    obtain rfl | apart := eq_or_ne phase next
    · rw [List.destutter'_cons_neg (h := by simp)]
      exact ih phase
    · rw [List.destutter'_cons_pos (h := apart), List.tail_cons]

theorem entered_cons (phase next : RunPhase) (row : List RunPhase) :
    entered phase (next :: row) =
      if phase = next then entered phase row else next :: entered next row := by
  unfold entered
  obtain rfl | apart := eq_or_ne phase next
  · rw [List.destutter'_cons_neg (h := by simp), if_pos rfl]
  · rw [List.destutter'_cons_pos (h := apart), if_neg apart, List.tail_cons,
      destutter'_eq_cons_entered, List.tail_cons]

theorem follows_entered (phase : RunPhase) (row : List RunPhase) :
    Follows phase ((phase :: entered phase row).zip (entered phase row)) := by
  have moving : (phase :: entered phase row).IsChain (· ≠ ·) := by
    rw [← destutter'_eq_cons_entered]
    exact row.isChain_destutter' (· ≠ ·) phase
  generalize entered phase row = visited at moving
  induction visited generalizing phase with
  | nil => exact ⟨by simp, by simp, by simp⟩
  | cons next visited ih =>
    obtain ⟨apart, later⟩ := List.isChain_cons_cons.1 moving
    obtain ⟨first, linked, still⟩ := ih next later
    refine ⟨by simp, ?_, ?_⟩
    · refine List.isChain_cons.2 ⟨?_, linked⟩
      intro t head
      exact (first t head).symm
    · intro t mem
      obtain rfl | mem := List.mem_cons.1 mem
      · exact apart
      · exact still t mem

/-- Validating and emitting in turn, `n` times both, with validating once more if it is left
open. -/
def alternation (n : Nat) (leftOpen : Bool) : List RunPhase :=
  (List.replicate n [validating, emitting]).flatten ++ if leftOpen then [validating] else []

theorem alternation_succ (n : Nat) (leftOpen : Bool) :
    alternation (n + 1) leftOpen = validating :: emitting :: alternation n leftOpen := by
  simp [alternation, List.replicate_succ]

def ofCheck (passed : Bool) : List RunPhase :=
  if passed then [validating, emitting] else [validating]

/-- The phases for a check are entered from emitting as they are from validating, apart from
validating itself. -/
theorem entered_ofCheck_of_emitting (passed : Bool) (row : List RunPhase) :
    entered emitting (ofCheck passed ++ row) =
      validating :: entered validating (ofCheck passed ++ row) := by
  cases passed <;> simp [ofCheck, entered_cons]

/-- Behind validating, failed checks show only if nothing comes behind them. -/
theorem entered_checks_of_validating (checks : List Bool) :
    validating :: entered validating (checks.flatMap ofCheck ++ [done]) =
      alternation (checks.count true) (checks.getLast? != some true) ++ [done] := by
  induction checks with
  | nil => rfl
  | cons passed checks ih =>
    cases passed with
    | false =>
      have last : ((false :: checks).getLast? != some true) = (checks.getLast? != some true) := by
        cases checks <;> rfl
      simpa [ofCheck, entered_cons, last] using ih
    | true =>
      cases checks with
      | nil => rfl
      | cons next checks =>
        have closed (row : List RunPhase) :
            entered validating (ofCheck true ++ row) = emitting :: entered emitting row := by
          simp [ofCheck, entered_cons]
        rw [List.flatMap_cons, List.append_assoc] at ih
        rw [List.flatMap_cons, List.flatMap_cons, List.append_assoc, List.append_assoc, closed,
          entered_ofCheck_of_emitting, ih, List.count_cons_self, alternation_succ,
          List.getLast?_cons_cons, List.cons_append, List.cons_append]

/-- Behind emitting, the phases of checks show as an alternation that is left open by a last check
that fails. -/
theorem entered_checks_of_emitting (checks : List Bool) :
    entered emitting (checks.flatMap ofCheck ++ [done]) =
      alternation (checks.count true) (checks.getLast? == some false) ++ [done] := by
  cases checks with
  | nil => rfl
  | cons first checks =>
    have whole := entered_checks_of_validating (first :: checks)
    have last : ((first :: checks).getLast? == some false) =
        ((first :: checks).getLast? != some true) := by
      rw [List.getLast?_cons]
      cases checks.getLast?.getD first <;> rfl
    rw [List.flatMap_cons, List.append_assoc] at whole ⊢
    rw [entered_ofCheck_of_emitting, whole, last]

/-- If anything is checked, it is validated first. -/
theorem head?_alternation (checks : List Bool) :
    (alternation (checks.count true) (checks.getLast? == some false)).head? =
      checks.head?.map fun _ => validating := by
  cases checks with
  | nil => rfl
  | cons first checks =>
    have whole := entered_checks_of_emitting (first :: checks)
    rw [List.flatMap_cons, List.append_assoc, entered_ofCheck_of_emitting] at whole
    cases row : alternation ((first :: checks).count true)
        ((first :: checks).getLast? == some false) with
    | nil => simp [row] at whole
    | cons phase row' =>
      rw [row, List.cons_append, List.cons.injEq] at whole
      rw [← whole.1]
      rfl

/-- Through an alternation, validating is left for emitting every time, and for the end if the
alternation is left open. -/
theorem transitions_alternation (n : Nat) (leftOpen : Bool) :
    let behind := alternation n leftOpen ++ [done]
    ((emitting :: behind).zip behind).count (validating, emitting) = n ∧
      ((validating, done) ∈ (emitting :: behind).zip behind ↔ leftOpen = true) := by
  induction n with
  | zero => cases leftOpen <;> decide
  | succ n ih =>
    obtain ⟨closed, left⟩ := ih
    rw [alternation_succ]
    exact ⟨by simpa using closed, by simpa using left⟩

end RunPhase

namespace Group

variable (options : GenerationOptions) (header : Option MetadataHeader)
  (specs : List ExceptionSpec) (g : Group)

def passes : Bool := (g.validate (options.checks specs)).isOk

/-- A group is validated, and emitted if it passes. -/
theorem phases_steps :
    (g.steps options header specs).filterMap Step.phase? =
      RunPhase.ofCheck (g.passes options specs) := by
  unfold steps passes
  cases g.validate (options.checks specs) with
  | error conflict => simp [RunPhase.ofCheck, Except.isOk, Except.toBool]
  | ok v =>
    have warnings : (v.warnings.map (Step.tell <| .tolerated ·)).filterMap Step.phase? = [] := by
      simp
    simp [RunPhase.ofCheck, Except.isOk, Except.toBool, warnings]

end Group

/-- A plan enters the phases of the checks of its groups, in order, behind those of its own. -/
theorem Plan.phases_steps (options : GenerationOptions) (header : Option MetadataHeader)
    (types methods : List Declaration) :
    let specs := Build.accepted (types.map Declaration.specs)
    let groups := Group.ofRecords (Build.accepted (methods.map Declaration.records))
    (steps options header types methods).filterMap Step.phase? =
      [.building, .grouping, .emitting] ++
        (groups.map (·.passes options specs)).flatMap RunPhase.ofCheck ++ [.done] := by
  intro specs groups
  have told (events : List RunEvent) : (events.map Step.tell).filterMap Step.phase? = [] := by
    simp
  have exceptions (vs : List Verdict) : (vs.map Verdict.step).filterMap Step.phase? = [] := by
    simp
  rw [steps_eq options header types methods rfl rfl]
  simp only [List.filterMap_append, List.filterMap_cons, told, exceptions, Step.phase?,
    List.filterMap_flatMap, Group.phases_steps, List.flatMap_map, List.filterMap_nil,
    List.nil_append]
  rfl

/-- No step of a plan tells of phases itself. -/
theorem Plan.transition?_of_mem_steps {options : GenerationOptions}
    {header : Option MetadataHeader} {types methods : List Declaration} {event : RunEvent}
    (h : .tell event ∈ steps options header types methods) : event.transition? = none := by
  let view (step : Step) : Option (RunPhase × RunPhase) := step.told?.bind RunEvent.transition?
  have found : (buildEvents types methods).filterMap (view <| .tell ·) = [] := by
    rw [List.filterMap_eq_nil_iff]
    intro event mem
    exact of_mem_buildEvents (fun _ => rfl) (fun _ => rfl) (fun _ => rfl) mem
  have decided (vs : List Verdict) : vs.filterMap (view ·.step) = [] := by
    rw [List.filterMap_eq_nil_iff]
    intro v _
    cases v <;> rfl
  have silent : (steps options header types methods).filterMap view = [] := by
    rw [filterMap_steps options header types methods (fun _ => rfl) (fun _ _ => rfl) fun _ => rfl,
      found, decided, List.append_nil]
  exact List.filterMap_eq_nil_iff.1 silent (.tell event) h

namespace Run

variable {σ ω : Type}

theorem transitions_attempt (sink : Sink σ ω) (target : String)
    (rendered : Except RenderError Artifact) (s : σ) :
    (attempt sink target rendered s).1.filterMap RunEvent.transition? = [] :=
  List.filterMap_eq_nil_iff.2
    (forall_events_attempt (fun _ _ => rfl) (fun _ => rfl) (fun _ => rfl) sink target rendered s)

/-- What is told of phases are the phases of the steps that the run is not in already. -/
theorem transitions_execute (sink : Sink σ ω) {steps : List Step}
    (quiet : ∀ event, .tell event ∈ steps → event.transition? = none) (phase : RunPhase) (s : σ) :
    let entered := phase.entered (steps.filterMap Step.phase?)
    (execute sink steps phase s).1.filterMap RunEvent.transition? =
      (phase :: entered).zip entered := by
  induction steps generalizing phase s with
  | nil => rfl
  | cons step steps ih =>
    have rest := ih fun event mem => quiet event (List.mem_cons_of_mem step mem)
    cases step with
    | enter next =>
      obtain rfl | apart := eq_or_ne phase next
      · simpa [execute, enter, RunPhase.entered_cons] using rest phase s
      · simpa [execute, enter, RunPhase.entered_cons, apart, RunEvent.transition?] using
          rest next s
    | tell event =>
      simpa [execute, quiet event List.mem_cons_self, List.filterMap_cons] using rest phase s
    | attempt target rendered =>
      simpa [execute, transitions_attempt, List.filterMap_cons] using
        rest phase (attempt sink target rendered s).2

/-- Steps that end with a phase leave a run in it. -/
theorem phase_execute_enter (sink : Sink σ ω) (steps : List Step) (last phase : RunPhase) (s : σ) :
    (execute sink (steps ++ [.enter last]) phase s).2.1 = last := by
  rw [execute_append]
  rfl

end Run

/-- Transitions through the phases of a row that are entered from a phase on. -/
structure RunPhase.Traverses (start : RunPhase) (entered : List RunPhase)
    (transitions : List (RunPhase × RunPhase)) : Prop where
  follows : Follows start transitions
  eq_zip : transitions = (start :: entered).zip entered

theorem RunPhase.traverses_entered {start : RunPhase} {row entered : List RunPhase}
    {transitions : List (RunPhase × RunPhase)} (row_eq : start.entered row = entered)
    (eq_zip : transitions = (start :: entered).zip entered) :
    start.Traverses entered transitions := by
  subst row_eq eq_zip
  exact ⟨follows_entered start row, rfl⟩

theorem RunPhase.Traverses.map_snd {start : RunPhase} {entered : List RunPhase}
    {transitions : List (RunPhase × RunPhase)} (h : start.Traverses entered transitions) :
    transitions.map Prod.snd = entered := by
  rw [h.eq_zip]
  exact List.map_snd_zip (by simp)

section Run

variable {σ ω : Type} {source : DeclarationSource} (options : GenerationOptions)
  (header : MetadataHeader) (sink : Sink σ ω) (s : σ)

/-- A run that finds marked declarations goes through the phases of its plan. -/
theorem run_of_found_traverses {types methods : List Declaration}
    (h : Run.discover source = .ok (types, methods)) (found : ¬(types = [] ∧ methods = [])) :
    let outcome := run source options header sink .idle s
    let specs := Build.accepted (types.map Declaration.specs)
    let groups := Group.ofRecords (Build.accepted (methods.map Declaration.records))
    let checks := groups.map (·.passes options specs)
    outcome.phase = .done ∧
      RunPhase.idle.Traverses
        ([.discovering, .building, .grouping, .emitting] ++
          RunPhase.alternation (checks.count true) (checks.getLast? == some false) ++ [.done])
        (outcome.events.filterMap RunEvent.transition?) := by
  intro outcome specs groups checks
  let steps := Plan.steps options (options.header? header) types methods
  have row : RunPhase.idle.entered (.discovering :: steps.filterMap Step.phase?) =
      [.discovering, .building, .grouping, .emitting] ++
        RunPhase.alternation (checks.count true) (checks.getLast? == some false) ++ [.done] := by
    have phases := Plan.phases_steps options (options.header? header) types methods
    rw [phases]
    simp [RunPhase.entered_cons, RunPhase.entered_checks_of_emitting, checks, groups, specs]
  have quiet : ∀ event, .tell event ∈ steps → event.transition? = none :=
    fun _ => Plan.transition?_of_mem_steps
  have told := Run.transitions_execute sink quiet .discovering s
  refine ⟨?_, RunPhase.traverses_entered row ?_⟩
  · simp only [outcome, run_of_found options header sink .idle s h found]
    rw [Plan.steps_eq options (options.header? header) types methods rfl rfl,
      Run.phase_execute_enter]
  · rw [← row]
    simp only [outcome, run_of_found options header sink .idle s h found]
    simp [Run.enter, RunEvent.transition?, RunPhase.entered_cons, told, steps]

end Run

/-- What a run from its idle state tells of phases is a chain of transitions without a standstill. A
run whose source fails, at the types or at the methods, stays in discovering and ends with that
failure. One that finds nothing is done behind discovering. Any other builds, groups, emits the
exceptions, and then validates and emits in turn: as often as groups pass, and leaving validating
open exactly if the last group fails. -/
theorem run_follows_phases {σ ω : Type} (source : DeclarationSource) (options : GenerationOptions)
    (header : MetadataHeader) (sink : Sink σ ω) (s : σ) :
    let outcome := run source options header sink .idle s
    let transitions := outcome.events.filterMap RunEvent.transition?
    let entered := transitions.map Prod.snd
    RunPhase.Follows .idle transitions ∧
      match source .type, source .method with
      | .ok types, .ok methods =>
        outcome.phase = .done ∧
          if types = [] ∧ methods = [] then entered = [.discovering, .done]
          else
            let specs := Build.accepted (types.map Declaration.specs)
            let groups := Group.ofRecords (Build.accepted (methods.map Declaration.records))
            let checks := groups.map (·.passes options specs)
            let alternation :=
              RunPhase.alternation (checks.count true) (checks.getLast? == some false)
            entered = [.discovering, .building, .grouping, .emitting] ++ alternation ++ [.done] ∧
              alternation.head? = checks.head?.map (fun _ => .validating) ∧
              transitions.count (.validating, .emitting) = checks.count true ∧
              ((.validating, .done) ∈ transitions ↔ checks.getLast? = some false)
      | .error e, _ | .ok _, .error e =>
        entered = [.discovering] ∧ outcome.phase = .discovering ∧ outcome.result = .error e := by
  intro outcome transitions entered
  have unreadable {e : DiscoveryError} (h : Run.discover source = .error e) :
      RunPhase.Follows .idle transitions ∧
        entered = [.discovering] ∧ outcome.phase = .discovering ∧ outcome.result = .error e := by
    have same : outcome = _ := run_of_unreadable options header sink .idle s h
    clear_value outcome
    subst same
    exact ⟨RunPhase.follows_entered .idle [.discovering], rfl, rfl, rfl⟩
  cases types : source .type with
  | error e => exact unreadable (by rw [Run.discover, types]; rfl)
  | ok types' =>
    cases methods : source .method with
    | error e => exact unreadable (by rw [Run.discover, types, methods]; rfl)
    | ok methods' =>
      have read : Run.discover source = .ok (types', methods') := by
        rw [Run.discover, types, methods]
        rfl
      by_cases idle : types' = [] ∧ methods' = []
      · obtain ⟨rfl, rfl⟩ := idle
        have same : outcome = _ := run_of_idle options header sink .idle s read
        clear_value outcome
        subst same
        exact ⟨RunPhase.follows_entered .idle [.discovering, .done], rfl, rfl⟩
      · obtain ⟨ended, trail⟩ := run_of_found_traverses options header sink s read idle
        refine ⟨trail.follows, ended, ?_⟩
        rw [if_neg idle]
        refine ⟨trail.map_snd, RunPhase.head?_alternation _, ?_⟩
        simp only [transitions, outcome, trail.eq_zip]
        generalize (Group.ofRecords _).map _ = checks
        obtain ⟨closed, left⟩ := RunPhase.transitions_alternation (checks.count true)
          (checks.getLast? == some false)
        rw [beq_iff_eq] at left
        exact ⟨by simpa using closed, by simpa using left⟩

end ExceptionStubs
