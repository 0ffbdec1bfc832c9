import ExceptionStubs.Proofs.Faults
import ExceptionStubs.Proofs.ReportedDiagnostics
/-!
# What declarations contribute

Every declaration of a snapshot contributes all its specs, or its record, or its first fault and
nothing else. A run tells these contributions, those of the marked types before those of the marked
methods and each of them in the order of the snapshot, and generates from them alone.
-/

namespace ExceptionStubs

namespace Declaration

variable {d : Declaration}

/-- A marked method that is declared as it has to be. -/
structure IsWellFormedMethod (d : Declaration) : Prop where
  element : d.element = .method
  enclosing : ∃ owner, d.enclosing = some owner ∧ Text.isBlankText owner = false ∧
    JavaName.isIdentifier owner = true
  package : d.package = "" ∨ JavaName.IsDotted d.package
  name : JavaName.isIdentifier d.name = true
  returnType : ∃ type, d.returnType = some type ∧ Text.isBlankText type = false
  parameters : ∀ p ∈ d.parameters, Text.isBlankText p.typeName = false ∧
    JavaName.isIdentifier p.name = true
  distinct : (d.parameters.map Parameter.name).Nodup
  exceptionType : ∃ marker, d.marker = .method marker ∧ JavaName.IsDotted marker.exceptionType

theorem methodFaults_eq_nil_iff {marker : MethodMarker} (h : d.marker = .method marker) :
    d.methodFaults marker = [] ↔ d.IsWellFormedMethod := by
  have owned : Malformed.ofOwner d.displayName d.enclosing = [] ∧
      Malformed.ofName JavaName.isIdentifier d.displayName "interface name"
        (d.enclosing.getD "") = [] ↔
      ∃ owner, d.enclosing = some owner ∧ Text.isBlankText owner = false ∧
        JavaName.isIdentifier owner = true := by
    rw [Malformed.ofName_isIdentifier_eq_nil_iff, Malformed.ofOwner_eq_nil_iff]
    cases d.enclosing <;> simp
  have returned : Malformed.ofBlank d.displayName "return type" (d.returnType.getD "") = [] ↔
      ∃ type, d.returnType = some type ∧ Text.isBlankText type = false := by
    rw [Malformed.ofBlank_eq_nil_iff]
    cases d.returnType with
    | none => simp [Text.isBlankText]
    | some type => simp
  have thrown : Malformed.ofName JavaName.isQualifiedName d.displayName "exception type"
      marker.exceptionType = [] ↔
      ∃ marker, d.marker = .method marker ∧ JavaName.IsDotted marker.exceptionType := by
    simp [Malformed.ofName_isQualifiedName_eq_nil_iff, h]
  unfold methodFaults
  simp only [List.append_eq_nil_iff, Malformed.ofElement_eq_nil_iff, Malformed.ofPackage_eq_nil_iff,
    JavaName.isPackageName_iff, returned, thrown, Malformed.ofParameters_eq_nil_iff]
  constructor
  · rintro ⟨element, owner, package, interface, name, returnType, ⟨parameters, distinct, -⟩,
      exceptionType⟩
    exact ⟨element, owned.1 ⟨owner, interface⟩, package,
      Malformed.ofName_isIdentifier_eq_nil_iff.1 name, returnType, parameters, distinct,
      exceptionType⟩
  · rintro ⟨element, enclosing, package, name, returnType, parameters, distinct, exceptionType⟩
    obtain ⟨owner, interface⟩ := owned.2 enclosing
    exact ⟨element, owner, package, interface, Malformed.ofName_isIdentifier_eq_nil_iff.2 name,
      returnType, ⟨parameters, distinct, by simp⟩, exceptionType⟩

/-- The specs of an accepted interface: one for every name, in order. -/
theorem specs_eq_ok {marker : TypeMarker} {specs : List ExceptionSpec}
    (marked : d.marker = .type marker) (h : d.specs = .ok specs) :
    specs = marker.exceptionNames.map fun name =>
      ⟨name, .ofCustomOrder marker.customParameterOrder, d.package, d.name⟩ := by
  unfold Declaration.specs at h
  rw [marked] at h
  obtain ⟨⟨⟩, checked, h⟩ := bind_eq_ok.1 h
  obtain ⟨scope, inScope, h⟩ := bind_eq_ok.1 h
  unfold ExceptionSpec.ofMarker at h
  obtain ⟨package, packaged, h⟩ := bind_eq_ok.1 h
  obtain ⟨interface, named, h⟩ := bind_eq_ok.1 h
  obtain ⟨here, owned⟩ := scope_eq_ok inScope
  have self : d.owner = some d.name := by
    simp [owner, expectElement_eq_ok checked, ElementKind.isType]
  rw [self, Option.some.injEq] at owned
  split at h
  · cases h
  · refine eq_map_of_mapM (fun name spec made => ?_) h
    obtain ⟨identifier, valid, made⟩ := bind_eq_ok.1 made
    cases made
    rw [(Validation.identifier_eq_ok valid).1, Validation.packageName_eq_ok packaged,
      (Validation.identifier_eq_ok named).1, here, owned]

/-- The record of an accepted method is that of the type around it. -/
theorem records_eq_ok_of_method {marker : MethodMarker} {rs : List MethodRecord}
    (marked : d.marker = .method marker) (h : d.records = .ok rs) :
    ∃ r owner, rs = [r] ∧ d.enclosing = some owner ∧ r.Describes d ⟨d.package, owner⟩ marker := by
  unfold records at h
  rw [marked] at h
  obtain ⟨⟨⟩, checked, h⟩ := bind_eq_ok.1 h
  obtain ⟨⟨package, owner⟩, inScope, h⟩ := bind_eq_ok.1 h
  obtain ⟨r, made, h⟩ := bind_eq_ok.1 h
  cases h
  obtain ⟨rfl, owned⟩ := scope_eq_ok inScope
  have enclosed : d.owner = d.enclosing := by
    simp [Declaration.owner, expectElement_eq_ok checked, ElementKind.isType]
  exact ⟨r, owner, rfl, enclosed ▸ owned, MethodRecord.describes_of_ofDeclaration made⟩

def builtSpecs (d : Declaration) : List ExceptionSpec := Build.accepted [d.specs]

def builtRecords (d : Declaration) : List MethodRecord := Build.accepted [d.records]

def malformed (d : Declaration) : List Malformed :=
  Build.rejected [d.specs] ++ Build.rejected [d.records]

def told (d : Declaration) : List RunEvent :=
  d.builtSpecs.map .declared ++ d.builtRecords.map .recorded ++ d.malformed.map .rejected

/-- All specs of a type without faults, or the record of a method without faults, or the first
fault. -/
inductive Contributes (d : Declaration) :
    List ExceptionSpec → List MethodRecord → List Malformed → Prop where
  | specs {marker : TypeMarker} (marked : d.marker = .type marker)
      (faultless : d.typeFaults marker = []) :
      Contributes d
        (marker.exceptionNames.map fun name =>
          ⟨name, .ofCustomOrder marker.customParameterOrder, d.package, d.name⟩) [] []
  | record {marker : MethodMarker} (marked : d.marker = .method marker)
      (faultless : d.methodFaults marker = []) {owner : String}
      (enclosed : d.enclosing = some owner) {r : MethodRecord}
      (describes : r.Describes d ⟨d.package, owner⟩ marker) :
      Contributes d [] [r] []
  | fault (first : Malformed) (found : d.faults.head? = some first) : Contributes d [] [] [first]

theorem specs_of_method (h : d.marker.kind = .method) : d.specs = .ok [] := by
  unfold specs
  cases marked : d.marker with
  | type marker => simp [marked, Marker.kind] at h
  | method marker => rfl

theorem records_of_type (h : d.marker.kind = .type) : d.records = .ok [] := by
  unfold records
  cases marked : d.marker with
  | type marker => rfl
  | method marker => simp [marked, Marker.kind] at h

theorem contributes (d : Declaration) : d.Contributes d.builtSpecs d.builtRecords d.malformed := by
  unfold builtSpecs builtRecords malformed
  cases marked : d.marker with
  | type marker =>
    have checks := failsFirst_specs marked
    rw [records_of_type (by rw [marked, Marker.kind])]
    cases built : d.specs with
    | error fault =>
      refine .fault fault ?_
      rw [faults, marked]
      exact checks.head?_eq_some_iff.2 built
    | ok specs =>
      rw [specs_eq_ok marked built]
      simpa [Build.accepted, Build.rejected] using
        Contributes.specs marked (checks.eq_nil_iff.2 ⟨specs, built⟩)
  | method marker =>
    have checks := failsFirst_records marked
    rw [specs_of_method (by rw [marked, Marker.kind])]
    cases built : d.records with
    | error fault =>
      refine .fault fault ?_
      rw [faults, marked]
      exact checks.head?_eq_some_iff.2 built
    | ok rs =>
      obtain ⟨r, owner, rfl, enclosed, describes⟩ := records_eq_ok_of_method marked built
      exact .record marked (checks.eq_nil_iff.2 ⟨[r], built⟩) enclosed describes

/-- A well-formed method contributes the record that describes it. -/
theorem exists_builtRecords_eq_singleton {marker : MethodMarker}
    (marked : d.marker = .method marker) (h : d.IsWellFormedMethod) :
    ∃ r owner, d.builtRecords = [r] ∧ d.enclosing = some owner ∧
      r.Describes d ⟨d.package, owner⟩ marker := by
  obtain ⟨rs, built⟩ :=
    (failsFirst_records marked).succeeds ((methodFaults_eq_nil_iff marked).2 h)
  obtain ⟨r, owner, rfl, enclosed, describes⟩ := records_eq_ok_of_method marked built
  exact ⟨r, owner, by simp [builtRecords, built, Build.accepted], enclosed, describes⟩

theorem builtRecords_of_not_wellFormed (h : ¬ d.IsWellFormedMethod) : d.builtRecords = [] := by
  have whole := d.contributes
  generalize d.builtSpecs = specs, d.builtRecords = records, d.malformed = faults at whole ⊢
  cases whole with
  | record marked faultless => exact absurd ((methodFaults_eq_nil_iff marked).1 faultless) h
  | specs | fault => rfl

/-- A record is contributed by the methods that are declared as they have to be. -/
theorem builtRecords_eq_singleton_iff :
    (∃ r, d.builtRecords = [r]) ↔ d.IsWellFormedMethod := by
  constructor
  · rintro ⟨r, built⟩
    by_contra malformed
    rw [builtRecords_of_not_wellFormed malformed] at built
    cases built
  · intro wellFormed
    obtain ⟨marker, marked, -⟩ := wellFormed.exceptionType
    obtain ⟨r, -, built, -⟩ := exists_builtRecords_eq_singleton marked wellFormed
    exact ⟨r, built⟩

end Declaration

namespace Build

variable {α β : Type} (build : Declaration → Except Malformed (List α))
  (declarations : List Declaration)

theorem accepted_map :
    accepted (declarations.map build) = declarations.flatMap fun d => accepted [build d] := by
  simp [accepted, List.flatMap_map]

/-- What there is to say of declarations is said of what each contributes. -/
theorem describe_map (onAccepted : α → β) (onRejected : Malformed → β) :
    describe onAccepted onRejected (declarations.map build) =
      declarations.flatMap fun d =>
        (accepted [build d]).map onAccepted ++ (rejected [build d]).map onRejected := by
  rw [describe, List.flatMap_map]
  apply List.flatMap_congr
  intro d _
  cases build d <;> simp [accepted, rejected]

end Build

namespace Snapshot

variable (snapshot : Snapshot)

theorem kind_of_mem_marked {kind : MarkerKind} {d : Declaration} (h : d ∈ snapshot.marked kind) :
    d.marker.kind = kind := by
  simpa using (List.mem_filter.1 h).2

/-- Declarations with another marker contribute nothing to the pieces of one marker. -/
theorem flatMap_marked {α : Type} (kind : MarkerKind) {f : Declaration → List α}
    (other : ∀ d, d.marker.kind ≠ kind → f d = []) :
    (snapshot.marked kind).flatMap f = snapshot.declarations.flatMap f := by
  unfold marked
  induction snapshot.declarations with
  | nil => rfl
  | cons d declarations ih =>
    by_cases same : d.marker.kind = kind
    · simp [same, ih]
    · simp [same, ih, other d same]

theorem specs_eq_flatMap :
    snapshot.specs = snapshot.declarations.flatMap Declaration.builtSpecs := by
  rw [specs, Build.accepted_map, ← snapshot.flatMap_marked .type]
  · rfl
  · intro d other
    cases kind : d.marker.kind with
    | type => exact absurd kind other
    | method =>
      rw [Declaration.builtSpecs, Declaration.specs_of_method kind]
      rfl

theorem records_eq_flatMap :
    snapshot.records = snapshot.declarations.flatMap Declaration.builtRecords := by
  rw [records, Build.accepted_map, ← snapshot.flatMap_marked .method]
  · rfl
  · intro d other
    cases kind : d.marker.kind with
    | type =>
      rw [Declaration.builtRecords, Declaration.records_of_type kind]
      rfl
    | method => exact absurd kind other

/-- What is told of the declarations is told of each of them, the marked types first. -/
theorem buildEvents_eq_flatMap :
    Plan.buildEvents (snapshot.marked .type) (snapshot.marked .method) =
      (snapshot.marked .type ++ snapshot.marked .method).flatMap Declaration.told := by
  rw [Plan.buildEvents, List.flatMap_append, Build.describe_map, Build.describe_map]
  congr 1
  · apply List.flatMap_congr
    intro d mem
    rw [Declaration.told, Declaration.builtRecords, Declaration.malformed,
      Declaration.records_of_type (snapshot.kind_of_mem_marked mem)]
    simp [Declaration.builtSpecs]
  · apply List.flatMap_congr
    intro d mem
    rw [Declaration.told, Declaration.builtSpecs, Declaration.malformed,
      Declaration.specs_of_method (snapshot.kind_of_mem_marked mem)]
    simp [Declaration.builtRecords]

/-- The faults that are found are those of each declaration, the marked types first. -/
theorem malformed_eq_flatMap :
    snapshot.malformed =
      (snapshot.marked .type ++ snapshot.marked .method).flatMap Declaration.malformed := by
  have views := congrArg (List.filterMap RunEvent.rejected?) snapshot.buildEvents_eq_flatMap
  rw [Plan.buildEvents, List.filterMap_append, Build.rejected_events .declared fun _ => rfl,
    Build.rejected_events .recorded fun _ => rfl, List.filterMap_flatMap] at views
  refine views.trans (List.flatMap_congr fun d _ => ?_)
  simp [Declaration.told, List.filterMap_map, Function.comp_def, RunEvent.rejected?]

end Snapshot

namespace RunEvent

def told? (event : RunEvent) : Option RunEvent := if event.isFinding then some event else none

theorem planned_told? : Planned told? :=
  ⟨fun _ _ => rfl, fun _ _ => rfl, fun _ => rfl, fun _ => rfl⟩

end RunEvent

/-- A plan tells of the declarations in this way and in no other. -/
theorem Plan.told_steps (options : GenerationOptions) (header : Option MetadataHeader)
    (types methods : List Declaration) :
    ((steps options header types methods).filterMap Step.told?).filterMap RunEvent.told? =
      buildEvents types methods := by
  have silent (vs : List Verdict) : vs.filterMap (·.step.told?.bind RunEvent.told?) = [] := by
    rw [List.filterMap_eq_nil_iff]
    intro v _
    cases v <;> rfl
  rw [List.filterMap_filterMap,
    filterMap_steps options header types methods (fun _ => rfl) (fun _ _ => rfl) fun _ => rfl,
    silent, List.append_nil]
  have all : ∀ event ∈ buildEvents types methods, event.told? = some event := by
    intro event mem
    exact of_mem_buildEvents (fun _ => rfl) (fun _ => rfl) (fun _ => rfl) mem
  exact (List.filterMap_congr all).trans List.filterMap_some

/-- A run tells what the declarations contribute, the marked types first. -/
theorem run_tells_contributions {σ ω : Type} (snapshot : Snapshot) (options : GenerationOptions)
    (header : MetadataHeader) (sink : Sink σ ω) (phase : RunPhase) (s : σ) :
    (run snapshot.source options header sink phase s).events.filter RunEvent.isFinding =
      (snapshot.marked .type ++ snapshot.marked .method).flatMap Declaration.told := by
  have views : RunEvent.told? = Option.guard RunEvent.isFinding := by
    funext event
    simp [RunEvent.told?, Option.guard]
  rw [← List.filterMap_eq_filter, ← views]
  cases marked : snapshot.isMarked with
  | false =>
    obtain ⟨types, methods⟩ := Snapshot.isMarked_eq_false_iff.1 marked
    rw [run_of_unmarked options header sink phase s marked, types, methods]
    unfold Run.enter
    split <;> rfl
  | true =>
    obtain ⟨-, told⟩ := Run.execute_spec sink (snapshot.sound_steps options header) .discovering s
    rw [run_of_marked options header sink phase s marked]
    calc
      _ = (Run.execute sink (snapshot.steps options header) .discovering s).1.filterMap
          RunEvent.told? := Run.filterMap_around (fun _ _ => rfl) (fun _ => rfl) _ _ _ _
      _ = _ := told.planned RunEvent.planned_told?
      _ = _ := Plan.told_steps ..
      _ = _ := snapshot.buildEvents_eq_flatMap

/-- A declaration contributes all its specs, or its record, or only the first of its faults in the
order of its checks; it contributes a record exactly if it is a well-formed method. What is
generated from are these specs and records in the order of the snapshot. The run tells the
contributions of marked types before those of marked methods, in the order of the snapshot both,
and reports the faults among them. -/
theorem build_is_all_or_nothing {σ ω : Type} (snapshot : Snapshot) (options : GenerationOptions)
    (header : MetadataHeader) (sink : Sink σ ω) (phase : RunPhase) (s : σ) :
    let outcome := run snapshot.source options header sink phase s
    let typesFirst := snapshot.marked .type ++ snapshot.marked .method
    (∀ d : Declaration, d.Contributes d.builtSpecs d.builtRecords d.malformed ∧
      ((∃ r, d.builtRecords = [r]) ↔ d.IsWellFormedMethod)) ∧
    snapshot.specs = snapshot.declarations.flatMap Declaration.builtSpecs ∧
    snapshot.records = snapshot.declarations.flatMap Declaration.builtRecords ∧
    outcome.events.filter RunEvent.isFinding = typesFirst.flatMap Declaration.told ∧
    ∃ report, outcome.result = .ok report ∧
      report.malformed = typesFirst.flatMap Declaration.malformed := by
  intro outcome typesFirst
  obtain ⟨report, result, -, account⟩ := run_account snapshot options header sink phase s
  refine ⟨fun d => ⟨d.contributes, d.builtRecords_eq_singleton_iff⟩, snapshot.specs_eq_flatMap,
    snapshot.records_eq_flatMap, run_tells_contributions snapshot options header sink phase s,
    report, result, ?_⟩
  rw [account.malformed, snapshot.malformed_eq_flatMap]

end ExceptionStubs
