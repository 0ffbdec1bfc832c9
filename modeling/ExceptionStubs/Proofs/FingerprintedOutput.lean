import ExceptionStubs.Proofs.FingerprintEncoding
import ExceptionStubs.Proofs.MemorySink
/-!
# Output of a fingerprinted input

What a run attempts depends on its specs up to the interfaces that name them, and on its records. So
it depends on the encoded input alone, as long as that can be read back; a type that holds a NUL can
pass for more than one parameter, and then different classes have one fingerprint.
-/

namespace ExceptionStubs

namespace ExceptionSpec

theorem map_qualifiedName_withoutOrigin (specs : List ExceptionSpec) :
    (specs.map withoutOrigin).map qualifiedName = specs.map qualifiedName := by
  rw [List.map_map]
  rfl

theorem artifact?_verdict_withoutOrigin (header : Option MetadataHeader)
    (earlier : List ExceptionSpec) (s : ExceptionSpec) :
    (s.withoutOrigin.verdict header (earlier.map withoutOrigin)).artifact? =
      (s.verdict header earlier).artifact? := by
  rw [artifact?_verdict, artifact?_verdict, map_qualifiedName_withoutOrigin]
  rfl

end ExceptionSpec

theorem GenerationOptions.checks_withoutOrigin (options : GenerationOptions)
    (specs : List ExceptionSpec) :
    options.checks (specs.map ExceptionSpec.withoutOrigin) = options.checks specs := by
  unfold checks ExceptionCatalog.ofSpecs
  rw [List.foldl_map]
  rfl

namespace Group

variable (options : GenerationOptions) (header : Option MetadataHeader)
  (specs : List ExceptionSpec) (g : Group)

theorem artifact?_verdict_withoutOrigin :
    (g.verdict options header (specs.map ExceptionSpec.withoutOrigin)).artifact? =
      (g.verdict options header specs).artifact? := by
  rw [artifact?_verdict, artifact?_verdict, ExceptionSpec.map_qualifiedName_withoutOrigin,
    options.checks_withoutOrigin]

end Group

namespace Plan

theorem artifacts_specVerdicts_withoutOrigin (header : Option MetadataHeader)
    (earlier specs : List ExceptionSpec) :
    (specVerdicts header (earlier.map ExceptionSpec.withoutOrigin)
        (specs.map ExceptionSpec.withoutOrigin)).filterMap Verdict.artifact? =
      (specVerdicts header earlier specs).filterMap Verdict.artifact? := by
  induction specs generalizing earlier with
  | nil => rfl
  | cons s specs ih =>
    have rest := ih (earlier ++ [s])
    rw [List.map_append, List.map_singleton] at rest
    rw [List.map_cons, specVerdicts_cons, specVerdicts_cons, List.filterMap_cons,
      List.filterMap_cons, ExceptionSpec.artifact?_verdict_withoutOrigin, rest]

/-- Which interfaces name the exceptions reaches no class. -/
theorem artifacts_verdicts_withoutOrigin (options : GenerationOptions)
    (header : Option MetadataHeader) (specs : List ExceptionSpec) (groups : List Group) :
    (verdicts options header (specs.map ExceptionSpec.withoutOrigin) groups).filterMap
        Verdict.artifact? =
      (verdicts options header specs groups).filterMap Verdict.artifact? := by
  have exceptions := artifacts_specVerdicts_withoutOrigin header [] specs
  rw [List.map_nil] at exceptions
  simp only [verdicts, List.filterMap_append, List.filterMap_map, exceptions]
  congr 1
  apply List.filterMap_congr
  intro g _
  exact g.artifact?_verdict_withoutOrigin options header specs

end Plan

/-- Snapshots with the same encoded input attempt the same classes, if no record holds a NUL. -/
theorem Snapshot.attempts_eq_of_encode_eq {s t : Snapshot}
    (separable : ∀ r ∈ s.records, r.IsSeparable) (separable' : ∀ r ∈ t.records, r.IsSeparable)
    (same : Fingerprint.encode s.specs s.records = Fingerprint.encode t.specs t.records)
    (options : GenerationOptions) (header : MetadataHeader) :
    s.attempts options header = t.attempts options header := by
  have valid (snapshot : Snapshot) :
      ∀ spec ∈ snapshot.specs, Target.check spec.package spec.name = .ok () :=
    fun _ => ExceptionSpec.check_of_mem_accepted
  obtain ⟨specs, records⟩ :=
    Fingerprint.encode_inj (valid s) (valid t) separable separable' same
  have groups : s.groups = t.groups := congrArg Group.ofRecords records
  unfold attempts verdicts
  rw [← Plan.artifacts_verdicts_withoutOrigin, specs, Plan.artifacts_verdicts_withoutOrigin, groups]

/-- Runs over empty shelves whose inputs are encoded by the same bytes write the same artifacts and
leave the same texts, if no record holds a NUL. -/
theorem encoded_input_determines_output (s t : Snapshot)
    (separable : ∀ r ∈ s.records, r.IsSeparable) (separable' : ∀ r ∈ t.records, r.IsSeparable)
    (same : (Fingerprint.encode s.specs s.records).toUTF8 =
      (Fingerprint.encode t.specs t.records).toUTF8)
    (options : GenerationOptions) (header : MetadataHeader) (rejectExisting rejectExisting' : Bool)
    (phase phase' : RunPhase) :
    let first := run s.source options header (.memory rejectExisting) phase .empty
    let second := run t.source options header (.memory rejectExisting') phase' .empty
    ∃ report report', first.result = .ok report ∧ second.result = .ok report' ∧
      report.artifacts = report'.artifacts ∧ first.state.toList = second.state.toList := by
  intro first second
  obtain ⟨report, result, state, artifacts, -, -⟩ :=
    run_on_empty_shelf s options header rejectExisting phase
  obtain ⟨report', result', state', artifacts', -, -⟩ :=
    run_on_empty_shelf t options header rejectExisting' phase'
  have attempts := Snapshot.attempts_eq_of_encode_eq separable separable'
    (String.toByteArray_inj.1 same) options header
  refine ⟨report, report', result, result', ?_, ?_⟩
  · rw [artifacts, artifacts', attempts]
  · rw [state, state', attempts]

def Declaration.declaring (interface : String) (exceptions : List String) : Declaration where
  element := .interfaceType
  package := "billing"
  enclosing := none
  name := interface
  returnType := none
  parameters := []
  marker := .type ⟨exceptions, false⟩

def Declaration.finding (parameters : List Parameter) : Declaration where
  element := .method
  package := "billing"
  enclosing := some "Orders"
  name := "find"
  returnType := some "Order"
  parameters := parameters
  marker := .method ⟨"NotFound", "default"⟩

def Snapshot.ordered : Snapshot where
  declarations := [.declaring "Orders" ["NotFound"], .finding [⟨"String", "id"⟩]]

def Snapshot.reordered : Snapshot where
  declarations :=
    [.finding [⟨"String", "id"⟩], .declaring "Invoices" ["NotFound"], .declaring "Orders" []]

theorem encoded_input_of_reordered_orders :
    (∀ r ∈ Snapshot.ordered.records, r.IsSeparable) ∧
      (∀ r ∈ Snapshot.reordered.records, r.IsSeparable) ∧
      Snapshot.ordered.specs ≠ Snapshot.reordered.specs ∧
      Fingerprint.encode Snapshot.ordered.specs Snapshot.ordered.records =
        Fingerprint.encode Snapshot.reordered.specs Snapshot.reordered.records ∧
      ∃ report report',
        (run Snapshot.ordered.source .standard ⟨⟨2024, 1, 1, 0, 0, 0⟩⟩ (.memory false) .idle
          .empty).result = .ok report ∧
        (run Snapshot.reordered.source .standard ⟨⟨2024, 1, 1, 0, 0, 0⟩⟩ (.memory true) .done
          .empty).result = .ok report' ∧
        report.artifacts.map ArtifactRecord.qualifiedName =
          ["billing.NotFound", "billing.OrdersImpl"] ∧
        report.artifacts = report'.artifacts := by
  let header : MetadataHeader := ⟨⟨2024, 1, 1, 0, 0, 0⟩⟩
  have separable : ∀ r ∈ Snapshot.ordered.records, r.IsSeparable := by decide +kernel
  have separable' : ∀ r ∈ Snapshot.reordered.records, r.IsSeparable := by decide +kernel
  have same : Fingerprint.encode Snapshot.ordered.specs Snapshot.ordered.records =
      Fingerprint.encode Snapshot.reordered.specs Snapshot.reordered.records := by decide +kernel
  obtain ⟨report, report', result, result', artifacts, -⟩ :=
    encoded_input_determines_output _ _ separable separable' (congrArg String.toUTF8 same)
      .standard header false true .idle .done
  obtain ⟨_, known, -, attempted, -⟩ :=
    run_on_empty_shelf Snapshot.ordered .standard header false .idle
  obtain rfl := Except.ok.inj (result.symm.trans known)
  refine ⟨separable, separable', by decide +kernel, same, report, report', result, result', ?_,
    artifacts⟩
  rw [attempted, map_qualifiedName_records, Snapshot.targets_attempts]
  decide +kernel

/-- A type that holds a NUL passes for the parameter before it: the input is encoded by the same
bytes, and the texts that are left are not the same. -/
theorem encoded_input_with_null_is_ambiguous :
    let two : Snapshot := ⟨[.finding [⟨"String", "id"⟩, ⟨"long", "at"⟩]]⟩
    let one : Snapshot := ⟨[.finding [⟨"String id\x00long", "at"⟩]]⟩
    let header : MetadataHeader := ⟨⟨2024, 1, 1, 0, 0, 0⟩⟩
    Fingerprint.encode two.specs two.records = Fingerprint.encode one.specs one.records ∧
      (run two.source .standard header (.memory false) .idle .empty).state.toList ≠
        (run one.source .standard header (.memory false) .idle .empty).state.toList := by
  intro two one header
  obtain ⟨-, -, state, -⟩ := run_on_empty_shelf two .standard header false .idle
  obtain ⟨-, -, state', -⟩ := run_on_empty_shelf one .standard header false .idle
  refine ⟨by decide +kernel, ?_⟩
  rw [state, state']
  decide +kernel

end ExceptionStubs
