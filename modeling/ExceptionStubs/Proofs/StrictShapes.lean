import ExceptionStubs.Proofs.ThrownException
import ExceptionStubs.Proofs.MemorySink
/-!
# Strict shapes

Under the strict policy a stub is only written if the exception that it throws takes its arguments.
The catalog and the claims on targets pick the same spec for an exception: the catalog takes the
first one of a package and a name, and the first one of a qualified name is the only one whose
class is attempted.
-/

namespace ExceptionStubs

/-- The parameters that the constructors of a standard exception take. -/
theorem fitsStandard_iff {ps : List Parameter} :
    fitsStandard ps = true ↔
      (∃ message, ps = [message] ∧
        Text.trim message.typeName ∈ ["String", "java.lang.String"]) ∨
      ∃ message params, ps = [message, params] ∧
        Text.trim message.typeName ∈ ["String", "java.lang.String"] ∧
        Text.withoutBlanks params.typeName ∈
          ["Object[]", "Object...", "java.lang.Object[]", "java.lang.Object..."] := by
  unfold fitsStandard isStringType isObjectArrayType
  simp only [← List.contains_iff_mem]
  rcases ps with _ | ⟨message, _ | ⟨params, _ | ⟨more, rest⟩⟩⟩
  · simp
  · simp
  · simp
  · simp

namespace Group

/-- No record of a group that passes under the strict policy has a mismatch. -/
theorem fits_of_validate {options : GenerationOptions} {specs : List ExceptionSpec} {g : Group}
    {v : ValidatedGroup} (strict : options.shapePolicy = .strict)
    (h : g.validate (options.checks specs) = .ok v) {r : MethodRecord} (mem : r ∈ g.records) :
    r.hasShapeMismatch (.ofSpecs specs) = false := by
  obtain ⟨-, fits, -⟩ := validate_eq_ok_iff.1 h
  exact fits _ (by simp [GenerationOptions.checks, strict]) r mem

end Group

namespace Snapshot

variable {snapshot : Snapshot} {options : GenerationOptions} {header : MetadataHeader}

/-- The spec that is attempted under the qualified name of an exception is the one that the catalog
goes by. -/
theorem modeOf?_of_attemptsSpec {s : ExceptionSpec} {a : Artifact}
    (attempted : snapshot.AttemptsSpec options header s a) {package name : String}
    (dot : '.' ∉ name.toList) (target : a.qualifiedName = JavaName.qualify package name) :
    (ExceptionCatalog.ofSpecs snapshot.specs).modeOf? package name = some s.mode := by
  obtain ⟨i, at_i, attempted⟩ := attempted
  obtain ⟨free, ha, hn⟩ := ExceptionSpec.verdict_eq_attempted attempted
  have valid := Target.check_eq_ok_iff.1
    (ExceptionSpec.check_of_mem_accepted (List.mem_of_getElem? at_i))
  rw [Artifact.qualifiedName, ha, hn,
    JavaName.qualify_inj (JavaName.dot_notMem_of_isIdentifier valid.1) dot] at target
  obtain ⟨rfl, rfl⟩ := target
  refine ExceptionCatalog.modeOf?_of_first at_i ?_
  intro t mem same
  rw [Prod.mk.injEq] at same
  have taken : s.qualifiedName ∈ (snapshot.specs.take i).map ExceptionSpec.qualifiedName :=
    List.mem_map.2 ⟨t, mem, by simp only [ExceptionSpec.qualifiedName, same]⟩
  exact ExceptionSpec.claimant?_eq_none_iff.1 free taken

end Snapshot

/-- Under the strict policy, whatever the sink: where an implementation and the exception that one
of its stubs throws are both written, the catalog tells the mode of the exception that is written,
and that exception is a variadic one or the arguments of the stub fit its constructors. -/
theorem strict_stubs_fit {σ ω : Type} (snapshot : Snapshot) (options : GenerationOptions)
    (header : MetadataHeader) (sink : Sink σ ω) (phase : RunPhase) (s : σ)
    (strict : options.shapePolicy = .strict) :
    ∃ report, (run snapshot.source options header sink phase s).result = .ok report ∧
      ∀ g implementation, snapshot.AttemptsGroup options header g implementation →
        .ofArtifact implementation ∈ report.artifacts →
      ∀ r ∈ g.records, ∀ spec exception,
        snapshot.AttemptsSpec options header spec exception →
        .ofArtifact exception ∈ report.artifacts →
        exception.qualifiedName = JavaName.qualify r.exceptionTarget.1 r.exceptionTarget.2 →
      (ExceptionCatalog.ofSpecs snapshot.specs).modeOf? r.exceptionTarget.1 r.exceptionTarget.2 =
          some spec.mode ∧
        (spec.mode = .variadic ∨
          (∃ message, r.parameters.toList = [message] ∧
            Text.trim message.typeName ∈ ["String", "java.lang.String"]) ∨
          ∃ message params, r.parameters.toList = [message, params] ∧
            Text.trim message.typeName ∈ ["String", "java.lang.String"] ∧
            Text.withoutBlanks params.typeName ∈
              ["Object[]", "Object...", "java.lang.Object[]", "java.lang.Object..."]) := by
  obtain ⟨report, result, -⟩ := run_account snapshot options header sink phase s
  refine ⟨report, result, ?_⟩
  intro g implementation emitted _ r mem spec exception attempted _ target
  have mode := Snapshot.modeOf?_of_attemptsSpec attempted r.dot_notMem_exceptionTarget target
  refine ⟨mode, ?_⟩
  obtain ⟨⟨v, valid⟩, -⟩ := Group.verdict_eq_attempted emitted.2
  have fits := Group.fits_of_validate strict valid mem
  cases kind : spec.mode with
  | variadic => exact .inl rfl
  | standard =>
    rw [kind] at mode
    refine .inr (fitsStandard_iff.1 ?_)
    simpa [MethodRecord.hasShapeMismatch, mode] using fits

def Snapshot.billing : Snapshot where
  declarations :=
    [{ element := .interfaceType, package := "billing", enclosing := none, name := "Accounts",
       returnType := none, parameters := [], marker := .type ⟨["NotFound"], false⟩ },
     { element := .method, package := "billing", enclosing := some "Accounts", name := "find",
       returnType := some "String", parameters := [⟨"String", "message"⟩],
       marker := .method ⟨"NotFound", "default"⟩ }]

theorem strict_stub_of_billing_fits :
    GenerationOptions.standard.shapePolicy = .strict ∧
      ∃ report,
        (run Snapshot.billing.source .standard ⟨⟨2024, 1, 1, 0, 0, 0⟩⟩ (.memory false) .idle
          .empty).result = .ok report ∧
        report.artifacts.map ArtifactRecord.qualifiedName =
          ["billing.NotFound", "billing.AccountsImpl"] ∧
        (ExceptionCatalog.ofSpecs Snapshot.billing.specs).modeOf? "billing" "NotFound" =
          some .standard := by
  let header : MetadataHeader := ⟨⟨2024, 1, 1, 0, 0, 0⟩⟩
  obtain ⟨report, result, fit⟩ := strict_stubs_fit Snapshot.billing .standard header
    (.memory false) .idle .empty rfl
  obtain ⟨report', result', -, artifacts, -⟩ :=
    run_on_empty_shelf Snapshot.billing .standard header false .idle
  obtain rfl : report = report' := Except.ok.inj (result.symm.trans result')
  have specs : Snapshot.billing.specs = [⟨"NotFound", .standard, "billing", "Accounts"⟩] := by
    decide +kernel
  have facts : (Snapshot.billing.groups.map fun g =>
      (g.isEmitted .standard Snapshot.billing.specs,
        g.records.map MethodRecord.exceptionTarget)) = [(true, [("billing", "NotFound")])] := by
    decide +kernel
  obtain ⟨g, groups, facts⟩ := List.map_eq_singleton_iff.1 facts
  obtain ⟨emitted, thrown⟩ := Prod.mk.inj facts
  obtain ⟨r, records, thrown⟩ := List.map_eq_singleton_iff.1 thrown
  -- The implementation is attempted, and so is the exception, which is the first spec.
  obtain ⟨implementation, verdict, -⟩ := Option.map_eq_some_iff.1
    ((g.target_artifact?_verdict .standard (GenerationOptions.standard.header? header)
      Snapshot.billing.specs).trans (if_pos emitted))
  have implemented : Snapshot.billing.AttemptsGroup .standard header g implementation :=
    ⟨by simp [groups], Verdict.artifact?_eq_some_iff.1 verdict⟩
  have declared : Snapshot.billing.AttemptsSpec .standard header
      ⟨"NotFound", .standard, "billing", "Accounts"⟩ _ :=
    ⟨0, by simp [specs], ExceptionSpec.verdict_of_free rfl⟩
  have written {a : Artifact} (h : a ∈ Snapshot.billing.attempts .standard header) :
      .ofArtifact a ∈ report.artifacts := artifacts ▸ List.mem_map_of_mem h
  have names : report.artifacts.map ArtifactRecord.qualifiedName =
      ["billing.NotFound", "billing.AccountsImpl"] := by
    rw [artifacts, map_qualifiedName_records, Snapshot.targets_attempts]
    decide +kernel
  have mode := (fit g implementation implemented
    (written ((Snapshot.mem_attempts_iff ..).2 (.inr ⟨g, implemented⟩))) r (by simp [records])
    _ _ declared (written ((Snapshot.mem_attempts_iff ..).2 (.inl ⟨_, declared⟩)))
    (by rw [thrown]; rfl)).1
  rw [thrown] at mode
  exact ⟨rfl, report, result, names, mode⟩

end ExceptionStubs
