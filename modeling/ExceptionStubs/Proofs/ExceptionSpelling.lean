import ExceptionStubs.Proofs.Contribution
import ExceptionStubs.Proofs.FingerprintEncoding
import ExceptionStubs.Proofs.Rearrangement
import Mathlib.Data.List.Forall2
/-!
# Spellings of exceptions

A method names the exception of its package simply or behind the package. Either spelling stands for
the same exception, and from there on only the exception counts: it decides about the shape of the
arguments, about the imports and about what is written behind `throws`. So a run attempts the same
classes however the exceptions are spelled. What is told of a mismatch still names the exception as
it was spelled.
-/

namespace ExceptionStubs

/-- What is read off related elements is the same list if it is the same for each of them. -/
theorem map_eq_of_forall₂ {α β γ : Type} {R : α → β → Prop} {f : α → γ} {g : β → γ}
    (same : ∀ a b, R a b → f a = g b) {xs : List α} {ys : List β} (h : List.Forall₂ R xs ys) :
    xs.map f = ys.map g := by
  have pairs : List.Forall₂ (· = ·) (xs.map f) (ys.map g) := List.rel_map same h
  rwa [List.forall₂_eq_eq_eq] at pairs

theorem filterMap_eq_of_forall₂ {α β γ : Type} {R : α → β → Prop} {f : α → Option γ}
    {g : β → Option γ} (same : ∀ a b, R a b → f a = g b) {xs : List α} {ys : List β}
    (h : List.Forall₂ R xs ys) : xs.filterMap f = ys.filterMap g := by
  have views := congrArg (List.filterMap id) (map_eq_of_forall₂ same h)
  rwa [List.filterMap_map, List.filterMap_map] at views

namespace JavaName

/-- Two spellings of an exception that is named within a package. A name without dots stands for the
exception of the package. -/
inductive Respells (package : String) : String → String → Prop where
  | same (name : String) : Respells package name name
  | qualified {name : String} (simple : '.' ∉ name.toList) :
      Respells package name (qualify package name)
  | simple {name : String} (simple : '.' ∉ name.toList) :
      Respells package (qualify package name) name

namespace Respells

variable {package name name' : String}

theorem symm (h : Respells package name name') : Respells package name' name := by
  cases h with
  | same => exact .same _
  | qualified simple => exact .simple simple
  | simple simple => exact .qualified simple

/-- Both spellings stand for one package and simple name. -/
theorem unqualify?_eq (h : Respells package name name') :
    (unqualify? name).getD (package, name) = (unqualify? name').getD (package, name') := by
  have both {name : String} (simple : '.' ∉ name.toList) :
      (unqualify? name).getD (package, name) =
        (unqualify? (qualify package name)).getD (package, qualify package name) := by
    have alone : unqualify? name = none := unqualify?_qualify simple ""
    rw [alone, unqualify?_qualify simple]
    cases empty : package.isEmpty <;> simp [qualify, empty]
  cases h with
  | same => rfl
  | qualified simple => exact both simple
  | simple simple => exact (both simple).symm

/-- Both spellings are qualified names, or none is. -/
theorem isQualifiedName_eq (h : Respells package name name')
    (valid : isPackageName package = true) : isQualifiedName name = isQualifiedName name' := by
  cases h with
  | same => rfl
  | qualified simple =>
    rw [isQualifiedName_of_simple simple, isQualifiedName_qualify_of_simple valid simple]
  | simple simple =>
    rw [isQualifiedName_of_simple simple, isQualifiedName_qualify_of_simple valid simple]

end Respells

end JavaName

namespace MethodRecord

/-- The same record, up to the spelling of its exception. -/
inductive Respells : MethodRecord → MethodRecord → Prop where
  | intro (r : MethodRecord) (name : QualifiedName)
      (spelled : JavaName.Respells r.owner.package.text r.exceptionType.text name.text) :
      Respells r { r with exceptionType := name }

namespace Respells

variable {r r' : MethodRecord}

theorem refl (r : MethodRecord) : r.Respells r := .intro r r.exceptionType (.same _)

theorem owner_eq (h : r.Respells r') : r.owner = r'.owner := by
  cases h
  rfl

theorem componentModel_eq (h : r.Respells r') : r.componentModel = r'.componentModel := by
  cases h
  rfl

theorem exceptionTarget_eq (h : r.Respells r') : r.exceptionTarget = r'.exceptionTarget := by
  cases h with
  | intro name spelled => exact spelled.unqualify?_eq

theorem hasShapeMismatch_eq (h : r.Respells r') (catalog : ExceptionCatalog) :
    r.hasShapeMismatch catalog = r'.hasShapeMismatch catalog := by
  unfold hasShapeMismatch
  rw [h.exceptionTarget_eq]
  cases h
  rfl

end Respells

/-- An exception that is named simply can be named behind its package as well. -/
theorem exists_respells_qualify (r : MethodRecord) (simple : '.' ∉ r.exceptionType.text.toList) :
    ∃ r', r.Respells r' ∧ r'.exceptionType.text =
      JavaName.qualify r.owner.package.text r.exceptionType.text := by
  have named : JavaName.isIdentifier r.exceptionType.text = true := by
    rw [← JavaName.isQualifiedName_of_simple simple]
    exact r.exceptionType.valid
  have valid := JavaName.isQualifiedName_qualify r.owner.package.valid named
  exact ⟨_, .intro r ⟨_, valid⟩ (.qualified simple), rfl⟩

end MethodRecord

namespace Group

def Respells (g g' : Group) : Prop := List.Forall₂ MethodRecord.Respells g.records g'.records

namespace Respells

variable {g g' : Group}

theorem first (h : g.Respells g') : g.first.Respells g'.first := (List.forall₂_cons.1 h).1

theorem key_eq (h : g.Respells g') : g.key = g'.key := h.first.owner_eq

/-- What the spelling of a record does not change it does not change of a group. -/
theorem map_eq {α : Type} {f f' : MethodRecord → α} (h : g.Respells g')
    (same : ∀ r r', r.Respells r' → f r = f' r') : g.records.map f = g'.records.map f' :=
  map_eq_of_forall₂ same h

theorem filterMap_eq {α : Type} {f f' : MethodRecord → Option α} (h : g.Respells g')
    (same : ∀ r r', r.Respells r' → f r = f' r') :
    g.records.filterMap f = g'.records.filterMap f' :=
  filterMap_eq_of_forall₂ same h

theorem isUniform_iff (h : g.Respells g') : g.IsUniform ↔ g'.IsUniform := by
  have models (g : Group) : g.IsUniform ↔
      ∀ model ∈ g.records.map MethodRecord.componentModel,
        ∀ model' ∈ g.records.map MethodRecord.componentModel,
          sameComponentModel model model' = true := by
    simp [IsUniform]
  rw [models, models, h.map_eq fun _ _ => MethodRecord.Respells.componentModel_eq]

theorem mismatches_eq (h : g.Respells g') (catalog : ExceptionCatalog) :
    g.records.map (·.hasShapeMismatch catalog) = g'.records.map (·.hasShapeMismatch catalog) :=
  h.map_eq fun _ _ spelled => spelled.hasShapeMismatch_eq catalog

theorem fits_iff (h : g.Respells g') (shapes : Option (ExceptionCatalog × ShapePolicy)) :
    g.Fits shapes ↔ g'.Fits shapes := by
  have mismatches (g : Group) : g.Fits shapes ↔ ∀ catalog, shapes = some (catalog, .strict) →
      ∀ mismatch ∈ g.records.map (·.hasShapeMismatch catalog), mismatch = false := by
    simp [Fits]
  simp only [mismatches, h.mismatches_eq]

theorem length_warnings_eq (h : g.Respells g')
    (shapes : Option (ExceptionCatalog × ShapePolicy)) :
    (g.warnings shapes).length = (g'.warnings shapes).length := by
  have count (g : Group) (catalog : ExceptionCatalog) : (g.shapeConflicts catalog).length =
      (g.records.map (·.hasShapeMismatch catalog)).count true := by
    rw [shapeConflicts, List.length_map, ← List.countP_eq_length_filter, List.count,
      List.countP_map]
    simp [Function.comp_def]
  unfold warnings
  split
  · rw [count, count, h.mismatches_eq]
  · rfl

/-- The group passes in either spelling or in none, and with as many mismatches. -/
theorem validate_cases (h : g.Respells g') (checks : ConsistencyChecks) :
    (∃ v v', g.validate checks = .ok v ∧ g'.validate checks = .ok v' ∧
        v.group.Respells v'.group ∧ v.warnings.length = v'.warnings.length) ∨
      ∃ c c', g.validate checks = .error c ∧ g'.validate checks = .error c' := by
  have accepted : (∃ v, g.validate checks = .ok v) ↔ ∃ v', g'.validate checks = .ok v' := by
    simp only [validate_eq_ok_iff, h.isUniform_iff, h.fits_iff, exists_and_left, exists_eq]
  cases valid : g.validate checks with
  | ok v =>
    obtain ⟨v', valid'⟩ := accepted.1 ⟨v, valid⟩
    obtain ⟨-, -, rfl⟩ := validate_eq_ok_iff.1 valid
    obtain ⟨-, -, rfl⟩ := validate_eq_ok_iff.1 valid'
    exact .inl ⟨_, _, rfl, valid', h, h.length_warnings_eq checks.shapes⟩
  | error c =>
    cases valid' : g'.validate checks with
    | ok v' =>
      obtain ⟨v, passed⟩ := accepted.2 ⟨v', valid'⟩
      exact absurd (passed.symm.trans valid) nofun
    | error c' => exact .inr ⟨c, c', rfl, rfl⟩

theorem interface_eq (h : g.Respells g') : g.interface = g'.interface := by
  rw [interface, interface, h.key_eq]

theorem package_eq (h : g.Respells g') : g.package = g'.package := by
  rw [package, package, h.key_eq]

theorem implementationName_eq (h : g.Respells g') :
    g.implementationName = g'.implementationName := by
  rw [implementationName, implementationName, h.interface_eq]

section Class

variable {v v' : ValidatedGroup} (settings : ComponentSettings)

theorem component?_eq (h : v.group.Respells v'.group) :
    v.component? settings = v'.component? settings := by
  unfold ValidatedGroup.component? ValidatedGroup.componentModel
  rw [h.first.componentModel_eq]

theorem throwsQualified_eq (h : v.group.Respells v'.group) {r r' : MethodRecord}
    (spelled : r.Respells r') : v.throwsQualified settings r = v'.throwsQualified settings r' := by
  have targets : v.group.records.map MethodRecord.exceptionTarget =
      v'.group.records.map MethodRecord.exceptionTarget :=
    h.map_eq fun _ _ => MethodRecord.Respells.exceptionTarget_eq
  unfold ValidatedGroup.throwsQualified ValidatedGroup.takenNames ValidatedGroup.hasSeveralPackages
  rw [h.interface_eq, h.implementationName_eq, h.component?_eq settings, targets,
    spelled.exceptionTarget_eq]

theorem thrownName_eq (h : v.group.Respells v'.group) {r r' : MethodRecord}
    (spelled : r.Respells r') : v.thrownName settings r = v'.thrownName settings r' := by
  unfold ValidatedGroup.thrownName
  rw [h.throwsQualified_eq settings spelled, spelled.exceptionTarget_eq]

theorem exceptionImport?_eq (h : v.group.Respells v'.group) {r r' : MethodRecord}
    (spelled : r.Respells r') :
    v.exceptionImport? settings r = v'.exceptionImport? settings r' := by
  unfold ValidatedGroup.exceptionImport?
  rw [h.throwsQualified_eq settings spelled, spelled.exceptionTarget_eq]

theorem imports_eq (h : v.group.Respells v'.group) : v.imports settings = v'.imports settings := by
  have exceptions : v.group.records.filterMap (v.exceptionImport? settings) =
      v'.group.records.filterMap (v'.exceptionImport? settings) :=
    h.filterMap_eq fun _ _ => h.exceptionImport?_eq settings
  unfold ValidatedGroup.imports ValidatedGroup.componentImport?
  rw [exceptions, h.component?_eq settings]

theorem methodValue_eq (h : v.group.Respells v'.group) {r r' : MethodRecord}
    (spelled : r.Respells r') : v.methodValue settings r = v'.methodValue settings r' := by
  unfold ValidatedGroup.methodValue
  rw [h.thrownName_eq settings spelled]
  cases spelled
  rfl

/-- The template is filled with the same texts in either spelling. -/
theorem context_eq (h : v.group.Respells v'.group) (header : Option MetadataHeader) :
    v.context settings header = v'.context settings header := by
  have methods : v.group.records.map (v.methodValue settings) =
      v'.group.records.map (v'.methodValue settings) :=
    h.map_eq fun _ _ => h.methodValue_eq settings
  unfold ValidatedGroup.context
  rw [h.package_eq, h.imports_eq settings, h.component?_eq settings, h.implementationName_eq,
    h.interface_eq, methods]

theorem artifact_eq (h : v.group.Respells v'.group) (header : Option MetadataHeader) :
    v.artifact settings header = v'.artifact settings header := by
  unfold ValidatedGroup.artifact
  rw [h.context_eq settings header, h.package_eq, h.implementationName_eq]

end Class

/-- The same class is attempted in either spelling, or none is. -/
theorem artifact?_verdict_eq (h : g.Respells g') (options : GenerationOptions)
    (header : Option MetadataHeader) (specs : List ExceptionSpec) :
    (g.verdict options header specs).artifact? = (g'.verdict options header specs).artifact? := by
  have target : g.target = g'.target := by
    rw [Group.target, Group.target, h.package_eq, h.implementationName_eq]
  rw [artifact?_verdict, artifact?_verdict, target]
  obtain ⟨v, v', valid, valid', spelled, -⟩ | ⟨c, c', failed, failed'⟩ :=
    h.validate_cases (options.checks specs)
  · have same := spelled.artifact_eq options.component header
    rw [v.artifact_eq_ok, v'.artifact_eq_ok, Except.ok.injEq, Artifact.mk.injEq] at same
    rw [valid, valid', h.package_eq, h.implementationName_eq]
    simp only [Except.toOption, Option.map_some, same.2.2]
  · rw [failed, failed']
    rfl

end Respells

/-- A record goes to the same group in either spelling. -/
theorem respells_add {r r' : MethodRecord} (spelled : r.Respells r') {gs gs' : List Group}
    (h : List.Forall₂ Respells gs gs') : List.Forall₂ Respells (add r gs) (add r' gs') := by
  induction h with
  | nil => exact .cons (.cons spelled .nil) .nil
  | @cons g g' gs gs' first rest ih =>
    by_cases same : r.owner = g.key
    · have same' : r'.owner = g'.key := by rw [← spelled.owner_eq, same, first.key_eq]
      rw [add, dif_pos same, add, dif_pos same']
      exact .cons (List.rel_append first (.cons spelled .nil)) rest
    · have other : r'.owner ≠ g'.key := by rwa [← spelled.owner_eq, ← first.key_eq]
      rw [add, dif_neg same, add, dif_neg other]
      exact .cons first ih

theorem respells_ofRecords {rs rs' : List MethodRecord}
    (h : List.Forall₂ MethodRecord.Respells rs rs') :
    List.Forall₂ Respells (ofRecords rs) (ofRecords rs') :=
  List.rel_foldl (P := List.Forall₂ Respells) (R := MethodRecord.Respells)
    (fun _ _ groups _ _ spelled => respells_add spelled groups) .nil h

end Group

namespace Declaration

inductive Respells : Declaration → Declaration → Prop where
  | same (d : Declaration) : Respells d d
  | method (d : Declaration) (marker : MethodMarker) (marked : d.marker = .method marker)
      (name : String) (spelled : JavaName.Respells d.package marker.exceptionType name) :
      Respells d { d with marker := .method { marker with exceptionType := name } }

namespace Respells

variable {d d' : Declaration}

theorem symm (h : d.Respells d') : d'.Respells d := by
  cases h with
  | same => exact .same d
  | method marker marked name spelled =>
    obtain ⟨element, package, enclosing, own, returnType, parameters, _⟩ := d
    cases marked
    exact .method _ ⟨name, marker.componentModel⟩ rfl marker.exceptionType spelled.symm

theorem isWellFormedMethod (h : d.Respells d') (wellFormed : d.IsWellFormedMethod) :
    d'.IsWellFormedMethod := by
  cases h with
  | same => exact wellFormed
  | method marker marked name spelled =>
    obtain ⟨marker', marked', dotted⟩ := wellFormed.exceptionType
    cases marked.symm.trans marked'
    have valid := JavaName.isPackageName_iff.2 wellFormed.package
    refine { wellFormed with exceptionType := ⟨_, rfl, ?_⟩ }
    rw [← JavaName.isQualifiedName_iff] at dotted ⊢
    rwa [← spelled.isQualifiedName_eq valid]

theorem builtSpecs_eq (h : d.Respells d') : d.builtSpecs = d'.builtSpecs := by
  cases h with
  | same => rfl
  | method marker marked =>
    rw [builtSpecs, builtSpecs, specs_of_method (by rw [marked]; rfl), specs_of_method rfl]

/-- A declaration contributes its record in either spelling, or none. -/
theorem builtRecords (h : d.Respells d') :
    List.Forall₂ MethodRecord.Respells d.builtRecords d'.builtRecords := by
  by_cases wellFormed : d.IsWellFormedMethod
  · have wellFormed' := h.isWellFormedMethod wellFormed
    cases h with
    | same => exact List.forall₂_same.2 fun r _ => .refl r
    | method marker marked name spelled =>
      obtain ⟨r, owner, built, enclosed, describes⟩ :=
        exists_builtRecords_eq_singleton marked wellFormed
      obtain ⟨r', owner', built', enclosed', describes'⟩ :=
        exists_builtRecords_eq_singleton rfl wellFormed'
      cases enclosed.symm.trans enclosed'
      have same : r' = { r with exceptionType := r'.exceptionType } :=
        MethodRecord.eq_of_texts (describes'.package.trans describes.package.symm)
          (describes'.interface.trans describes.interface.symm)
          (describes'.methodName.trans describes.methodName.symm)
          (describes'.returnType.trans describes.returnType.symm)
          (describes'.parameters.trans describes.parameters.symm) rfl
          (describes'.componentModel.trans describes.componentModel.symm)
      rw [built, built', same]
      refine .cons (.intro r r'.exceptionType ?_) .nil
      rw [describes.package, describes.exceptionType, describes'.exceptionType]
      exact spelled
  · have malformed' : ¬ d'.IsWellFormedMethod := fun h' => wellFormed (h.symm.isWellFormedMethod h')
    rw [builtRecords_of_not_wellFormed wellFormed, builtRecords_of_not_wellFormed malformed']
    exact .nil

end Respells

end Declaration

namespace Snapshot

def Respells (s t : Snapshot) : Prop :=
  List.Forall₂ Declaration.Respells s.declarations t.declarations

namespace Respells

variable {s t : Snapshot}

theorem specs_eq (h : s.Respells t) : s.specs = t.specs := by
  rw [specs_eq_flatMap, specs_eq_flatMap, List.flatMap_def, List.flatMap_def,
    map_eq_of_forall₂ (R := Declaration.Respells) (fun _ _ => Declaration.Respells.builtSpecs_eq) h]

theorem records (h : s.Respells t) : List.Forall₂ MethodRecord.Respells s.records t.records := by
  rw [records_eq_flatMap, records_eq_flatMap]
  exact List.rel_flatMap h fun _ _ => Declaration.Respells.builtRecords

/-- The same classes are attempted in either spelling. -/
theorem attempts_eq (h : s.Respells t) (options : GenerationOptions) (header : MetadataHeader) :
    s.attempts options header = t.attempts options header := by
  have groups : List.Forall₂ Group.Respells s.groups t.groups := Group.respells_ofRecords h.records
  unfold attempts verdicts Plan.verdicts
  rw [List.filterMap_append, List.filterMap_append, List.filterMap_map, List.filterMap_map,
    h.specs_eq]
  congr 1
  exact filterMap_eq_of_forall₂
    (fun _ _ same => same.artifact?_verdict_eq options (options.header? header) t.specs) groups

end Respells

end Snapshot

/-- An exception that is named simply can always be named behind its package, and for any of the
methods this makes no difference. A group passes its checks in either spelling or in none, and then
with as many warnings and as the same class. Runs over either spelling attempt the same classes, so
every sink is left in the same state and the reports list the same artifacts and failures. -/
theorem exception_spelling_is_invisible :
    (∀ r : MethodRecord, '.' ∉ r.exceptionType.text.toList →
      ∃ r', r.Respells r' ∧ r'.exceptionType.text =
        JavaName.qualify r.owner.package.text r.exceptionType.text) ∧
    (∀ g g' : Group, List.Forall₂ MethodRecord.Respells g.records g'.records → ∀ checks,
      (∃ v v', g.validate checks = .ok v ∧ g'.validate checks = .ok v' ∧
        v.warnings.length = v'.warnings.length ∧
        ∀ settings header, ∃ a, v.artifact settings header = .ok a ∧
          v'.artifact settings header = .ok a) ∨
      ∃ c c', g.validate checks = .error c ∧ g'.validate checks = .error c') ∧
    ∀ s t : Snapshot, List.Forall₂ Declaration.Respells s.declarations t.declarations →
      ∀ options header,
        s.attempts options header = t.attempts options header ∧
        ∀ (σ ω : Type) (sink : Sink σ ω) phase state,
          let first := run s.source options header sink phase state
          let second := run t.source options header sink phase state
          first.state = second.state ∧
          ∃ report report', first.result = .ok report ∧ second.result = .ok report' ∧
            report.artifacts = report'.artifacts ∧
            report.writeFailures = report'.writeFailures := by
  refine ⟨MethodRecord.exists_respells_qualify, ?_, ?_⟩
  · intro g g' spelled checks
    obtain ⟨v, v', valid, valid', same, warnings⟩ | failed :=
      Group.Respells.validate_cases spelled checks
    · refine .inl ⟨v, v', valid, valid', warnings, fun settings header => ?_⟩
      exact ⟨_, v.artifact_eq_ok settings header,
        (same.artifact_eq settings header).symm.trans (v.artifact_eq_ok settings header)⟩
    · exact .inr failed
  · intro s t spelled options header
    have attempts := Snapshot.Respells.attempts_eq spelled options header
    refine ⟨attempts, fun σ ω sink phase state => ?_⟩
    obtain ⟨report, result, left, account⟩ := run_account s options header sink phase state
    obtain ⟨report', result', left', account'⟩ := run_account t options header sink phase state
    rw [← attempts] at left' account'
    refine ⟨left.trans left'.symm, report, report', result, result', ?_, ?_⟩
    · rw [account.artifacts, account'.artifacts]
    · rw [account.writeFailures, account'.writeFailures]

/-- An exception of billing that is spelled in both ways. The warnings tell the spellings apart, but
there are as many of them, the class is the same, and so is what a run attempts. -/
theorem spellings_in_billing :
    let simple : MethodRecord := .finding .billing ⟨"Overdue", by decide +kernel⟩ "spring"
    let dotted : MethodRecord := .finding .billing ⟨"billing.Overdue", by decide +kernel⟩ "spring"
    let g : Group := ⟨simple, [simple], by decide +kernel⟩
    let g' : Group := ⟨dotted, [simple], by decide +kernel⟩
    let checks : ConsistencyChecks :=
      ⟨true, some (.ofSpecs [⟨"Overdue", .standard, "billing", "Orders"⟩], .warn)⟩
    let s : Snapshot := ⟨[.throwing "Orders" "find" "Overdue"]⟩
    let t : Snapshot := ⟨[.throwing "Orders" "find" "billing.Overdue"]⟩
    let header : MetadataHeader := ⟨⟨2024, 1, 1, 0, 0, 0⟩⟩
    List.Forall₂ MethodRecord.Respells g.records g'.records ∧
      (∃ v v' a, g.validate checks = .ok v ∧ g'.validate checks = .ok v' ∧
        v.warnings ≠ v'.warnings ∧ v.warnings.length = v'.warnings.length ∧
        v.artifact default none = .ok a ∧ v'.artifact default none = .ok a) ∧
      List.Forall₂ Declaration.Respells s.declarations t.declarations ∧
      (s.attempts .standard header).length = 1 ∧
      s.attempts .standard header = t.attempts .standard header := by
  intro simple dotted g g' checks s t header
  obtain ⟨-, ofGroups, ofRuns⟩ := exception_spelling_is_invisible
  have records : List.Forall₂ MethodRecord.Respells g.records g'.records :=
    .cons (.intro simple _ (.qualified (by decide +kernel))) (.cons (.refl simple) .nil)
  have declarations : List.Forall₂ Declaration.Respells s.declarations t.declarations :=
    .cons (.method _ ⟨"Overdue", "default"⟩ rfl _ (.qualified (by decide +kernel))) .nil
  have valid (g : Group) (uniform : g.IsUniform) :
      g.validate checks = .ok ⟨g, g.warnings checks.shapes⟩ :=
    Group.validate_eq_ok_iff.2
      ⟨fun _ => uniform, Group.fits_of_not_strict (by simp [checks]), rfl⟩
  have passes := valid g (by decide +kernel)
  have passes' := valid g' (by decide +kernel)
  refine ⟨records, ?_, declarations, by decide +kernel,
    (ofRuns s t declarations .standard header).1⟩
  obtain ⟨v, v', known, known', warnings, classes⟩ | ⟨c, c', failed, -⟩ :=
    ofGroups g g' records checks
  · obtain ⟨a, rendered, rendered'⟩ := classes default none
    cases passes.symm.trans known
    cases passes'.symm.trans known'
    exact ⟨_, _, a, passes, passes', by decide +kernel, warnings, rendered, rendered'⟩
  · cases passes.symm.trans failed

end ExceptionStubs
