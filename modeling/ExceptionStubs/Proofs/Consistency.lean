import ExceptionStubs.Proofs.ClassText
import ExceptionStubs.Proofs.ThrownException
/-!
# Which groups pass

The members of a group are compared with the first one alone, and the first one speaks for the group
from then on. This is enough: component models are the same exactly if their lower-case forms are
equal, so members that agree with the first one agree with each other, and every member could speak
for the group. What a group passes for looks at its members and not at their order.
-/

namespace ExceptionStubs

theorem sameComponentModel_iff {a b : String} :
    sameComponentModel a b = true ↔ Text.lowerCase a = Text.lowerCase b := by
  rw [sameComponentModel, Bool.or_eq_true, beq_iff_eq, beq_iff_eq]
  constructor
  · rintro (rfl | same)
    · rfl
    · exact same
  · exact .inr

namespace ComponentSettings

def annotationFor (c : ComponentSettings) (model : String) : Option String :=
  if c.appliesTo model then some c.simpleName else none

/-- Component models that are the same ask for the same annotation. -/
theorem annotationFor_congr (c : ComponentSettings) {a b : String}
    (h : sameComponentModel a b = true) : c.annotationFor a = c.annotationFor b := by
  have same : c.appliesTo a = c.appliesTo b := by
    rw [Bool.eq_iff_iff, appliesTo, appliesTo, sameComponentModel_iff, sameComponentModel_iff,
      sameComponentModel_iff.1 h]
  rw [annotationFor, annotationFor, same]

end ComponentSettings

namespace Group

variable {g g' : Group} {shapes : Option (ExceptionCatalog × ShapePolicy)}

def IsUniform (g : Group) : Prop :=
  ∀ r ∈ g.records, ∀ r' ∈ g.records, sameComponentModel r.componentModel r'.componentModel = true

instance (g : Group) : Decidable g.IsUniform :=
  inferInstanceAs (Decidable (∀ r ∈ g.records, ∀ r' ∈ g.records, _))

/-- Where a mismatch is a conflict, no member has one. -/
def Fits (g : Group) (shapes : Option (ExceptionCatalog × ShapePolicy)) : Prop :=
  ∀ catalog, shapes = some (catalog, .strict) → ∀ r ∈ g.records, r.hasShapeMismatch catalog = false

/-- The mismatches with which the group passes. -/
def warnings (g : Group) : Option (ExceptionCatalog × ShapePolicy) → List Conflict
  | some (catalog, .warn) => g.shapeConflicts catalog
  | _ => []

/-- Comparing all members with the first one compares all of them. -/
theorem modelConflict?_eq_none_iff : g.modelConflict? = none ↔ g.IsUniform := by
  have likeFirst : g.modelConflict? = none ↔
      ∀ r ∈ g.rest, sameComponentModel r.componentModel g.first.componentModel = true := by
    simp [modelConflict?]
  rw [likeFirst]
  constructor
  · intro like
    have all : ∀ r ∈ g.records,
        Text.lowerCase r.componentModel = Text.lowerCase g.first.componentModel := by
      intro r mem
      obtain rfl | later := List.mem_cons.1 mem
      · rfl
      · exact sameComponentModel_iff.1 (like r later)
    intro r mem r' mem'
    exact sameComponentModel_iff.2 ((all r mem).trans (all r' mem').symm)
  · intro uniform r later
    exact uniform r (List.mem_cons_of_mem _ later) g.first List.mem_cons_self

theorem shapeConflicts_eq_nil_iff_forall {catalog : ExceptionCatalog} :
    g.shapeConflicts catalog = [] ↔ ∀ r ∈ g.records, r.hasShapeMismatch catalog = false := by
  simp [shapeConflicts]

theorem fits_of_not_strict (h : ∀ catalog, shapes ≠ some (catalog, .strict)) : g.Fits shapes :=
  fun catalog strict => absurd strict (h catalog)

theorem warnings_of_not_warn (h : ∀ catalog, shapes ≠ some (catalog, .warn)) :
    g.warnings shapes = [] := by
  unfold warnings
  split
  · next catalog => exact absurd rfl (h catalog)
  · rfl

theorem checkShapes_eq_ok_iff {v : ValidatedGroup} :
    g.checkShapes shapes = .ok v ↔ g.Fits shapes ∧ v = ⟨g, g.warnings shapes⟩ := by
  have passing {conflicts : List Conflict} (fits : g.Fits shapes) :
      Except.ok (ε := Conflict) (ValidatedGroup.mk g conflicts) = .ok v ↔
        g.Fits shapes ∧ v = ⟨g, conflicts⟩ := by
    rw [Except.ok.injEq, eq_comm]
    exact (and_iff_right fits).symm
  cases shapes with
  | none => exact passing (fits_of_not_strict (by simp))
  | some shapes =>
    obtain ⟨catalog, policy⟩ := shapes
    cases policy with
    | strict =>
      have fits : g.Fits (some (catalog, .strict)) ↔ g.shapeConflicts catalog = [] := by
        simp [Fits, shapeConflicts_eq_nil_iff_forall]
      rw [checkShapes]
      cases conflicts : g.shapeConflicts catalog with
      | nil => exact passing (fits.2 conflicts)
      | cons conflict rest => simp [fits, conflicts]
    | warn => exact passing (fits_of_not_strict (by simp))
    | off => exact passing (fits_of_not_strict (by simp))

/-- A group that does not pass for its shapes has a member with a mismatch. -/
theorem of_checkShapes_eq_error {conflict : Conflict} (h : g.checkShapes shapes = .error conflict) :
    ∃ r ∈ g.records, conflict = g.shapeConflict r := by
  cases shapes with
  | none => cases h
  | some shapes =>
    obtain ⟨catalog, policy⟩ := shapes
    cases policy with
    | strict =>
      cases conflicts : g.shapeConflicts catalog with
      | nil =>
        rw [checkShapes, conflicts] at h
        cases h
      | cons found rest =>
        rw [checkShapes, conflicts] at h
        cases h
        have first : conflict ∈ g.shapeConflicts catalog := conflicts ▸ List.mem_cons_self
        obtain ⟨r, mem, rfl⟩ := List.mem_map.1 first
        exact ⟨r, (List.mem_filter.1 mem).1, rfl⟩
    | warn => cases h
    | off => cases h

/-- When a group passes, and as what. -/
theorem validate_eq_ok_iff {checks : ConsistencyChecks} {v : ValidatedGroup} :
    g.validate checks = .ok v ↔
      (checks.componentModel = true → g.IsUniform) ∧ g.Fits checks.shapes ∧
        v = ⟨g, g.warnings checks.shapes⟩ := by
  obtain ⟨_ | _, shapes⟩ := checks
  · simp [validate, checkShapes_eq_ok_iff]
  · rw [← modelConflict?_eq_none_iff, ← checkShapes_eq_ok_iff]
    cases found : g.modelConflict? <;> simp [validate, found]

theorem group_of_validate {checks : ConsistencyChecks} {v : ValidatedGroup}
    (h : g.validate checks = .ok v) : v.group = g := by
  obtain ⟨-, -, rfl⟩ := validate_eq_ok_iff.1 h
  rfl

/-- The component model is what is wrong with a group exactly if two members differ in it, whatever
else is. -/
theorem validate_eq_modelMismatch_iff :
    (∃ interface method expected found, g.validate ⟨true, shapes⟩ =
        .error (.componentModelMismatch interface method expected found)) ↔
      ∃ r ∈ g.records, ∃ r' ∈ g.records,
        sameComponentModel r.componentModel r'.componentModel = false := by
  have differ : (∃ r ∈ g.records, ∃ r' ∈ g.records,
      sameComponentModel r.componentModel r'.componentModel = false) ↔
        g.modelConflict? ≠ none := by
    rw [ne_eq, modelConflict?_eq_none_iff]
    simp [IsUniform]
  rw [differ]
  cases found : g.modelConflict? with
  | none =>
    simp only [ne_eq, not_true_eq_false, iff_false]
    rintro ⟨interface, method, expected, other, failed⟩
    rw [validate, if_pos rfl, found] at failed
    obtain ⟨r, -, same⟩ := of_checkShapes_eq_error failed
    cases same
  | some conflict =>
    obtain ⟨r, -, rfl⟩ := Option.map_eq_some_iff.1 found
    exact iff_of_true ⟨_, _, _, _, by rw [validate, if_pos rfl, found]⟩ (by simp)

section Perm

variable (perm : g.records.Perm g'.records)

include perm

theorem key_eq_of_perm : g.key = g'.key :=
  owner_of_mem_records (perm.subset List.mem_cons_self : g.first ∈ g'.records)

theorem isUniform_iff_of_perm : g.IsUniform ↔ g'.IsUniform := by
  simp only [IsUniform, perm.mem_iff]

theorem fits_iff_of_perm : g.Fits shapes ↔ g'.Fits shapes := by
  simp only [Fits, perm.mem_iff]

theorem warnings_perm : (g.warnings shapes).Perm (g'.warnings shapes) := by
  have same : g.shapeConflict = g'.shapeConflict := by
    funext r
    simp only [shapeConflict, qualifiedInterface, key_eq_of_perm perm]
  unfold warnings
  split
  · simp only [shapeConflicts, same]
    exact (perm.filter _).map _
  · exact .refl []

end Perm

end Group

namespace ValidatedGroup

variable {v : ValidatedGroup} {settings : ComponentSettings}

/-- The class of the group has this annotation, or none, in front of its class line. -/
def IsAnnotated (v : ValidatedGroup) (settings : ComponentSettings) (mark : Option String) : Prop :=
  v.component? settings = mark ∧ ∀ header, v.artifact settings header =
    .ok ⟨v.group.package, v.group.implementationName,
      ClassText.packageLine v.group.package ++ ClassText.importLines (v.imports settings) ++
        ClassText.optionalLine "" (MetadataHeader.line header v.group.package) ++
        ClassText.optionalLine "@" (mark.getD "") ++
        ClassText.implementingClass v.group.implementationName v.group.interface
          (v.group.records.map (v.methodText settings))⟩

/-- Every member of a uniform group speaks for it. -/
theorem isAnnotated_of_mem (uniform : v.group.IsUniform) {r : MethodRecord}
    (mem : r ∈ v.group.records) :
    v.IsAnnotated settings (settings.annotationFor r.componentModel) := by
  have component : v.component? settings = settings.annotationFor r.componentModel :=
    settings.annotationFor_congr (uniform v.group.first List.mem_cons_self r mem)
  refine ⟨component, fun header => ?_⟩
  rw [v.artifact_eq_ok, classText, component]

end ValidatedGroup

/-- The order of its members does not matter for a group. Under all checks it passes with them in
one order if it passes with them in another, and then with the same warnings up to their order. If
component models are compared, they are what is wrong exactly if two members differ, and otherwise
the class has the annotation that every single member asks for, in either order. -/
theorem validation_ignores_member_order {g g' : Group} (perm : g.records.Perm g'.records)
    (checks : ConsistencyChecks) :
    ((∃ v, g.validate checks = .ok v) ↔ ∃ v', g'.validate checks = .ok v') ∧
    (∀ v v', g.validate checks = .ok v → g'.validate checks = .ok v' →
      v.warnings.Perm v'.warnings) ∧
    (checks.componentModel = true →
      ((∃ interface method expected found, g.validate checks =
          .error (.componentModelMismatch interface method expected found)) ↔
        ∃ r ∈ g.records, ∃ r' ∈ g.records,
          sameComponentModel r.componentModel r'.componentModel = false) ∧
      ∀ v v', g.validate checks = .ok v → g'.validate checks = .ok v' →
        ∀ settings, ∀ r ∈ g.records,
          v.IsAnnotated settings (settings.annotationFor r.componentModel) ∧
          v'.IsAnnotated settings (settings.annotationFor r.componentModel)) := by
  simp only [Group.validate_eq_ok_iff]
  refine ⟨?_, ?_, ?_⟩
  · simp only [Group.isUniform_iff_of_perm perm, Group.fits_iff_of_perm perm]
    constructor
    · rintro ⟨v, uniform, fits, -⟩
      exact ⟨_, uniform, fits, rfl⟩
    · rintro ⟨v', uniform, fits, -⟩
      exact ⟨_, uniform, fits, rfl⟩
  · rintro v v' ⟨-, -, rfl⟩ ⟨-, -, rfl⟩
    exact Group.warnings_perm perm
  · obtain ⟨componentModel, shapes⟩ := checks
    rintro rfl
    refine ⟨Group.validate_eq_modelMismatch_iff, ?_⟩
    rintro v v' ⟨uniform, -, rfl⟩ ⟨uniform', -, rfl⟩ settings r mem
    exact ⟨ValidatedGroup.isAnnotated_of_mem (uniform rfl) mem,
      ValidatedGroup.isAnnotated_of_mem (uniform' rfl) (perm.mem_iff.1 mem)⟩

/-- Two members that spell their component model and their exception differently. -/
theorem validation_of_swapped_members :
    let simple : MethodRecord := .finding .billing .notFound "spring"
    let dotted : MethodRecord :=
      .finding .billing ⟨"billing.NotFound", by decide +kernel⟩ "SPRING"
    let g : Group := ⟨simple, [dotted], by decide +kernel⟩
    let g' : Group := ⟨dotted, [simple], by decide +kernel⟩
    let checks : ConsistencyChecks :=
      ⟨true, some (.ofSpecs [⟨"NotFound", .standard, "billing", "Orders"⟩], .warn)⟩
    g.records.Perm g'.records ∧ ∃ v v', g.validate checks = .ok v ∧ g'.validate checks = .ok v' ∧
      v.warnings.Perm v'.warnings ∧ v.warnings ≠ v'.warnings ∧
      v.IsAnnotated default (some "Component") ∧ v'.IsAnnotated default (some "Component") := by
  intro simple dotted g g' checks
  have perm : g.records.Perm g'.records := .swap ..
  obtain ⟨passes, warned, models⟩ := validation_ignores_member_order perm checks
  have valid : g.validate checks = .ok ⟨g, g.warnings checks.shapes⟩ :=
    Group.validate_eq_ok_iff.2
      ⟨fun _ => by decide +kernel, Group.fits_of_not_strict (by simp [checks]), rfl⟩
  obtain ⟨v', valid'⟩ := passes.1 ⟨_, valid⟩
  have mark :
      (default : ComponentSettings).annotationFor simple.componentModel = some "Component" := by
    decide +kernel
  have annotated := (models rfl).2 _ v' valid valid' default simple List.mem_cons_self
  rw [mark] at annotated
  obtain ⟨-, -, rfl⟩ := Group.validate_eq_ok_iff.1 valid'
  exact ⟨perm, _, _, valid, valid', warned _ _ valid valid', by decide +kernel, annotated⟩

end ExceptionStubs
