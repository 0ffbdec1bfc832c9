import ExceptionStubs.Proofs.Attempts
import ExceptionStubs.Proofs.ImportLines
/-!
# What the names in an implementation mean

A simple name in a class means the type that is imported under it, or else the type of that name in
the package of the class. The imports of exceptions respect what is bound in the class already, so
every thrown exception means its target. The import of the annotation does not: under the name of
the interface or of the class, and of an exception of the default package, it takes that name away.
-/

namespace ExceptionStubs

namespace JavaName

/-- The qualified name of the type that a name means in a class with these imports. -/
def denoted (imports : List String) (package name : String) : String :=
  if '.' ∈ name.toList then name
  else (imports.find? (simpleName · == name)).getD (qualify package name)

theorem simpleName_qualify {name : String} (simple : '.' ∉ name.toList) (package : String) :
    simpleName (qualify package name) = name := by
  unfold simpleName
  rw [unqualify?_qualify simple]
  by_cases default : package.isEmpty
  · simp [qualify, default]
  · simp [default]

theorem qualify_empty (name : String) : qualify "" name = name := rfl

theorem dot_mem_qualify {package : String} (h : package ≠ "") (name : String) :
    '.' ∈ (qualify package name).toList := by
  have filled : package.isEmpty = false := by simpa using h
  simp [qualify, filled]

section Denoted

variable {imports : List String} {name : String}

theorem denoted_of_dot (h : '.' ∈ name.toList) (package : String) :
    denoted imports package name = name := if_pos h

/-- Where no two imports have one simple name, the import of a name is what the name means. -/
theorem denoted_of_mem (distinct : (imports.map simpleName).Nodup) {i : String} (mem : i ∈ imports)
    (simple : '.' ∉ name.toList) (named : simpleName i = name) (package : String) :
    denoted imports package name = i := by
  rw [denoted, if_neg simple]
  cases found : imports.find? (simpleName · == name) with
  | none => exact absurd named (by simpa using List.find?_eq_none.1 found i mem)
  | some j =>
    have known : simpleName j = name := by simpa using List.find?_some found
    rw [Option.getD_some]
    exact List.inj_on_of_nodup_map distinct (List.mem_of_find?_eq_some found) mem
      (known.trans named.symm)

theorem denoted_of_notMem (simple : '.' ∉ name.toList)
    (free : ∀ i ∈ imports, simpleName i ≠ name) (package : String) :
    denoted imports package name = qualify package name := by
  have absent : imports.find? (simpleName · == name) = none :=
    List.find?_eq_none.2 fun i mem => by simpa using free i mem
  rw [denoted, if_neg simple, absent, Option.getD_none]

end Denoted

end JavaName

theorem MethodRecord.simpleName_exceptionName (r : MethodRecord) :
    JavaName.simpleName r.exceptionName = r.exceptionTarget.2 :=
  JavaName.simpleName_qualify r.dot_notMem_exceptionTarget _

namespace ValidatedGroup

variable {v : ValidatedGroup} {settings : ComponentSettings}

theorem mem_takenNames_iff {name : String} :
    name ∈ v.takenNames settings ↔
      name = v.group.interface ∨ name = v.group.implementationName ∨
        settings.appliesTo v.componentModel = true ∧ name = settings.simpleName := by
  unfold takenNames component?
  cases settings.appliesTo v.componentModel <;> simp

/-- Exceptions of a simple name that does not stand for several ones are the same. -/
theorem exceptionTarget_eq {g : Group} {r r' : MethodRecord} (mem : r ∈ g.records)
    (mem' : r' ∈ g.records) (named : r'.exceptionTarget.2 = r.exceptionTarget.2)
    (one : hasSeveralPackages g r.exceptionTarget.2 = false) :
    r'.exceptionTarget = r.exceptionTarget := by
  have listed {q : MethodRecord} (here : q ∈ g.records)
      (same : q.exceptionTarget.2 = r.exceptionTarget.2) :
      q.exceptionTarget ∈ (g.records.map MethodRecord.exceptionTarget).filter
        (·.2 == r.exceptionTarget.2) :=
    List.mem_filter.2 ⟨List.mem_map_of_mem here, by simpa using same⟩
  have known := listed mem rfl
  have known' := listed mem' named
  unfold hasSeveralPackages at one
  cases targets : (g.records.map MethodRecord.exceptionTarget).filter
      (·.2 == r.exceptionTarget.2) with
  | nil =>
    rw [targets] at known
    cases known
  | cons target later =>
    rw [targets] at one known known'
    have package {t : String × String} (here : t ∈ target :: later) : t.1 = target.1 := by
      obtain rfl | behind := List.mem_cons.1 here
      · rfl
      · simpa using List.any_eq_false.1 one t behind
    exact Prod.ext ((package known').trans (package known).symm) named

theorem throwsQualified_eq_false_iff {r : MethodRecord} :
    v.throwsQualified settings r = false ↔
      r.exceptionTarget.2 ∉ v.takenNames settings ∧
        hasSeveralPackages v.group r.exceptionTarget.2 = false := by
  simp [throwsQualified]

/-- An import whose simple name is taken is that of the annotation. -/
theorem componentImport?_of_taken {i : String} (mem : i ∈ v.imports settings)
    (taken : JavaName.simpleName i ∈ v.takenNames settings) :
    v.componentImport? settings = some i := by
  obtain ⟨r, -, imported⟩ | annotated := mem_imports_iff.1 mem
  · obtain ⟨simple, -, rfl⟩ := exceptionImport?_eq_some_iff.1 imported
    rw [r.simpleName_exceptionName] at taken
    exact absurd taken (throwsQualified_eq_false_iff.1 simple).1
  · exact annotated

/-- An import whose simple name is free is that of an exception. -/
theorem exists_record_of_free {i : String} (mem : i ∈ v.imports settings)
    (free : JavaName.simpleName i ∉ v.takenNames settings) :
    ∃ r ∈ v.group.records, v.throwsQualified settings r = false ∧ r.exceptionName = i := by
  obtain ⟨r, here, imported⟩ | annotated := mem_imports_iff.1 mem
  · obtain ⟨simple, -, name⟩ := exceptionImport?_eq_some_iff.1 imported
    exact ⟨r, here, simple, name⟩
  · obtain ⟨applies, -, rfl⟩ := componentImport?_eq_some_iff.1 annotated
    exact absurd (mem_takenNames_iff.2 (.inr (.inr ⟨applies, rfl⟩))) free

/-- No two imports have one simple name. -/
theorem imports_inj {i j : String} (mem : i ∈ v.imports settings) (mem' : j ∈ v.imports settings)
    (same : JavaName.simpleName i = JavaName.simpleName j) : i = j := by
  by_cases taken : JavaName.simpleName i ∈ v.takenNames settings
  · have annotated := componentImport?_of_taken mem taken
    rw [same] at taken
    rw [componentImport?_of_taken mem' taken] at annotated
    exact (Option.some.inj annotated).symm
  · obtain ⟨r, here, simple, rfl⟩ := exists_record_of_free mem taken
    rw [same] at taken
    obtain ⟨r', here', -, rfl⟩ := exists_record_of_free mem' taken
    rw [r.simpleName_exceptionName, r'.simpleName_exceptionName] at same
    have one := (throwsQualified_eq_false_iff.1 simple).2
    rw [MethodRecord.exceptionName, MethodRecord.exceptionName,
      exceptionTarget_eq here here' same.symm one]

theorem nodup_simpleName_imports (v : ValidatedGroup) (settings : ComponentSettings) :
    ((v.imports settings).map JavaName.simpleName).Nodup :=
  (nodup_eraseDups _).map_on fun _ mem _ mem' => imports_inj mem mem'

/-- What is imported under a simple name is what the name means. -/
theorem denoted_of_mem_imports {i name : String} (mem : i ∈ v.imports settings)
    (simple : '.' ∉ name.toList) (named : JavaName.simpleName i = name) (package : String) :
    JavaName.denoted (v.imports settings) package name = i :=
  JavaName.denoted_of_mem (v.nodup_simpleName_imports settings) mem simple named package

/-- The name of the interface means the interface, unless the annotation takes it. -/
theorem denoted_interface (annotated : v.componentImport? settings = some settings.annotationType) :
    JavaName.denoted (v.imports settings) v.group.package v.group.interface =
      if settings.simpleName = v.group.interface then settings.annotationType
      else v.group.qualifiedInterface := by
  have simple : '.' ∉ v.group.interface.toList :=
    JavaName.dot_notMem_of_isIdentifier v.group.key.interface.valid
  split
  · next clash => exact denoted_of_mem_imports (mem_imports_iff.2 (.inr annotated)) simple clash _
  · next free =>
    refine JavaName.denoted_of_notMem simple (fun i mem named => free ?_) _
    have annotation := componentImport?_of_taken mem (mem_takenNames_iff.2 (.inl named))
    obtain ⟨-, -, rfl⟩ := componentImport?_eq_some_iff.1 annotation
    exact named

/-- The name of the class is that of an import exactly if the annotation has it. -/
theorem implementationName_free_iff
    (annotated : v.componentImport? settings = some settings.annotationType) :
    (∀ i ∈ v.imports settings, JavaName.simpleName i ≠ v.group.implementationName) ↔
      settings.simpleName ≠ v.group.implementationName := by
  constructor
  · exact fun free => free _ (mem_imports_iff.2 (.inr annotated))
  · intro free i mem named
    have annotation := componentImport?_of_taken mem (mem_takenNames_iff.2 (.inr (.inl named)))
    obtain ⟨-, -, rfl⟩ := componentImport?_eq_some_iff.1 annotation
    exact free named

/-- The annotation takes the name of an exception of the default package away. -/
def Captures (v : ValidatedGroup) (settings : ComponentSettings) (r : MethodRecord) : Prop :=
  v.componentImport? settings = some settings.annotationType ∧
    r.exceptionTarget = ("", settings.simpleName)

/-- In the default package, the simple name of an exception is all there is to write, and only the
annotation is imported under the name of such an exception. -/
theorem denoted_simple_iff {r : MethodRecord} (mem : r ∈ v.group.records)
    (default : r.exceptionTarget.1 = "") :
    JavaName.denoted (v.imports settings) "" r.exceptionTarget.2 = r.exceptionTarget.2 ↔
      ¬v.Captures settings r := by
  have simple := r.dot_notMem_exceptionTarget
  constructor
  · rintro means ⟨annotated, target⟩
    obtain ⟨-, dotted, -⟩ := componentImport?_eq_some_iff.1 annotated
    have named : settings.simpleName = r.exceptionTarget.2 := by rw [target]
    rw [denoted_of_mem_imports (mem_imports_iff.2 (.inr annotated)) simple named] at means
    exact simple (means ▸ dotted)
  · intro free
    refine JavaName.denoted_of_notMem simple (fun i imported named => ?_) _
    obtain ⟨r', here, exception⟩ | annotated := mem_imports_iff.1 imported
    · obtain ⟨unqualified, packaged, rfl⟩ := exceptionImport?_eq_some_iff.1 exception
      rw [r'.simpleName_exceptionName] at named
      have one := (throwsQualified_eq_false_iff.1 unqualified).2
      exact packaged (exceptionTarget_eq here mem named.symm one ▸ default)
    · obtain ⟨-, -, rfl⟩ := componentImport?_eq_some_iff.1 annotated
      exact free ⟨annotated, Prod.ext default named.symm⟩

/-- Every exception that is not captured means its target. -/
theorem denoted_thrownName_iff {r : MethodRecord} (mem : r ∈ v.group.records) :
    JavaName.denoted (v.imports settings) v.group.package (v.thrownName settings r) =
        r.exceptionName ↔ ¬v.Captures settings r := by
  rw [thrownName_eq]
  by_cases default : r.exceptionTarget.1 = ""
  · have owner : v.group.package = "" := by
      rw [Group.package, ← Group.owner_of_mem_records mem]
      exact r.package_eq_empty_of_exceptionTarget default
    have name : r.exceptionName = r.exceptionTarget.2 := by
      rw [MethodRecord.exceptionName, default, JavaName.qualify_empty]
    rw [name, ite_self, owner]
    exact denoted_simple_iff mem default
  · have packaged := JavaName.dot_mem_qualify default r.exceptionTarget.2
    have free : ¬v.Captures settings r := fun captured => default (by rw [captured.2])
    refine iff_of_true ?_ free
    cases qualified : v.throwsQualified settings r with
    | true => exact JavaName.denoted_of_dot packaged _
    | false =>
      have imported := exceptionImport?_eq_some_iff.2 ⟨qualified, default, rfl⟩
      exact denoted_of_mem_imports (mem_imports_iff.2 (.inl ⟨r, mem, imported⟩))
        r.dot_notMem_exceptionTarget r.simpleName_exceptionName _

end ValidatedGroup

/-- In a class of a package, no two import lines have one simple name, exceptions are not imported
under the names of the interface, the class and its annotation, every thrown exception means its
target, and what is imported is the annotation or an exception that is thrown by its simple name. -/
theorem imported_and_thrown_names_resolve {v : ValidatedGroup} {settings : ComponentSettings}
    (packaged : v.group.package ≠ "")
    (valid : JavaName.isQualifiedName settings.annotationType = true)
    (header : Option MetadataHeader) :
    ∃ a, v.artifact settings header = .ok a ∧ a.body = v.classText settings header ∧
      let imports := ClassText.imported a.body
      (imports.map JavaName.simpleName).Nodup ∧
        (∀ i ∈ imports, v.componentImport? settings ≠ some i →
          JavaName.simpleName i ≠ v.group.interface ∧
            JavaName.simpleName i ≠ v.group.implementationName ∧
            (settings.appliesTo v.componentModel = true →
              JavaName.simpleName i ≠ settings.simpleName)) ∧
        (∀ r ∈ v.group.records,
          JavaName.denoted imports v.group.package (v.thrownName settings r) =
            JavaName.qualify r.exceptionTarget.1 r.exceptionTarget.2) ∧
        ∀ i ∈ imports, v.componentImport? settings = some i ∨
          ∃ r ∈ v.group.records, v.thrownName settings r = r.exceptionTarget.2 ∧
            JavaName.qualify r.exceptionTarget.1 r.exceptionTarget.2 = i := by
  refine ⟨_, v.artifact_eq_ok settings header, rfl, ?_⟩
  rw [v.imported_classText valid header]
  refine ⟨v.nodup_simpleName_imports settings, ?_, ?_, ?_⟩
  · intro i mem exception
    have free : JavaName.simpleName i ∉ v.takenNames settings := fun taken =>
      exception (ValidatedGroup.componentImport?_of_taken mem taken)
    rw [ValidatedGroup.mem_takenNames_iff, not_or, not_or, not_and] at free
    exact free
  · intro r mem
    refine (ValidatedGroup.denoted_thrownName_iff mem).2 fun captured => packaged ?_
    have default := r.package_eq_empty_of_exceptionTarget (by rw [captured.2])
    rwa [Group.owner_of_mem_records mem] at default
  · intro i mem
    by_cases taken : JavaName.simpleName i ∈ v.takenNames settings
    · exact .inl (ValidatedGroup.componentImport?_of_taken mem taken)
    · obtain ⟨r, here, simple, name⟩ := ValidatedGroup.exists_record_of_free mem taken
      refine .inr ⟨r, here, ?_, name⟩
      rw [ValidatedGroup.thrownName_eq, simple]
      rfl

/-- Exceptions of one simple name, and one with the name of the annotation, are told apart. -/
theorem thrown_names_resolve_in_billing :
    let throwing (exceptionType : QualifiedName) : MethodRecord :=
      .finding .billing exceptionType "spring"
    let others := [throwing ⟨"Missing", by decide +kernel⟩,
      throwing ⟨"com.acme.Missing", by decide +kernel⟩,
      throwing ⟨"com.acme.Component", by decide +kernel⟩]
    let v : ValidatedGroup := ⟨⟨throwing .notFound, others, by decide +kernel⟩, []⟩
    (v.group.package ≠ "" ∧
        JavaName.isQualifiedName (default : ComponentSettings).annotationType = true) ∧
      v.group.records.map (v.thrownName default) =
        ["NotFound", "billing.Missing", "com.acme.Missing", "com.acme.Component"] ∧
      ∃ a, v.artifact default none = .ok a ∧ ∀ r ∈ v.group.records,
        JavaName.denoted (ClassText.imported a.body) "billing" (v.thrownName default r) =
          JavaName.qualify r.exceptionTarget.1 r.exceptionTarget.2 := by
  intro throwing others v
  have packaged : v.group.package ≠ "" := by decide +kernel
  have valid : JavaName.isQualifiedName (default : ComponentSettings).annotationType = true := by
    decide +kernel
  obtain ⟨a, made, -, -, -, means, -⟩ := imported_and_thrown_names_resolve packaged valid none
  exact ⟨⟨packaged, valid⟩, by decide +kernel, a, made, means⟩

/-- An annotation that is imported takes away the name of the interface if it has that name and is
not the interface itself, the name of the class if it has that name, and of the exceptions the one
of the default package that has its name; every other thrown exception means its target. -/
theorem imported_annotation_captures_iff {v : ValidatedGroup} {settings : ComponentSettings}
    (applies : settings.appliesTo v.componentModel = true)
    (dotted : '.' ∈ settings.annotationType.toList) (header : Option MetadataHeader) :
    ∃ a, v.artifact settings header = .ok a ∧ a.body = v.classText settings header ∧
      let imports := v.imports settings
      settings.annotationType ∈ imports ∧
        (JavaName.denoted imports v.group.package v.group.interface = v.group.qualifiedInterface ↔
          (settings.simpleName = v.group.interface →
            settings.annotationType = v.group.qualifiedInterface)) ∧
        ((∀ i ∈ imports, JavaName.simpleName i ≠ v.group.implementationName) ↔
          settings.simpleName ≠ v.group.implementationName) ∧
        ∀ r ∈ v.group.records,
          JavaName.denoted imports v.group.package (v.thrownName settings r) =
              JavaName.qualify r.exceptionTarget.1 r.exceptionTarget.2 ↔
            r.exceptionTarget ≠ ("", settings.simpleName) := by
  have annotated : v.componentImport? settings = some settings.annotationType :=
    ValidatedGroup.componentImport?_eq_some_iff.2 ⟨applies, dotted, rfl⟩
  refine ⟨_, v.artifact_eq_ok settings header, rfl,
    ValidatedGroup.mem_imports_iff.2 (.inr annotated), ?_,
    ValidatedGroup.implementationName_free_iff annotated, ?_⟩
  · rw [ValidatedGroup.denoted_interface annotated]
    split
    · next clash => exact ⟨fun same _ => same, fun same => same clash⟩
    · next free => exact iff_of_true rfl fun clash => absurd clash free
  · intro r mem
    exact (ValidatedGroup.denoted_thrownName_iff mem).trans
      (not_congr (and_iff_right annotated))

/-- An exception of the default package that is named like the annotation is captured. -/
theorem default_package_exception_captured :
    let r : MethodRecord := .finding .unnamed ⟨"Component", by decide +kernel⟩ "spring"
    let v : ValidatedGroup := ⟨.single r, []⟩
    ((default : ComponentSettings).appliesTo v.componentModel = true ∧
        '.' ∈ (default : ComponentSettings).annotationType.toList) ∧
      JavaName.denoted (v.imports default) "" v.group.interface = "Orders" ∧
      JavaName.denoted (v.imports default) "" (v.thrownName default r) ≠ "Component" := by
  intro r v
  have applies : (default : ComponentSettings).appliesTo v.componentModel = true := by
    decide +kernel
  have dotted : '.' ∈ (default : ComponentSettings).annotationType.toList := by decide +kernel
  obtain ⟨-, -, -, -, interface, -, exceptions⟩ :=
    imported_annotation_captures_iff applies dotted none
  have target : r.exceptionTarget = ("", "Component") := by decide +kernel
  have captured := exceptions r List.mem_cons_self
  rw [target] at captured
  exact ⟨⟨applies, dotted⟩, interface.2 (by decide +kernel),
    fun means => captured.1 means (by decide +kernel)⟩

/-- An annotation that is named like the interface takes its place behind `implements`. -/
theorem interface_captured_by_annotation :
    let r : MethodRecord :=
      .finding .billing .notFound "spring"
    let settings : ComponentSettings := ⟨"spring", "com.acme.Orders"⟩
    ∃ v a, (Group.single r).validate ⟨true, none⟩ = .ok v ∧ v.artifact settings none = .ok a ∧
      settings.appliesTo v.componentModel = true ∧ "com.acme.Orders" ∈ ClassText.imported a.body ∧
      JavaName.denoted (ClassText.imported a.body) "billing" v.group.interface =
        "com.acme.Orders" ∧
      v.group.qualifiedInterface ≠ "com.acme.Orders" := by
  intro r settings
  refine ⟨⟨.single r, []⟩, _, rfl, ValidatedGroup.artifact_eq_ok .., ?_⟩
  rw [ValidatedGroup.imported_classText _ (by decide +kernel)]
  decide +kernel

end ExceptionStubs
