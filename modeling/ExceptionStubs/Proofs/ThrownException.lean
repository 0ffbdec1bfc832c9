import ExceptionStubs.ClassText.Implementation
import ExceptionStubs.Proofs.Split
/-!
# Thrown exceptions and their imports

A dotted name is cut into a package and an identifier, and these are put together again by
qualifying. So the exception of a record has a valid target, and that is one of the default package
only for a simple name that is thrown by an interface of the default package. A class imports the
exceptions that it writes by their simple names, and the annotation that it carries.
-/

namespace ExceptionStubs

namespace JavaName

/-- A qualified name is an identifier, or one behind a dot and another qualified name. -/
theorem unqualify?_cases {name : String} (valid : isQualifiedName name = true) :
    unqualify? name = none ∧ isIdentifier name = true ∨
      ∃ package simple, unqualify? name = some (package, simple) ∧
        isQualifiedName package = true ∧ isIdentifier simple = true ∧
        name = package ++ "." ++ simple := by
  rw [isQualifiedName, List.all_eq_true, Text.split] at valid
  unfold unqualify? Text.cutLast
  cases cut : Text.cutLastChars '.' name.toList with
  | none =>
    rw [Text.splitChars_of_notMem (Text.cutLastChars_eq_none_iff.1 cut)] at valid
    refine .inl ⟨rfl, ?_⟩
    simpa using valid
  | some parts =>
    obtain ⟨before, after⟩ := parts
    obtain ⟨chars, last⟩ := Text.eq_of_cutLastChars cut
    rw [chars, Text.splitChars_append, Text.splitChars_of_notMem last] at valid
    refine .inr ⟨.ofList before, .ofList after, rfl, ?_, ?_, ?_⟩
    · rw [isQualifiedName, List.all_eq_true, Text.split, String.toList_ofList]
      intro piece mem
      rw [List.map_append] at valid
      exact valid piece (List.mem_append_left _ mem)
    · exact valid (.ofList after) (by simp)
    · rw [← String.toList_inj, chars]
      simp

/-- A name ends with its simple name. -/
theorem suffix_simpleName (name : String) : (simpleName name).toList <:+ name.toList := by
  unfold simpleName unqualify? Text.cutLast
  cases cut : Text.cutLastChars '.' name.toList with
  | none => exact List.suffix_refl _
  | some parts =>
    obtain ⟨before, after⟩ := parts
    obtain ⟨chars, -⟩ := Text.eq_of_cutLastChars cut
    rw [chars]
    simpa using (List.suffix_cons '.' after).trans (List.suffix_append before _)

theorem ne_empty_of_isQualifiedName {name : String} (valid : isQualifiedName name = true) :
    name ≠ "" := by
  rintro rfl
  exact absurd valid (by decide)

/-- A name without dots is a qualified one if it is an identifier. -/
theorem isQualifiedName_of_simple {name : String} (simple : '.' ∉ name.toList) :
    isQualifiedName name = isIdentifier name := by
  rw [isQualifiedName, Text.split, Text.splitChars_of_notMem simple]
  simp

/-- It is one within a package under the same condition. -/
theorem isQualifiedName_qualify_of_simple {package name : String}
    (valid : isPackageName package = true) (simple : '.' ∉ name.toList) :
    isQualifiedName (qualify package name) = isIdentifier name := by
  unfold qualify
  cases empty : package.isEmpty with
  | true => exact isQualifiedName_of_simple simple
  | false =>
    rw [isPackageName, empty, Bool.false_or, isQualifiedName] at valid
    have chars : (package ++ "." ++ name).toList = package.toList ++ '.' :: name.toList := by
      simp
    have pieces : Text.split '.' (package ++ "." ++ name) = Text.split '.' package ++ [name] := by
      rw [Text.split, chars, Text.splitChars_append, Text.splitChars_of_notMem simple,
        List.map_append, List.map_singleton, String.ofList_toList, Text.split]
    rw [if_neg Bool.false_ne_true, isQualifiedName, pieces, List.all_append, valid]
    simp

theorem isQualifiedName_of_isIdentifier {name : String} (valid : isIdentifier name = true) :
    isQualifiedName name = true := by
  rw [isQualifiedName_of_simple (dot_notMem_of_isIdentifier valid), valid]

theorem isQualifiedName_qualify {package name : String} (valid : isPackageName package = true)
    (named : isIdentifier name = true) : isQualifiedName (qualify package name) = true := by
  rw [isQualifiedName_qualify_of_simple valid (dot_notMem_of_isIdentifier named), named]

end JavaName

def PackageName.unnamed : PackageName := ⟨"", by decide⟩

def PackageName.billing : PackageName := ⟨"billing", by decide +kernel⟩

def QualifiedName.notFound : QualifiedName := ⟨"NotFound", by decide +kernel⟩

namespace MethodRecord

variable (r : MethodRecord)

/-- The exception of a record is a simple one of the owning package or a dotted name. -/
theorem exceptionTarget_cases :
    r.exceptionTarget = (r.owner.package.text, r.exceptionType.text) ∧
        JavaName.isIdentifier r.exceptionType.text = true ∨
      ∃ package simple, r.exceptionTarget = (package, simple) ∧
        JavaName.isQualifiedName package = true ∧ JavaName.isIdentifier simple = true ∧
        r.exceptionType.text = package ++ "." ++ simple := by
  unfold exceptionTarget
  obtain ⟨none, named⟩ | ⟨package, simple, some, valid⟩ :=
    JavaName.unqualify?_cases r.exceptionType.valid
  · rw [none]
    exact .inl ⟨rfl, named⟩
  · rw [some]
    exact .inr ⟨package, simple, rfl, valid⟩

theorem isIdentifier_exceptionTarget : JavaName.isIdentifier r.exceptionTarget.2 = true := by
  obtain ⟨target, named⟩ | ⟨package, simple, target, -, named, -⟩ := r.exceptionTarget_cases
  · rwa [target]
  · rwa [target]

theorem isPackageName_exceptionTarget : JavaName.isPackageName r.exceptionTarget.1 = true := by
  obtain ⟨target, -⟩ | ⟨package, simple, target, valid, -⟩ := r.exceptionTarget_cases
  · rw [target]
    exact r.owner.package.valid
  · rw [target]
    exact JavaName.isPackageName_of_isQualifiedName valid

theorem dot_notMem_exceptionTarget : '.' ∉ r.exceptionTarget.2.toList :=
  JavaName.dot_notMem_of_isIdentifier r.isIdentifier_exceptionTarget

/-- Only interfaces of the default package throw its exceptions. -/
theorem package_eq_empty_of_exceptionTarget (h : r.exceptionTarget.1 = "") :
    r.owner.package.text = "" := by
  obtain ⟨target, -⟩ | ⟨package, simple, target, valid, -⟩ := r.exceptionTarget_cases
  · rwa [target] at h
  · rw [target] at h
    exact absurd h (JavaName.ne_empty_of_isQualifiedName valid)

def exceptionName : String := JavaName.qualify r.exceptionTarget.1 r.exceptionTarget.2

theorem isQualifiedName_exceptionName : JavaName.isQualifiedName r.exceptionName = true :=
  JavaName.isQualifiedName_qualify r.isPackageName_exceptionTarget r.isIdentifier_exceptionTarget

def finding (package : PackageName) (exceptionType : QualifiedName) (model : String) :
    MethodRecord where
  owner := ⟨package, ⟨"Orders", by decide +kernel⟩⟩
  methodName := ⟨"find", by decide +kernel⟩
  returnType := "Order"
  parameters := ⟨[], by decide, by decide⟩
  exceptionType := exceptionType
  componentModel := model

end MethodRecord

namespace ValidatedGroup

variable {v : ValidatedGroup} {settings : ComponentSettings}

theorem thrownName_eq (v : ValidatedGroup) (settings : ComponentSettings) (r : MethodRecord) :
    v.thrownName settings r =
      if v.throwsQualified settings r then r.exceptionName else r.exceptionTarget.2 := rfl

theorem isQualifiedName_thrownName (v : ValidatedGroup) (settings : ComponentSettings)
    (r : MethodRecord) : JavaName.isQualifiedName (v.thrownName settings r) = true := by
  rw [thrownName_eq]
  split
  · exact r.isQualifiedName_exceptionName
  · exact JavaName.isQualifiedName_of_isIdentifier r.isIdentifier_exceptionTarget

theorem exceptionImport?_eq_some_iff {r : MethodRecord} {i : String} :
    v.exceptionImport? settings r = some i ↔
      v.throwsQualified settings r = false ∧ r.exceptionTarget.1 ≠ "" ∧ r.exceptionName = i := by
  have known : v.exceptionImport? settings r =
      if v.throwsQualified settings r || r.exceptionTarget.1.isEmpty then none
      else some r.exceptionName := rfl
  rw [known]
  cases v.throwsQualified settings r <;> simp [String.isEmpty_iff]

theorem componentImport?_eq_some_iff {i : String} :
    v.componentImport? settings = some i ↔
      settings.appliesTo v.componentModel = true ∧ '.' ∈ settings.annotationType.toList ∧
        settings.annotationType = i := by
  unfold componentImport? component? ComponentSettings.importName?
  cases settings.appliesTo v.componentModel <;> simp

/-- An import is that of an exception that is written by its simple name or that of the
annotation. -/
theorem mem_imports_iff {i : String} :
    i ∈ v.imports settings ↔
      (∃ r ∈ v.group.records, v.exceptionImport? settings r = some i) ∨
        v.componentImport? settings = some i := by
  rw [imports, List.mem_eraseDups, List.mem_append, List.mem_filterMap, Option.mem_toList]

end ValidatedGroup

end ExceptionStubs
