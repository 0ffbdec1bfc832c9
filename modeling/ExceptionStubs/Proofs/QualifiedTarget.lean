import ExceptionStubs.Proofs.Faults
import ExceptionStubs.Proofs.ThrownException
import Mathlib.Data.Set.Function
/-!
# Targets and their qualified names

A sink takes the targets whose two parts are accepted as the package and the name of a declaration.
Qualifying joins these parts, cutting at the last dot parts them again, and every qualified name
that is accepted comes from one such target. So a valid target can be kept as a pair or by its
qualified name, and the exception of a record, whichever way it is spelled, is a valid target.
-/

namespace ExceptionStubs

namespace Validation

variable {declaration kind value : String}

theorem exists_packageName_eq_ok_iff :
    (∃ package, packageName declaration value = .ok package) ↔
      JavaName.isPackageName value = true := by
  rw [← (failsFirst_packageName declaration value).eq_nil_iff, Malformed.ofPackage_eq_nil_iff]

theorem exists_identifier_eq_ok_iff :
    (∃ name, identifier declaration kind value = .ok name) ↔
      JavaName.isIdentifier value = true := by
  rw [← (failsFirst_identifier declaration kind value).eq_nil_iff,
    Malformed.ofName_isIdentifier_eq_nil_iff]

theorem exists_qualifiedName_eq_ok_iff :
    (∃ name, qualifiedName declaration kind value = .ok name) ↔
      JavaName.isQualifiedName value = true := by
  rw [← (failsFirst_qualifiedName declaration kind value).eq_nil_iff,
    Malformed.ofName_isQualifiedName_eq_nil_iff, JavaName.isQualifiedName_iff]

end Validation

namespace Target

/-- The target with a qualified name. A name without dots is one of the default package. -/
def ofQualifiedName (name : String) : String × String := (JavaName.unqualify? name).getD ("", name)

theorem isQualifiedName_of_check {package name : String} (valid : check package name = .ok ()) :
    JavaName.isQualifiedName (JavaName.qualify package name) = true := by
  obtain ⟨identifier, packaged⟩ := check_eq_ok_iff.1 valid
  exact JavaName.isQualifiedName_qualify packaged identifier

theorem ofQualifiedName_qualify {package name : String} (valid : check package name = .ok ()) :
    ofQualifiedName (JavaName.qualify package name) = (package, name) := by
  obtain ⟨identifier, -⟩ := check_eq_ok_iff.1 valid
  have simple := JavaName.dot_notMem_of_isIdentifier identifier
  rw [ofQualifiedName, JavaName.unqualify?_qualify simple]
  by_cases default : package = ""
  · simp [default, JavaName.qualify]
  · simp [default]

/-- An accepted name is the qualified name of its target, and the target is valid. -/
theorem ofQualifiedName_cases {name : String} (valid : JavaName.isQualifiedName name = true) :
    ∃ package simple, ofQualifiedName name = (package, simple) ∧ check package simple = .ok () ∧
      JavaName.qualify package simple = name := by
  obtain ⟨none, identifier⟩ | ⟨package, simple, some, packaged, identifier, joined⟩ :=
    JavaName.unqualify?_cases valid
  · refine ⟨"", name, by rw [ofQualifiedName, none, Option.getD_none], ?_, rfl⟩
    exact check_eq_ok_iff.2 ⟨identifier, rfl⟩
  · refine ⟨package, simple, by rw [ofQualifiedName, some, Option.getD_some], ?_, ?_⟩
    · exact check_eq_ok_iff.2 ⟨identifier, JavaName.isPackageName_of_isQualifiedName packaged⟩
    · have filled := JavaName.ne_empty_of_isQualifiedName packaged
      simp [JavaName.qualify, filled, joined]

theorem invOn_qualify :
    Set.InvOn ofQualifiedName (Function.uncurry JavaName.qualify)
      {t | check t.1 t.2 = .ok ()} {name | JavaName.isQualifiedName name = true} := by
  constructor
  · rintro ⟨package, name⟩ valid
    exact ofQualifiedName_qualify valid
  · intro name accepted
    obtain ⟨package, simple, target, -, joined⟩ := ofQualifiedName_cases accepted
    rwa [target]

theorem bijOn_qualify :
    Set.BijOn (Function.uncurry JavaName.qualify)
      {t | check t.1 t.2 = .ok ()} {name | JavaName.isQualifiedName name = true} := by
  refine invOn_qualify.bijOn ?_ ?_
  · rintro ⟨package, name⟩ valid
    exact isQualifiedName_of_check valid
  · intro name accepted
    obtain ⟨package, simple, target, valid, -⟩ := ofQualifiedName_cases accepted
    rwa [target]

end Target

namespace MethodRecord

variable (r : MethodRecord)

theorem check_exceptionTarget : Target.check r.exceptionTarget.1 r.exceptionTarget.2 = .ok () :=
  Target.check_eq_ok_iff.2 ⟨r.isIdentifier_exceptionTarget, r.isPackageName_exceptionTarget⟩

theorem exceptionTarget_eq_ite :
    r.exceptionTarget =
      if '.' ∈ r.exceptionType.text.toList then Target.ofQualifiedName r.exceptionType.text
      else (r.owner.package.text, r.exceptionType.text) := by
  unfold exceptionTarget Target.ofQualifiedName
  obtain ⟨none, identifier⟩ | ⟨package, simple, some, -, -, joined⟩ :=
    JavaName.unqualify?_cases r.exceptionType.valid
  · rw [none, if_neg (JavaName.dot_notMem_of_isIdentifier identifier)]
    rfl
  · have dotted : '.' ∈ r.exceptionType.text.toList := by simp [joined]
    rw [some, if_pos dotted]
    rfl

end MethodRecord

/-- Qualified names stand for valid targets. A target is valid exactly if its package is accepted as
a package name and its class name as an identifier. Qualifying matches the valid targets one by one
with the accepted qualified names, and the target with a qualified name undoes it. The exception of
a record is a valid target: the one with its qualified name if the exception is dotted, and that
name within the owning package if it is simple. -/
theorem qualified_names_stand_for_targets :
    (∀ declaration kind package name,
      Target.check package name = .ok () ↔
        (∃ p, Validation.packageName declaration package = .ok p) ∧
          ∃ n, Validation.identifier declaration kind name = .ok n) ∧
    (∀ declaration kind,
      let targets := {t : String × String | Target.check t.1 t.2 = .ok ()}
      let names := {s | ∃ n, Validation.qualifiedName declaration kind s = .ok n}
      Set.BijOn (Function.uncurry JavaName.qualify) targets names ∧
      Set.InvOn Target.ofQualifiedName (Function.uncurry JavaName.qualify) targets names) ∧
    ∀ r : MethodRecord,
      Target.check r.exceptionTarget.1 r.exceptionTarget.2 = .ok () ∧
      r.exceptionTarget =
        if '.' ∈ r.exceptionType.text.toList then Target.ofQualifiedName r.exceptionType.text
        else (r.owner.package.text, r.exceptionType.text) := by
  refine ⟨?_, ?_, fun r => ⟨r.check_exceptionTarget, r.exceptionTarget_eq_ite⟩⟩
  · intro declaration kind package name
    rw [Validation.exists_packageName_eq_ok_iff, Validation.exists_identifier_eq_ok_iff,
      Target.check_eq_ok_iff, and_comm]
  · intro declaration kind targets names
    have known : names = {name | JavaName.isQualifiedName name = true} :=
      Set.ext fun _ => Validation.exists_qualifiedName_eq_ok_iff
    rw [known]
    exact ⟨Target.bijOn_qualify, Target.invOn_qualify⟩

example : (MethodRecord.finding .billing ⟨"com.acme.Gone", by decide +kernel⟩ "").exceptionTarget =
    ("com.acme", "Gone") := by
  decide +kernel

end ExceptionStubs
