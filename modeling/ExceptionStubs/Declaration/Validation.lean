import ExceptionStubs.Declaration.Malformed
import ExceptionStubs.Text.Blank
/-!
# Validation of declared names and parameters

Each check either gives the value in a type that remembers what was checked, or says what is wrong
with the declaration.
-/

namespace ExceptionStubs

namespace Parameter

def isWellFormed (p : Parameter) : Bool :=
  !Text.isBlankText p.typeName && JavaName.isIdentifier p.name

end Parameter

structure ParameterList where
  toList : List Parameter
  wellFormed : ∀ p ∈ toList, p.isWellFormed = true
  distinct : (toList.map Parameter.name).Nodup
deriving DecidableEq

theorem ParameterList.isIdentifier_of_mem (list : ParameterList) {p : Parameter}
    (h : p ∈ list.toList) : JavaName.isIdentifier p.name = true := by
  have wellFormed := list.wellFormed p h
  rw [Parameter.isWellFormed, Bool.and_eq_true] at wellFormed
  exact wellFormed.2

namespace Validation

def nonEmpty (declaration field value : String) : Except Malformed String :=
  if Text.isBlankText value then .error (.emptyField declaration field) else .ok value

def identifier (declaration kind value : String) : Except Malformed Identifier := do
  let _ ← nonEmpty declaration kind value
  if h : JavaName.isIdentifier value = true then return ⟨value, h⟩
  else throw (.invalidName declaration kind value)

/-- Refuses a package name that is neither empty nor a dotted row of identifiers. -/
def packageName (declaration value : String) : Except Malformed PackageName :=
  if h : JavaName.isPackageName value = true then .ok ⟨value, h⟩
  else .error (.invalidName declaration "package name" value)

def qualifiedName (declaration kind value : String) : Except Malformed QualifiedName := do
  let _ ← nonEmpty declaration kind value
  if h : JavaName.isQualifiedName value = true then return ⟨value, h⟩
  else throw (.invalidName declaration kind value)

/-- Checks the parameters in order; `seen` holds the names before them. -/
def checkParameters (declaration : String) (seen : List String) :
    List Parameter → Except Malformed Unit
  | [] => .ok ()
  | p :: ps => do
    let _ ← nonEmpty declaration "parameter type" p.typeName
    let _ ← identifier declaration "parameter name" p.name
    if p.name ∈ seen then throw (.duplicateParameter declaration p.name)
    checkParameters declaration (p.name :: seen) ps

theorem nonEmpty_eq_ok_iff {declaration field value v : String} :
    nonEmpty declaration field value = .ok v ↔ v = value ∧ Text.isBlankText value = false := by
  rw [nonEmpty]
  cases Text.isBlankText value <;> simp [eq_comm]

theorem identifier_eq_ok {declaration kind value : String} {name : Identifier}
    (h : identifier declaration kind value = .ok name) :
    name.text = value ∧ Text.isBlankText value = false := by
  rw [identifier] at h
  cases hb : nonEmpty declaration kind value with
  | error e => simp [hb, bind, Except.bind] at h
  | ok v =>
    by_cases hi : JavaName.isIdentifier value = true
    · simp only [hb, hi, bind, Except.bind, dite_true, pure, Except.pure, Except.ok.injEq] at h
      exact ⟨by rw [← h], (nonEmpty_eq_ok_iff.1 hb).2⟩
    · simp [hb, hi, bind, Except.bind, throw, throwThe, MonadExceptOf.throw] at h

theorem checkParameters_cons {declaration : String} {seen : List String} {p : Parameter}
    {ps : List Parameter} (h : checkParameters declaration seen (p :: ps) = .ok ()) :
    p.isWellFormed = true ∧ p.name ∉ seen ∧
      checkParameters declaration (p.name :: seen) ps = .ok () := by
  rw [checkParameters] at h
  cases ht : nonEmpty declaration "parameter type" p.typeName with
  | error e => simp [ht, bind, Except.bind] at h
  | ok t =>
    cases hn : identifier declaration "parameter name" p.name with
    | error e => simp [ht, hn, bind, Except.bind] at h
    | ok name =>
      by_cases hs : p.name ∈ seen
      · simp [ht, hn, hs, bind, Except.bind, throw, throwThe, MonadExceptOf.throw] at h
      · have hv := name.valid
        rw [(identifier_eq_ok hn).1] at hv
        have hr : checkParameters declaration (p.name :: seen) ps = .ok () := by
          simpa [ht, hn, hs, bind, Except.bind, pure, Except.pure] using h
        exact ⟨by simp [Parameter.isWellFormed, (nonEmpty_eq_ok_iff.1 ht).2, hv], hs, hr⟩

theorem checkParameters_eq_ok {declaration : String} {seen : List String} {ps : List Parameter}
    (h : checkParameters declaration seen ps = .ok ()) :
    (∀ p ∈ ps, p.isWellFormed = true) ∧ (ps.map Parameter.name).Nodup ∧
      ∀ p ∈ ps, p.name ∉ seen := by
  induction ps generalizing seen with
  | nil => simp
  | cons p ps ih =>
    obtain ⟨hp, hs, hr⟩ := checkParameters_cons h
    obtain ⟨hw, hd, hn⟩ := ih hr
    refine ⟨?_, ?_, ?_⟩
    · intro q hq
      rcases List.mem_cons.1 hq with rfl | hq
      · exact hp
      · exact hw q hq
    · rw [List.map_cons, List.nodup_cons]
      refine ⟨fun hm => ?_, hd⟩
      obtain ⟨q, hq, he⟩ := List.mem_map.1 hm
      exact hn q hq (by simp [he])
    · intro q hq
      rcases List.mem_cons.1 hq with rfl | hq
      · exact hs
      · exact fun hm => hn q hq (List.mem_cons_of_mem _ hm)

/-- Refuses blank types, names that are no identifiers and names used twice, in list order. -/
def parameters (declaration : String) (ps : List Parameter) : Except Malformed ParameterList :=
  match h : checkParameters declaration [] ps with
  | .ok () => .ok ⟨ps, (checkParameters_eq_ok h).1, (checkParameters_eq_ok h).2.1⟩
  | .error e => .error e

end Validation

end ExceptionStubs
