import ExceptionStubs.Proofs.Except
import ExceptionStubs.Proofs.Split
import ExceptionStubs.Run.Build
/-!
# Faults of declarations

All that is wrong with a declaration, in the order in which it is checked. The checks stop at the
first fault: what they report is the head of the list of faults, and they accept a declaration
exactly if that list is empty.
-/

namespace ExceptionStubs

namespace JavaName

/-- Letters and digits are not blank. -/
theorem isBlank_of_isLetterOrDigit {c : Char} (h : isLetterOrDigit c = true) :
    Text.isBlank c = false := by
  change ((((decide ('A'.val ≤ c.val ∧ c.val ≤ 'Z'.val) ||
    (decide ('a'.val ≤ c.val) && decide (c.val ≤ 'z'.val))) || c == '_') || c == '$') ||
    (decide ('0'.val ≤ c.val) && decide (c.val ≤ '9'.val))) = true at h
  simp only [Bool.or_eq_true, Bool.and_eq_true, decide_eq_true_eq, beq_iff_eq,
    UInt32.le_iff_toNat_le] at h
  have range : 36 ≤ c.toNat ∧ c.toNat ≤ 122 := by
    change ((((65 ≤ c.toNat ∧ c.toNat ≤ 90) ∨ (97 ≤ c.toNat ∧ c.toNat ≤ 122)) ∨ c = '_') ∨
      c = '$') ∨ (48 ≤ c.toNat ∧ c.toNat ≤ 57) at h
    obtain (((upper | lower) | rfl) | rfl) | digit := h
    · omega
    · omega
    · decide
    · decide
    · omega
  simp only [Text.isBlank, Bool.or_eq_false_iff, Bool.and_eq_false_iff, decide_eq_false_iff_not,
    beq_eq_false_iff_ne]
  omega

/-- A row of identifiers that are joined by dots holds something. -/
theorem isBlankText_of_isDotted {name : String} (h : IsDotted name) :
    Text.isBlankText name = false := by
  obtain ⟨parts, nonempty, named, rfl⟩ := h
  obtain ⟨first, rest, rfl⟩ := List.exists_cons_of_ne_nil nonempty
  have legal := named first List.mem_cons_self
  obtain ⟨c, inside⟩ : ∃ c, c ∈ first.toList := by
    cases chars : first.toList with
    | nil => simp [isIdentifier, hasIdentifierShape, chars] at legal
    | cons c cs => exact ⟨c, List.mem_cons_self⟩
  have here : c ∈ (".".intercalate (first :: rest)).toList := by
    cases rest <;> simp [String.toList_intercalate, inside]
  have filled := isBlank_of_isLetterOrDigit (isLetterOrDigit_of_mem legal inside)
  rw [Text.isBlankText, List.all_eq_false]
  exact ⟨c, here, by simp [filled]⟩

theorem isDotted_of_isIdentifier {name : String} (h : isIdentifier name = true) : IsDotted name :=
  ⟨[name], by simp, by simpa using h, by simp⟩

end JavaName

/-- A computation that succeeds if there are no faults and fails for the first one otherwise. -/
structure FailsFirst {α : Type} (faults : List Malformed) (x : Except Malformed α) : Prop where
  succeeds : faults = [] → ∃ a, x = .ok a
  fails : ∀ fault ∈ faults.head?, x = .error fault

namespace FailsFirst

variable {α β : Type} {faults later : List Malformed} {x : Except Malformed α}

theorem ok (a : α) : FailsFirst [] (.ok a) := ⟨fun _ => ⟨a, rfl⟩, by simp⟩

theorem error (fault : Malformed) (later : List Malformed) :
    FailsFirst (fault :: later) (.error fault : Except Malformed α) := ⟨by simp, by simp⟩

/-- Faults of one computation come before those of the computation behind it. -/
theorem bind {f : α → Except Malformed β} (first : FailsFirst faults x)
    (behind : ∀ a, x = .ok a → FailsFirst later (f a)) :
    FailsFirst (faults ++ later) (x >>= f) := by
  cases faults with
  | nil =>
    obtain ⟨a, succeeded⟩ := first.succeeds rfl
    rw [succeeded]
    exact behind a succeeded
  | cons fault faults =>
    rw [first.fails fault rfl]
    exact error fault (faults ++ later)

theorem map (f : α → β) (h : FailsFirst faults x) :
    FailsFirst faults (x >>= fun a => pure (f a)) := by
  have whole := h.bind fun a _ => ok (f a)
  rwa [List.append_nil] at whole

theorem mapM {f : β → Except Malformed α} {faultsOf : β → List Malformed}
    (each : ∀ b, FailsFirst (faultsOf b) (f b)) (bs : List β) :
    FailsFirst (bs.flatMap faultsOf) (bs.mapM f) := by
  induction bs with
  | nil => exact ok []
  | cons b bs ih =>
    rw [List.mapM_cons, List.flatMap_cons]
    exact (each b).bind fun a _ => ih.map (a :: ·)

theorem eq_nil_iff (h : FailsFirst faults x) : faults = [] ↔ ∃ a, x = .ok a := by
  refine ⟨h.succeeds, ?_⟩
  rintro ⟨a, rfl⟩
  cases faults with
  | nil => rfl
  | cons fault faults => cases h.fails fault rfl

theorem head?_eq_some_iff {fault : Malformed} (h : FailsFirst faults x) :
    faults.head? = some fault ↔ x = .error fault := by
  refine ⟨fun first => h.fails fault first, ?_⟩
  rintro rfl
  cases faults with
  | nil =>
    obtain ⟨a, ⟨⟩⟩ := h.succeeds rfl
  | cons first faults =>
    cases h.fails first rfl
    rfl

end FailsFirst

namespace Malformed

def ofBlank (declaration field value : String) : List Malformed :=
  if Text.isBlankText value then [.emptyField declaration field] else []

def ofName (isLegal : String → Bool) (declaration kind value : String) : List Malformed :=
  ofBlank declaration kind value ++
    if isLegal value then [] else [.invalidName declaration kind value]

def ofPackage (declaration value : String) : List Malformed :=
  if JavaName.isPackageName value then [] else [.invalidName declaration "package name" value]

def ofElement (declaration : String) (found expected : ElementKind) : List Malformed :=
  if found = expected then [] else [.misplacedMarker declaration found expected]

def ofOwner (declaration : String) (owner : Option String) : List Malformed :=
  if owner.any (!Text.isBlankText ·) then [] else [.unresolvedScope declaration]

def ofParameter (declaration : String) (earlier : List Parameter) (p : Parameter) :
    List Malformed :=
  ofBlank declaration "parameter type" p.typeName ++
    ofName JavaName.isIdentifier declaration "parameter name" p.name ++
    if p.name ∈ earlier.map Parameter.name then [.duplicateParameter declaration p.name] else []

/-- The faults of parameters behind others, in their order. -/
def ofParameters (declaration : String) (earlier ps : List Parameter) : List Malformed :=
  (ps.mapIdx fun i p => ofParameter declaration (earlier ++ ps.take i) p).flatten

@[simp] theorem ofParameters_nil (declaration : String) (earlier : List Parameter) :
    ofParameters declaration earlier [] = [] := rfl

theorem ofParameters_cons (declaration : String) (earlier : List Parameter) (p : Parameter)
    (ps : List Parameter) :
    ofParameters declaration earlier (p :: ps) =
      ofParameter declaration earlier p ++ ofParameters declaration (earlier ++ [p]) ps := by
  simp [ofParameters, List.mapIdx_cons]

theorem ofBlank_eq_nil_iff {declaration field value : String} :
    ofBlank declaration field value = [] ↔ Text.isBlankText value = false := by
  cases h : Text.isBlankText value <;> simp [ofBlank, h]

theorem ofElement_eq_nil_iff {declaration : String} {found expected : ElementKind} :
    ofElement declaration found expected = [] ↔ found = expected := by
  simp [ofElement]

theorem ofOwner_eq_nil_iff {declaration : String} {owner : Option String} :
    ofOwner declaration owner = [] ↔ owner.any (!Text.isBlankText ·) = true := by
  simp [ofOwner]

theorem ofPackage_eq_nil_iff {declaration value : String} :
    ofPackage declaration value = [] ↔ JavaName.isPackageName value = true := by
  cases h : JavaName.isPackageName value <;> simp [ofPackage, h]

theorem ofName_eq_nil_iff {isLegal : String → Bool} {declaration kind value : String}
    (filled : isLegal value = true → Text.isBlankText value = false) :
    ofName isLegal declaration kind value = [] ↔ isLegal value = true := by
  rw [ofName, List.append_eq_nil_iff, ofBlank_eq_nil_iff]
  cases legal : isLegal value with
  | false => simp
  | true => simp [filled legal]

theorem ofName_isIdentifier_eq_nil_iff {declaration kind value : String} :
    ofName JavaName.isIdentifier declaration kind value = [] ↔
      JavaName.isIdentifier value = true :=
  ofName_eq_nil_iff fun named =>
    JavaName.isBlankText_of_isDotted (JavaName.isDotted_of_isIdentifier named)

theorem ofName_isQualifiedName_eq_nil_iff {declaration kind value : String} :
    ofName JavaName.isQualifiedName declaration kind value = [] ↔ JavaName.IsDotted value := by
  rw [ofName_eq_nil_iff fun named =>
    JavaName.isBlankText_of_isDotted (JavaName.isQualifiedName_iff.1 named),
    JavaName.isQualifiedName_iff]

/-- Parameters are without faults if each is well-formed and no two have the same name. -/
theorem ofParameters_eq_nil_iff {declaration : String} {earlier ps : List Parameter} :
    ofParameters declaration earlier ps = [] ↔
      (∀ p ∈ ps, Text.isBlankText p.typeName = false ∧ JavaName.isIdentifier p.name = true) ∧
        (ps.map Parameter.name).Nodup ∧
          ∀ p ∈ ps, p.name ∉ earlier.map Parameter.name := by
  induction ps generalizing earlier with
  | nil => simp
  | cons p ps ih =>
    rw [ofParameters_cons, ofParameter, List.append_eq_nil_iff, List.append_eq_nil_iff,
      List.append_eq_nil_iff, ofBlank_eq_nil_iff, ofName_isIdentifier_eq_nil_iff, ih]
    grind

end Malformed

namespace Validation

theorem packageName_eq_ok {declaration value : String} {package : PackageName}
    (h : packageName declaration value = .ok package) : package.text = value := by
  unfold packageName at h
  split at h
  · cases h
    rfl
  · cases h

theorem qualifiedName_eq_ok {declaration kind value : String} {name : QualifiedName}
    (h : qualifiedName declaration kind value = .ok name) : name.text = value := by
  unfold qualifiedName at h
  obtain ⟨_, -, h⟩ := bind_eq_ok.1 h
  split at h
  · cases h
    rfl
  · cases h

theorem parameters_eq_ok {declaration : String} {ps : List Parameter} {list : ParameterList}
    (h : parameters declaration ps = .ok list) : list.toList = ps := by
  unfold parameters at h
  split at h
  · cases h
    rfl
  · cases h

theorem failsFirst_nonEmpty (declaration field value : String) :
    FailsFirst (Malformed.ofBlank declaration field value) (nonEmpty declaration field value) := by
  unfold Malformed.ofBlank nonEmpty
  split
  · exact .error _ _
  · exact .ok _

theorem failsFirst_identifier (declaration kind value : String) :
    FailsFirst (Malformed.ofName JavaName.isIdentifier declaration kind value)
      (identifier declaration kind value) := by
  refine (failsFirst_nonEmpty declaration kind value).bind fun _ _ => ?_
  by_cases legal : JavaName.isIdentifier value = true
  · rw [if_pos legal, dif_pos legal]
    exact .ok _
  · rw [if_neg legal, dif_neg legal]
    exact .error _ _

theorem failsFirst_packageName (declaration value : String) :
    FailsFirst (Malformed.ofPackage declaration value) (packageName declaration value) := by
  unfold Malformed.ofPackage packageName
  by_cases legal : JavaName.isPackageName value = true
  · rw [if_pos legal, dif_pos legal]
    exact .ok _
  · rw [if_neg legal, dif_neg legal]
    exact .error _ _

theorem failsFirst_qualifiedName (declaration kind value : String) :
    FailsFirst (Malformed.ofName JavaName.isQualifiedName declaration kind value)
      (qualifiedName declaration kind value) := by
  refine (failsFirst_nonEmpty declaration kind value).bind fun _ _ => ?_
  by_cases legal : JavaName.isQualifiedName value = true
  · rw [if_pos legal, dif_pos legal]
    exact .ok _
  · rw [if_neg legal, dif_neg legal]
    exact .error _ _

/-- The names that were seen are those of the earlier parameters. -/
theorem failsFirst_checkParameters (declaration : String) {seen : List String}
    {earlier : List Parameter} (known : ∀ name, name ∈ seen ↔ name ∈ earlier.map Parameter.name)
    (ps : List Parameter) :
    FailsFirst (Malformed.ofParameters declaration earlier ps)
      (checkParameters declaration seen ps) := by
  induction ps generalizing seen earlier with
  | nil => exact .ok ()
  | cons p ps ih =>
    have behind : ∀ name,
        name ∈ p.name :: seen ↔ name ∈ (earlier ++ [p]).map Parameter.name := by grind
    rw [Malformed.ofParameters_cons, Malformed.ofParameter, List.append_assoc, List.append_assoc,
      checkParameters]
    refine (failsFirst_nonEmpty declaration "parameter type" p.typeName).bind fun _ _ => ?_
    refine (failsFirst_identifier declaration "parameter name" p.name).bind fun _ _ => ?_
    by_cases repeated : p.name ∈ seen
    · rw [if_pos repeated, if_pos ((known p.name).1 repeated)]
      exact .error _ _
    · rw [if_neg repeated, if_neg (mt (known p.name).2 repeated), List.nil_append]
      exact ih behind

theorem failsFirst_parameters (declaration : String) (ps : List Parameter) :
    FailsFirst (Malformed.ofParameters declaration [] ps) (parameters declaration ps) := by
  have unseen : ∀ name : String, name ∈ [] ↔ name ∈ [].map Parameter.name := by simp
  obtain ⟨succeeds, fails⟩ := failsFirst_checkParameters declaration unseen ps
  constructor
  · intro none
    obtain ⟨⟨⟩, checked⟩ := succeeds none
    unfold parameters
    split
    · exact ⟨_, rfl⟩
    · next failed =>
      rw [checked] at failed
      cases failed
  · intro fault first
    have failed := fails fault first
    unfold parameters
    split
    · next checked =>
      rw [failed] at checked
      cases checked
    · next fault' failed' =>
      rw [failed] at failed'
      cases failed'
      rfl

end Validation

namespace MethodRecord

structure Describes (r : MethodRecord) (d : Declaration) (scope : Scope) (marker : MethodMarker) :
    Prop where
  package : r.owner.package.text = scope.package
  interface : r.owner.interface.text = scope.typeName
  methodName : r.methodName.text = d.name
  returnType : r.returnType = Text.trim (d.returnType.getD "")
  parameters : r.parameters.toList = d.parameters
  exceptionType : r.exceptionType.text = marker.exceptionType
  componentModel : r.componentModel = normalizeModel marker.componentModel

theorem describes_of_ofDeclaration {d : Declaration} {scope : Scope} {marker : MethodMarker}
    {r : MethodRecord} (h : ofDeclaration d scope marker = .ok r) : r.Describes d scope marker := by
  unfold ofDeclaration at h
  obtain ⟨package, packaged, h⟩ := bind_eq_ok.1 h
  obtain ⟨interface, owned, h⟩ := bind_eq_ok.1 h
  obtain ⟨methodName, named, h⟩ := bind_eq_ok.1 h
  obtain ⟨returnType, returned, h⟩ := bind_eq_ok.1 h
  obtain ⟨parameters, listed, h⟩ := bind_eq_ok.1 h
  obtain ⟨exceptionType, thrown, h⟩ := bind_eq_ok.1 h
  cases h
  exact {
    package := Validation.packageName_eq_ok packaged
    interface := (Validation.identifier_eq_ok owned).1
    methodName := (Validation.identifier_eq_ok named).1
    returnType := congrArg Text.trim (Validation.nonEmpty_eq_ok_iff.1 returned).1
    parameters := Validation.parameters_eq_ok listed
    exceptionType := Validation.qualifiedName_eq_ok thrown
    componentModel := rfl }

end MethodRecord

namespace Declaration

variable {d : Declaration}

def typeFaults (d : Declaration) (marker : TypeMarker) : List Malformed :=
  let display := d.displayName
  Malformed.ofElement display d.element .interfaceType ++
    (Malformed.ofOwner display (some d.name) ++
    (Malformed.ofPackage display d.package ++
    (Malformed.ofName JavaName.isIdentifier display "interface name" d.name ++
    ((if marker.exceptionNames = [] then [.emptyField display "exception_names"] else []) ++
    marker.exceptionNames.flatMap
      (Malformed.ofName JavaName.isIdentifier display "exception name")))))

def methodFaults (d : Declaration) (marker : MethodMarker) : List Malformed :=
  let display := d.displayName
  Malformed.ofElement display d.element .method ++
    (Malformed.ofOwner display d.enclosing ++
    (Malformed.ofPackage display d.package ++
    (Malformed.ofName JavaName.isIdentifier display "interface name" (d.enclosing.getD "") ++
    (Malformed.ofName JavaName.isIdentifier display "method name" d.name ++
    (Malformed.ofBlank display "return type" (d.returnType.getD "") ++
    (Malformed.ofParameters display [] d.parameters ++
    Malformed.ofName JavaName.isQualifiedName display "exception type" marker.exceptionType))))))

def faults (d : Declaration) : List Malformed :=
  match d.marker with
  | .type marker => d.typeFaults marker
  | .method marker => d.methodFaults marker

theorem failsFirst_expectElement (d : Declaration) (expected : ElementKind) :
    FailsFirst (Malformed.ofElement d.displayName d.element expected)
      (d.expectElement expected) := by
  unfold Malformed.ofElement expectElement
  split
  · exact .ok ()
  · exact .error _ _

theorem failsFirst_scope (d : Declaration) :
    FailsFirst (Malformed.ofOwner d.displayName d.owner) d.scope := by
  unfold Malformed.ofOwner scope
  cases d.owner with
  | none => exact .error _ _
  | some owner =>
    by_cases blank : Text.isBlankText owner = true
    · simpa [blank] using FailsFirst.error _ _
    · simpa [blank] using FailsFirst.ok _

theorem expectElement_eq_ok {expected : ElementKind} (h : d.expectElement expected = .ok ()) :
    d.element = expected := by
  unfold expectElement at h
  split at h
  · assumption
  · cases h

theorem scope_eq_ok {scope : Scope} (h : d.scope = .ok scope) :
    scope.package = d.package ∧ d.owner = some scope.typeName := by
  unfold Declaration.scope at h
  cases ho : d.owner with
  | none =>
    rw [ho] at h
    cases h
  | some owner =>
    rw [ho] at h
    dsimp only at h
    split at h
    · cases h
    · cases h
      exact ⟨rfl, rfl⟩

theorem failsFirst_specs {marker : TypeMarker} (h : d.marker = .type marker) :
    FailsFirst (d.typeFaults marker) d.specs := by
  unfold specs
  rw [h]
  refine (d.failsFirst_expectElement .interfaceType).bind fun _ checked => ?_
  have owner : d.owner = some d.name := by
    simp [Declaration.owner, expectElement_eq_ok checked, ElementKind.isType]
  rw [← owner]
  refine d.failsFirst_scope.bind fun scope found => ?_
  obtain ⟨package, typeName⟩ := scope
  obtain ⟨rfl, named⟩ := scope_eq_ok found
  obtain rfl : d.name = typeName := Option.some.inj (owner.symm.trans named)
  refine (Validation.failsFirst_packageName d.displayName d.package).bind fun package _ => ?_
  refine (Validation.failsFirst_identifier d.displayName "interface name" d.name).bind
    fun interface _ => ?_
  by_cases none : marker.exceptionNames = []
  · rw [if_pos none, none]
    exact .error _ []
  · have named (name : String) :=
      (Validation.failsFirst_identifier d.displayName "exception name" name).map
        fun name => ExceptionSpec.mk name.text (.ofCustomOrder marker.customParameterOrder)
          package.text interface.text
    simpa [none] using FailsFirst.mapM named marker.exceptionNames

theorem failsFirst_records {marker : MethodMarker} (h : d.marker = .method marker) :
    FailsFirst (d.methodFaults marker) d.records := by
  unfold records
  rw [h]
  refine (d.failsFirst_expectElement .method).bind fun _ checked => ?_
  have owner : d.owner = d.enclosing := by
    simp [Declaration.owner, expectElement_eq_ok checked, ElementKind.isType]
  rw [← owner]
  refine d.failsFirst_scope.bind fun scope found => ?_
  obtain ⟨package, typeName⟩ := scope
  obtain ⟨rfl, named⟩ := scope_eq_ok found
  rw [named]
  refine FailsFirst.map (fun r => [r]) ?_
  refine (Validation.failsFirst_packageName d.displayName d.package).bind fun package _ => ?_
  refine (Validation.failsFirst_identifier d.displayName "interface name" typeName).bind
    fun interface _ => ?_
  refine (Validation.failsFirst_identifier d.displayName "method name" d.name).bind
    fun methodName _ => ?_
  refine (Validation.failsFirst_nonEmpty d.displayName "return type" _).bind
    fun returnType _ => ?_
  refine (Validation.failsFirst_parameters d.displayName d.parameters).bind
    fun parameters _ => ?_
  exact (Validation.failsFirst_qualifiedName d.displayName "exception type" _).map _

end Declaration

end ExceptionStubs
