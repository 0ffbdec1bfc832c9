import ExceptionStubs.Fingerprint
import ExceptionStubs.Proofs.ExceptionSpec
import ExceptionStubs.Proofs.ThrownException
/-!
# Reading the encoded input back

The encoding of specs and records tells them as long as no field holds the NUL that stands behind
the fields. What needs a look ahead is the end of a record: its line break is followed by nothing or
by the word that opens the next record, while a parameter holds a space before its name.
-/

namespace ExceptionStubs

namespace ExceptionSpec

def withoutOrigin (s : ExceptionSpec) : ExceptionSpec := { s with originInterface := "" }

def key (s : ExceptionSpec) : String × String × ExceptionMode := (s.package, s.name, s.mode)

def IsBuilt (s : ExceptionSpec) : Prop :=
  ∃ d scope marker specs, ofMarker d scope marker = .ok specs ∧ s ∈ specs

theorem IsBuilt.check {s : ExceptionSpec} (h : s.IsBuilt) :
    Target.check s.package s.name = .ok () := by
  obtain ⟨d, scope, marker, specs, made, mem⟩ := h
  exact Target.check_eq_ok_iff.2 (valid_of_mem_ofMarker made mem)

end ExceptionSpec

/-- A record that holds no NUL. -/
structure MethodRecord.IsSeparable (r : MethodRecord) : Prop where
  returnType : '\x00' ∉ r.returnType.toList
  parameters : ∀ p ∈ r.parameters.toList, '\x00' ∉ p.typeName.toList
  componentModel : '\x00' ∉ r.componentModel.toList

theorem MethodRecord.isSeparable_iff {r : MethodRecord} :
    r.IsSeparable ↔ '\x00' ∉ r.returnType.toList ∧
      (∀ p ∈ r.parameters.toList, '\x00' ∉ p.typeName.toList) ∧
        '\x00' ∉ r.componentModel.toList :=
  ⟨fun h => ⟨h.returnType, h.parameters, h.componentModel⟩, fun ⟨a, b, c⟩ => ⟨a, b, c⟩⟩

instance (r : MethodRecord) : Decidable r.IsSeparable :=
  decidable_of_iff _ MethodRecord.isSeparable_iff.symm

/-- A record is told by its texts. -/
theorem MethodRecord.eq_of_texts {r r' : MethodRecord}
    (package : r.owner.package.text = r'.owner.package.text)
    (interface : r.owner.interface.text = r'.owner.interface.text)
    (methodName : r.methodName.text = r'.methodName.text)
    (returnType : r.returnType = r'.returnType)
    (parameters : r.parameters.toList = r'.parameters.toList)
    (exceptionType : r.exceptionType.text = r'.exceptionType.text)
    (componentModel : r.componentModel = r'.componentModel) : r = r' := by
  obtain ⟨⟨⟨_, _⟩, ⟨_, _⟩⟩, ⟨_, _⟩, _, ⟨_, _, _⟩, ⟨_, _⟩, _⟩ := r
  obtain ⟨⟨⟨_, _⟩, ⟨_, _⟩⟩, ⟨_, _⟩, _, ⟨_, _, _⟩, ⟨_, _⟩, _⟩ := r'
  dsimp only at package interface methodName returnType parameters exceptionType componentModel
  subst package interface methodName returnType parameters exceptionType componentModel
  rfl

namespace Fingerprint

theorem null_notMem_of_isPackageName {package : String}
    (h : JavaName.isPackageName package = true) : '\x00' ∉ package.toList :=
  JavaName.notMem_of_isPackageName h (by decide) (by decide)

theorem null_notMem_of_isIdentifier {name : String} (h : JavaName.isIdentifier name = true) :
    '\x00' ∉ name.toList :=
  JavaName.notMem_of_isIdentifier h (by decide)

theorem null_notMem_of_isQualifiedName {name : String} (h : JavaName.isQualifiedName name = true) :
    '\x00' ∉ name.toList :=
  JavaName.notMem_of_isQualifiedName h (by decide) (by decide)

theorem field_append_ne_empty (s x : String) : field s ++ x ≠ "" := by
  intro same
  have marked : '\x00' ∈ (field s ++ x).toList := by simp [field]
  rw [same] at marked
  exact absurd marked (by decide)

theorem field_append_inj {s t x y : String} (hs : '\x00' ∉ s.toList) (ht : '\x00' ∉ t.toList) :
    field s ++ x = field t ++ y ↔ s = t ∧ x = y := by
  have cut : s.toList ++ '\x00' :: x.toList = t.toList ++ '\x00' :: y.toList ↔
      s.toList = t.toList ∧ x.toList = y.toList := Text.append_cons_inj hs ht
  rw [String.toList_inj, String.toList_inj] at cut
  rw [← cut, ← String.toList_inj]
  simp [field]

def encodeFields (fields : List String) : String := "".intercalate (fields.map field)

theorem encodeFields_cons (s : String) (fields : List String) :
    encodeFields (s :: fields) = field s ++ encodeFields fields := Text.join_cons _ _

/-- As many fields without NULs are told together with what stands behind them. -/
theorem encodeFields_append_inj {fields fields' : List String} {x y : String}
    (length : fields.length = fields'.length) (h : ∀ s ∈ fields, '\x00' ∉ s.toList)
    (h' : ∀ s ∈ fields', '\x00' ∉ s.toList)
    (same : encodeFields fields ++ x = encodeFields fields' ++ y) : fields = fields' ∧ x = y := by
  induction fields generalizing fields' with
  | nil =>
    obtain rfl := List.eq_nil_of_length_eq_zero length.symm
    exact ⟨rfl, by simpa using same⟩
  | cons s fields ih =>
    cases fields' with
    | nil => cases length
    | cons t fields' =>
      rw [encodeFields_cons, encodeFields_cons, String.append_assoc, String.append_assoc,
        field_append_inj (h s List.mem_cons_self) (h' t List.mem_cons_self)] at same
      obtain ⟨rfl, same⟩ := same
      obtain ⟨rfl, rfl⟩ := ih (by simpa using length)
        (fun r mem => h r (List.mem_cons_of_mem s mem))
        (fun r mem => h' r (List.mem_cons_of_mem s mem)) same
      exact ⟨rfl, rfl⟩

/-- What may stand behind the line break at the end of a record: nothing or another record. -/
def OpensRecord (rest : String) : Prop := rest = "" ∨ ∃ later, rest = field "method" ++ later

/-- A parameter cannot be taken for the end of a record. -/
theorem encodeParameter_append_ne {p : Parameter} {x rest : String}
    (typeName : '\x00' ∉ p.typeName.toList) (name : JavaName.isIdentifier p.name = true)
    (opens : OpensRecord rest) : encodeParameter p ++ x ≠ "\n" ++ rest := by
  intro same
  obtain rfl | ⟨later, rfl⟩ := opens
  · have marked : '\x00' ∈ (encodeParameter p ++ x).toList := by simp [encodeParameter, field]
    rw [same] at marked
    exact absurd marked (by decide)
  · have opening : "\n" ++ (field "method" ++ later) = field "\nmethod" ++ later := by
      rw [← String.append_assoc]
      rfl
    have piece : '\x00' ∉ (p.typeName ++ " " ++ p.name).toList := by
      simp [typeName, null_notMem_of_isIdentifier name]
    rw [opening, encodeParameter, field_append_inj piece (by decide)] at same
    have spaced : ' ' ∈ (p.typeName ++ " " ++ p.name).toList := by simp
    rw [same.1] at spaced
    exact absurd spaced (by decide)

theorem encodeParameter_append_inj {p q : Parameter} {x y : String}
    (typeName : '\x00' ∉ p.typeName.toList) (typeName' : '\x00' ∉ q.typeName.toList)
    (name : JavaName.isIdentifier p.name = true) (name' : JavaName.isIdentifier q.name = true) :
    encodeParameter p ++ x = encodeParameter q ++ y ↔ p = q ∧ x = y := by
  have piece : '\x00' ∉ (p.typeName ++ " " ++ p.name).toList := by
    simp [typeName, null_notMem_of_isIdentifier name]
  have piece' : '\x00' ∉ (q.typeName ++ " " ++ q.name).toList := by
    simp [typeName', null_notMem_of_isIdentifier name']
  have unspaced : ' ' ∉ p.name.toList := JavaName.notMem_of_isIdentifier name (by decide)
  have unspaced' : ' ' ∉ q.name.toList := JavaName.notMem_of_isIdentifier name' (by decide)
  have cut : p.typeName ++ " " ++ p.name = q.typeName ++ " " ++ q.name ↔ p = q := by
    rw [← String.toList_inj]
    simp only [String.toList_append, List.append_assoc]
    refine (Text.append_cons_inj_last unspaced unspaced').trans ?_
    rw [String.toList_inj, String.toList_inj, Parameter.mk.injEq]
  rw [encodeParameter, encodeParameter, field_append_inj piece piece', cut]

def encodeParameters (ps : List Parameter) : String := "".intercalate (ps.map encodeParameter)

def encodeRecords (records : List MethodRecord) : String :=
  "".intercalate (records.map encodeRecord)

theorem encodeParameters_cons (p : Parameter) (ps : List Parameter) :
    encodeParameters (p :: ps) = encodeParameter p ++ encodeParameters ps := Text.join_cons _ _

def recordFields (r : MethodRecord) : List String :=
  ["method", r.owner.package.text, r.owner.interface.text, r.methodName.text, r.returnType,
    r.exceptionType.text, r.componentModel]

theorem null_notMem_of_mem_recordFields {r : MethodRecord} (h : r.IsSeparable) :
    ∀ s ∈ recordFields r, '\x00' ∉ s.toList := by
  have package := null_notMem_of_isPackageName r.owner.package.valid
  have interface := null_notMem_of_isIdentifier r.owner.interface.valid
  have methodName := null_notMem_of_isIdentifier r.methodName.valid
  have exceptionType := null_notMem_of_isQualifiedName r.exceptionType.valid
  simp [recordFields, package, interface, methodName, exceptionType, h.returnType,
    h.componentModel]

theorem encodeRecords_cons (r : MethodRecord) (records : List MethodRecord) :
    encodeRecords (r :: records) =
      encodeFields (recordFields r) ++
        (encodeParameters r.parameters.toList ++ ("\n" ++ encodeRecords records)) := by
  simp [encodeRecords, encodeRecord, encodeFields, encodeParameters, recordFields, Text.join_cons,
    String.append_assoc]

theorem encodeRecords_cons_eq (r : MethodRecord) (records : List MethodRecord) :
    ∃ later, encodeRecords (r :: records) = field "method" ++ later := by
  rw [encodeRecords_cons, recordFields, encodeFields_cons, String.append_assoc]
  exact ⟨_, rfl⟩

theorem opensRecord_encodeRecords (records : List MethodRecord) :
    OpensRecord (encodeRecords records) := by
  cases records with
  | nil => exact .inl rfl
  | cons r records => exact .inr (encodeRecords_cons_eq r records)

/-- Parameters without NULs are told together with what stands behind their record. -/
theorem encodeParameters_append_inj {ps qs : List Parameter} {x y : String}
    (hp : ∀ p ∈ ps, '\x00' ∉ p.typeName.toList ∧ JavaName.isIdentifier p.name = true)
    (hq : ∀ q ∈ qs, '\x00' ∉ q.typeName.toList ∧ JavaName.isIdentifier q.name = true)
    (hx : OpensRecord x) (hy : OpensRecord y)
    (same : encodeParameters ps ++ ("\n" ++ x) = encodeParameters qs ++ ("\n" ++ y)) :
    ps = qs ∧ x = y := by
  induction ps generalizing qs with
  | nil =>
    cases qs with
    | nil => exact ⟨rfl, by simpa using same⟩
    | cons q qs =>
      obtain ⟨typeName, name⟩ := hq q List.mem_cons_self
      rw [encodeParameters_cons, String.append_assoc] at same
      exact absurd same.symm (encodeParameter_append_ne typeName name hx)
  | cons p ps ih =>
    obtain ⟨typeName, name⟩ := hp p List.mem_cons_self
    rw [encodeParameters_cons, String.append_assoc] at same
    cases qs with
    | nil => exact absurd same (encodeParameter_append_ne typeName name hy)
    | cons q qs =>
      obtain ⟨typeName', name'⟩ := hq q List.mem_cons_self
      rw [encodeParameters_cons, String.append_assoc,
        encodeParameter_append_inj typeName typeName' name name'] at same
      obtain ⟨rfl, same⟩ := same
      obtain ⟨rfl, rfl⟩ := ih (fun r mem => hp r (List.mem_cons_of_mem p mem))
        (fun r mem => hq r (List.mem_cons_of_mem p mem)) same
      exact ⟨rfl, rfl⟩

theorem encodeRecords_ne_empty (r : MethodRecord) (records : List MethodRecord) :
    encodeRecords (r :: records) ≠ "" := by
  obtain ⟨later, opening⟩ := encodeRecords_cons_eq r records
  rw [opening]
  exact field_append_ne_empty _ _

/-- Records without NULs are told by their encoding. -/
theorem encodeRecords_inj {records records' : List MethodRecord}
    (separable : ∀ r ∈ records, r.IsSeparable) (separable' : ∀ r ∈ records', r.IsSeparable)
    (same : encodeRecords records = encodeRecords records') : records = records' := by
  induction records generalizing records' with
  | nil =>
    cases records' with
    | nil => rfl
    | cons r' records' => exact absurd same.symm (encodeRecords_ne_empty r' records')
  | cons r records ih =>
    cases records' with
    | nil => exact absurd same (encodeRecords_ne_empty r records)
    | cons r' records' =>
      have here := separable r List.mem_cons_self
      have here' := separable' r' List.mem_cons_self
      have length : (recordFields r).length = (recordFields r').length := rfl
      rw [encodeRecords_cons, encodeRecords_cons] at same
      obtain ⟨fields, same⟩ := encodeFields_append_inj length (null_notMem_of_mem_recordFields here)
        (null_notMem_of_mem_recordFields here') same
      obtain ⟨parameters, later⟩ := encodeParameters_append_inj
        (fun p mem => ⟨here.parameters p mem, r.parameters.isIdentifier_of_mem mem⟩)
        (fun p mem => ⟨here'.parameters p mem, r'.parameters.isIdentifier_of_mem mem⟩)
        (opensRecord_encodeRecords records) (opensRecord_encodeRecords records') same
      simp only [recordFields, List.cons.injEq, and_true, true_and] at fields
      obtain ⟨package, interface, methodName, returnType, exceptionType, componentModel⟩ := fields
      obtain rfl := MethodRecord.eq_of_texts package interface methodName returnType parameters
        exceptionType componentModel
      obtain rfl := ih (fun s mem => separable s (List.mem_cons_of_mem r mem))
        (fun s mem => separable' s (List.mem_cons_of_mem r mem)) later
      rfl

def encodeSpecs (specs : List ExceptionSpec) : String := "".intercalate (specs.map encodeSpec)

theorem encode_eq (specs : List ExceptionSpec) (records : List MethodRecord) :
    encode specs records = encodeSpecs specs ++ encodeRecords records := rfl

def specFields (s : ExceptionSpec) : List String := ["exception", s.package, s.name]

theorem null_notMem_of_mem_specFields {s : ExceptionSpec}
    (valid : Target.check s.package s.name = .ok ()) : ∀ t ∈ specFields s, '\x00' ∉ t.toList := by
  obtain ⟨name, package⟩ := Target.check_eq_ok_iff.1 valid
  simp [specFields, null_notMem_of_isPackageName package, null_notMem_of_isIdentifier name]

@[simp] theorem encodeSpecs_nil : encodeSpecs [] = "" := rfl

theorem encodeSpecs_cons (s : ExceptionSpec) (specs : List ExceptionSpec) :
    encodeSpecs (s :: specs) =
      encodeFields (specFields s) ++ (s.mode.word ++ ("\n" ++ encodeSpecs specs)) := by
  simp [encodeSpecs, encodeSpec, encodeFields, specFields, Text.join_cons, String.append_assoc]

theorem word_append_inj {mode mode' : ExceptionMode} {x y : String} :
    mode.word ++ ("\n" ++ x) = mode'.word ++ ("\n" ++ y) ↔ mode = mode' ∧ x = y := by
  have apart (x y : String) :
      ExceptionMode.standard.word ++ ("\n" ++ x) ≠ ExceptionMode.variadic.word ++ ("\n" ++ y) := by
    intro same
    have first := congrArg (·.toList.head?) same
    simp [ExceptionMode.word] at first
  cases mode <;> cases mode'
  · simp
  · simp [apart]
  · simp [(apart _ _).symm]
  · simp

/-- Records are not taken for specs. -/
theorem encodeSpecs_append_ne (s : ExceptionSpec) (specs : List ExceptionSpec) (x : String)
    (records : List MethodRecord) : encodeSpecs (s :: specs) ++ x ≠ encodeRecords records := by
  intro same
  rw [encodeSpecs_cons, specFields, encodeFields_cons, String.append_assoc,
    String.append_assoc] at same
  cases records with
  | nil => exact field_append_ne_empty _ _ same
  | cons r records =>
    obtain ⟨later, opening⟩ := encodeRecords_cons_eq r records
    rw [opening, field_append_inj (by decide) (by decide)] at same
    exact absurd same.1 (by decide)

/-- What is encoded is told by the encoding if names are valid and no record holds a NUL: the specs
up to their interfaces, and the records. -/
theorem encode_inj {specs specs' : List ExceptionSpec} {records records' : List MethodRecord}
    (valid : ∀ s ∈ specs, Target.check s.package s.name = .ok ())
    (valid' : ∀ s ∈ specs', Target.check s.package s.name = .ok ())
    (separable : ∀ r ∈ records, r.IsSeparable) (separable' : ∀ r ∈ records', r.IsSeparable)
    (same : encode specs records = encode specs' records') :
    specs.map ExceptionSpec.withoutOrigin = specs'.map ExceptionSpec.withoutOrigin ∧
      records = records' := by
  rw [encode_eq, encode_eq] at same
  induction specs generalizing specs' with
  | nil =>
    rw [encodeSpecs_nil, String.empty_append] at same
    cases specs' with
    | nil =>
      rw [encodeSpecs_nil, String.empty_append] at same
      exact ⟨rfl, encodeRecords_inj separable separable' same⟩
    | cons s' specs' => exact absurd same.symm (encodeSpecs_append_ne s' specs' _ _)
  | cons s specs ih =>
    cases specs' with
    | nil =>
      rw [encodeSpecs_nil, String.empty_append] at same
      exact absurd same (encodeSpecs_append_ne s specs _ _)
    | cons s' specs' =>
      have length : (specFields s).length = (specFields s').length := rfl
      simp only [encodeSpecs_cons, String.append_assoc] at same
      obtain ⟨fields, same⟩ := encodeFields_append_inj length
        (null_notMem_of_mem_specFields (valid s List.mem_cons_self))
        (null_notMem_of_mem_specFields (valid' s' List.mem_cons_self)) same
      obtain ⟨mode, same⟩ := word_append_inj.1 same
      obtain ⟨later, known⟩ := ih (fun t mem => valid t (List.mem_cons_of_mem s mem))
        (fun t mem => valid' t (List.mem_cons_of_mem s' mem)) same
      simp only [specFields, List.cons.injEq, and_true, true_and] at fields
      refine ⟨?_, known⟩
      rw [List.map_cons, List.map_cons, later, ExceptionSpec.withoutOrigin,
        ExceptionSpec.withoutOrigin, fields.1, fields.2, mode]

/-- Specs with the same packages, names and modes are encoded by the same text. -/
theorem encodeSpecs_of_keys {specs specs' : List ExceptionSpec}
    (same : specs.map ExceptionSpec.key = specs'.map ExceptionSpec.key) :
    encodeSpecs specs = encodeSpecs specs' := by
  have seen (specs : List ExceptionSpec) : encodeSpecs specs =
      "".intercalate ((specs.map ExceptionSpec.key).map fun (package, name, mode) =>
        field "exception" ++ field package ++ field name ++ mode.word ++ "\n") := by
    rw [List.map_map]
    rfl
  rw [seen, seen, same]

end Fingerprint

/-- Inputs without NULs are encoded by the same bytes exactly if their specs have the same packages,
names and modes in the same order and their records are the same. -/
theorem encode_eq_iff_same_input {specs specs' : List ExceptionSpec}
    {records records' : List MethodRecord} (built : ∀ s ∈ specs, s.IsBuilt)
    (built' : ∀ s ∈ specs', s.IsBuilt) (separable : ∀ r ∈ records, r.IsSeparable)
    (separable' : ∀ r ∈ records', r.IsSeparable) :
    (Fingerprint.encode specs records).toUTF8 = (Fingerprint.encode specs' records').toUTF8 ↔
      specs.map ExceptionSpec.key = specs'.map ExceptionSpec.key ∧ records = records' := by
  constructor
  · intro same
    obtain ⟨known, rfl⟩ := Fingerprint.encode_inj (fun s mem => (built s mem).check)
      (fun s mem => (built' s mem).check) separable separable' (String.toByteArray_inj.1 same)
    have keys (specs : List ExceptionSpec) : specs.map ExceptionSpec.key =
        (specs.map ExceptionSpec.withoutOrigin).map ExceptionSpec.key := by
      rw [List.map_map]
      rfl
    exact ⟨by rw [keys, known, ← keys], rfl⟩
  · rintro ⟨keys, rfl⟩
    rw [Fingerprint.encode_eq, Fingerprint.encode_eq, Fingerprint.encodeSpecs_of_keys keys]

/-- A type that starts like the end of a record is told from that end, and an exception has the same
encoding whichever interface names it. -/
theorem encode_of_type_with_lineBreak :
    let ofOrders : ExceptionSpec := ⟨"NotFound", .standard, "billing", "Orders"⟩
    let ofInvoices : ExceptionSpec := ⟨"NotFound", .standard, "billing", "Invoices"⟩
    let bare : MethodRecord := .finding .billing .notFound "default"
    let typed : MethodRecord := { bare with
      parameters := ⟨[⟨"\nmethod", "billing"⟩], by decide +kernel, by decide +kernel⟩ }
    (ofOrders.IsBuilt ∧ ofInvoices.IsBuilt ∧ typed.IsSeparable ∧ bare.IsSeparable) ∧
      (Fingerprint.encode [ofOrders] [typed]).toUTF8 =
        (Fingerprint.encode [ofInvoices] [typed]).toUTF8 ∧
      (Fingerprint.encode [ofOrders] [typed]).toUTF8 ≠
        (Fingerprint.encode [ofOrders] [bare, bare]).toUTF8 := by
  intro ofOrders ofInvoices bare typed
  let marker : TypeMarker := ⟨["NotFound"], false⟩
  let marked (interface : String) : Declaration :=
    ⟨.interfaceType, "billing", none, interface, none, [], .type marker⟩
  have builtOrders : ofOrders.IsBuilt :=
    ⟨marked "Orders", ⟨"billing", "Orders"⟩, marker, [ofOrders], by decide +kernel,
      List.mem_singleton_self _⟩
  have builtInvoices : ofInvoices.IsBuilt :=
    ⟨marked "Invoices", ⟨"billing", "Invoices"⟩, marker, [ofInvoices], by decide +kernel,
      List.mem_singleton_self _⟩
  have separable : typed.IsSeparable := by decide +kernel
  have separable' : bare.IsSeparable := by decide +kernel
  refine ⟨⟨builtOrders, builtInvoices, separable, separable'⟩, ?_, ?_⟩
  · exact (encode_eq_iff_same_input (by simpa using builtOrders) (by simpa using builtInvoices)
      (by simpa using separable) (by simpa using separable)).2 ⟨rfl, rfl⟩
  · intro same
    have known := (encode_eq_iff_same_input (by simpa using builtOrders)
      (by simpa using builtOrders) (by simpa using separable) (by simpa using separable')).1 same
    exact absurd (congrArg List.length known.2) (by decide)

end ExceptionStubs
