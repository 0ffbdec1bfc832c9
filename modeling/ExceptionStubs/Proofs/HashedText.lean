import ExceptionStubs.Proofs.DatelessText
import ExceptionStubs.Proofs.ThrownException
import ExceptionStubs.Proofs.OptionalHeader
/-!
# What the hash of an implementation tells

A class is hashed with its dates masked, and the date of its header is not the only text that looks
like one: return types, parameter types and the configured annotation are copied into the class as
they are. Where none of them opens a date, the masked text of the class tells the class; otherwise
classes with different types may have one hash.
-/

namespace ExceptionStubs

open DateMask

namespace ClassText

theorem sealed_append {s t : String} (h : Sealed s.toList) (h' : Sealed t.toList) :
    Sealed (s ++ t).toList := by
  rw [String.toList_append]
  exact h.append h'

/-- A text without dates is sealed between closed ones. -/
theorem sealed_between {before text after : String} {c : Char} (front : Sealed before.toList)
    (h : Dateless text.toList) (start : after.toList.head? = some c) (other : c ∉ opening)
    (back : Sealed after.toList) : Sealed (before ++ text ++ after).toList := by
  rw [String.toList_append, String.toList_append, List.append_assoc]
  exact front.append (h.sealed_append start other back)

theorem sealed_join {texts : List String} (h : ∀ text ∈ texts, Sealed text.toList) :
    Sealed ("".intercalate texts).toList := by
  induction texts with
  | nil => exact sealed_of_notMem (by simp)
  | cons text texts ih =>
    rw [Text.join_cons, String.toList_append]
    exact (h text List.mem_cons_self).append (ih fun t mem => h t (List.mem_cons_of_mem text mem))

theorem dateless_of_isPackageName {package : String}
    (valid : JavaName.isPackageName package = true) : Dateless package.toList := by
  have unspaced : ' ' ∉ package.toList :=
    JavaName.notMem_of_isPackageName valid (by decide) (by decide)
  exact dateless_of_notMem (by decide) unspaced

theorem dateless_of_isQualifiedName {name : String} (valid : JavaName.isQualifiedName name = true) :
    Dateless name.toList :=
  dateless_of_isPackageName (JavaName.isPackageName_of_isQualifiedName valid)

theorem sealed_packageLine {package : String} (valid : JavaName.isPackageName package = true) :
    Sealed (packageLine package).toList := by
  unfold packageLine
  split
  · exact sealed_of_notMem (by decide)
  · exact sealed_between (sealed_of_notMem (by decide)) (dateless_of_isPackageName valid) rfl
      (by decide) (sealed_of_notMem (by decide))

theorem sealed_importLines {imports : List String} (h : ∀ i ∈ imports, Dateless i.toList) :
    Sealed (importLines imports).toList := by
  rw [importLines, String.toList_append]
  refine Sealed.append (sealed_join ?_) ?_
  · intro line mem
    obtain ⟨i, known, rfl⟩ := List.mem_map.1 mem
    exact sealed_between (sealed_of_notMem (by decide)) (h i known) rfl (by decide)
      (sealed_of_notMem (by decide))
  · split
    · exact sealed_of_notMem (by decide)
    · exact sealed_of_notMem (by decide)

theorem sealed_optionalLine {content : String} (h : Dateless content.toList) :
    Sealed (optionalLine "@" content).toList := by
  unfold optionalLine
  split
  · exact sealed_of_notMem (by decide)
  · exact sealed_between (sealed_of_notMem (by decide)) h rfl (by decide)
      (sealed_of_notMem (by decide))

/-- A declaration opens a date only if its type does. -/
theorem dateless_declaration {typeName name : String} (h : Dateless typeName.toList)
    (named : JavaName.isIdentifier name = true) : Dateless (typeName ++ " " ++ name).toList := by
  have unquoted : '"' ∉ name.toList := JavaName.notMem_of_isIdentifier named (by decide)
  rw [String.append_assoc, String.toList_append]
  exact h.append_unquoted (by simpa using unquoted)

/-- The commas and the bracket of a list seal its parts. -/
theorem sealed_list {parts : List String} (h : ∀ part ∈ parts, Dateless part.toList) :
    Sealed (",".intercalate parts ++ ")").toList := by
  have bracket : Sealed ")".toList := sealed_of_notMem (by decide)
  induction parts with
  | nil => exact bracket
  | cons part parts ih =>
    have head := h part List.mem_cons_self
    cases parts with
    | nil =>
      rw [String.intercalate_singleton, String.toList_append]
      exact head.sealed_append rfl (by decide) bracket
    | cons next parts =>
      have tail := ih fun p mem => h p (List.mem_cons_of_mem part mem)
      have comma : Sealed ",".toList := sealed_of_notMem (by decide)
      rw [String.intercalate_cons_cons, String.append_assoc, String.append_assoc,
        String.toList_append, String.toList_append]
      exact head.sealed_append rfl (by decide) (comma.append tail)

theorem sealed_throwingMethod {returnType name thrown : String} {decls args : List String}
    (type : Dateless returnType.toList) (named : JavaName.isIdentifier name = true)
    (declared : ∀ d ∈ decls, Dateless d.toList) (exception : Dateless thrown.toList)
    (forwarded : ∀ a ∈ args, Dateless a.toList) :
    Sealed (throwingMethod returnType name (",".intercalate decls) thrown
      (",".intercalate args)).toList := by
  have start : Sealed "\n    @Override\n    public ".toList :=
    sealed_of_tails (by decide +kernel) (by decide +kernel)
  have body : Sealed " \x7b\n        throw new ".toList := sealed_of_notMem (by decide)
  have ending : Sealed ";\n    \x7d\n".toList := sealed_of_notMem (by decide)
  have bracket : Sealed "(".toList := sealed_of_notMem (by decide)
  have title :
      Sealed ("\n    @Override\n    public " ++ (returnType ++ " " ++ name) ++ "(").toList :=
    sealed_between start (dateless_declaration type named) rfl (by decide) bracket
  have call : Sealed (" \x7b\n        throw new " ++ thrown ++ "(").toList :=
    sealed_between body exception rfl (by decide) bracket
  have parts : throwingMethod returnType name (",".intercalate decls) thrown
      (",".intercalate args) =
      "\n    @Override\n    public " ++ (returnType ++ " " ++ name) ++ "(" ++
        (",".intercalate decls ++ ")") ++ (" \x7b\n        throw new " ++ thrown ++ "(") ++
        (",".intercalate args ++ ")") ++ ";\n    \x7d\n" := by
    unfold throwingMethod
    simp [← String.toList_inj]
  rw [parts]
  exact sealed_append (sealed_append (sealed_append (sealed_append title (sealed_list declared))
    call) (sealed_list forwarded)) ending

/-- The class line and the methods of a class open no date if the methods do not. -/
theorem dateless_implementingClass {className interface : String} {methods : List String}
    (named : JavaName.isIdentifier className = true)
    (named' : JavaName.isIdentifier interface = true)
    (h : ∀ method ∈ methods, Sealed method.toList) :
    Dateless (implementingClass className interface methods).toList := by
  have unquoted : '"' ∉ (className ++ " implements " ++ interface ++ " ").toList := by
    simp [JavaName.notMem_of_isIdentifier named (c := '"') (by decide),
      JavaName.notMem_of_isIdentifier named' (c := '"') (by decide)]
  have title : Sealed ("public class " ++ (className ++ " implements " ++ interface ++ " ") ++
      "\x7b\n").toList :=
    sealed_between (sealed_of_tails (by decide +kernel) (by decide +kernel))
      (dateless_of_notMem (by decide) unquoted) rfl (by decide) (sealed_of_notMem (by decide))
  have ending : Sealed "\n\x7d\n".toList := sealed_of_notMem (by decide)
  have parts : implementingClass className interface methods =
      "public class " ++ (className ++ " implements " ++ interface ++ " ") ++ "\x7b\n" ++
        "".intercalate methods ++ "\n\x7d\n" := by
    unfold implementingClass
    simp [← String.toList_inj]
  rw [parts]
  exact (sealed_append (sealed_append title (sealed_join h)) ending).dateless

end ClassText

/-- Nothing that a class copies from its group and the settings opens a date. -/
structure ValidatedGroup.IsDateless (v : ValidatedGroup) (settings : ComponentSettings) : Prop where
  annotation : settings.appliesTo v.componentModel = true → Dateless settings.annotationType.toList
  returnTypes : ∀ r ∈ v.group.records, Dateless r.returnType.toList
  parameterTypes : ∀ r ∈ v.group.records, ∀ p ∈ r.parameters.toList, Dateless p.typeName.toList

namespace ValidatedGroup

variable {v : ValidatedGroup} {settings : ComponentSettings}

theorem IsDateless.sealed_methodText (h : v.IsDateless settings) {r : MethodRecord}
    (mem : r ∈ v.group.records) : Sealed (v.methodText settings r).toList := by
  have named {p : Parameter} (here : p ∈ r.parameters.toList) :
      JavaName.isIdentifier p.name = true := by
    have wellFormed := r.parameters.wellFormed p here
    rw [Parameter.isWellFormed, Bool.and_eq_true] at wellFormed
    exact wellFormed.2
  refine ClassText.sealed_throwingMethod (h.returnTypes r mem) r.methodName.valid ?_
    (ClassText.dateless_of_isQualifiedName (v.isQualifiedName_thrownName settings r)) ?_
  · intro declaration known
    obtain ⟨p, here, rfl⟩ := List.mem_map.1 known
    exact ClassText.dateless_declaration (h.parameterTypes r mem p here) (named here)
  · intro name known
    obtain ⟨p, here, rfl⟩ := List.mem_map.1 known
    exact dateless_of_notMem (by decide : ' ' ∈ opening)
      (JavaName.notMem_of_isIdentifier (named here) (by decide))

def preamble (v : ValidatedGroup) (settings : ComponentSettings) : String :=
  ClassText.packageLine v.group.package ++ ClassText.importLines (v.imports settings)

theorem IsDateless.sealed_preamble (h : v.IsDateless settings) :
    Sealed (v.preamble settings).toList := by
  refine ClassText.sealed_append (ClassText.sealed_packageLine v.group.key.package.valid)
    (ClassText.sealed_importLines fun i mem => ?_)
  obtain ⟨r, -, imported⟩ | annotated := mem_imports_iff.1 mem
  · obtain ⟨-, -, rfl⟩ := exceptionImport?_eq_some_iff.1 imported
    exact ClassText.dateless_of_isQualifiedName r.isQualifiedName_exceptionName
  · obtain ⟨applies, -, rfl⟩ := componentImport?_eq_some_iff.1 annotated
    exact h.annotation applies

theorem IsDateless.dateless_declaration (h : v.IsDateless settings) :
    Dateless (v.declaration settings).toList := by
  have annotation : Dateless ((v.component? settings).getD "").toList := by
    unfold component?
    split
    · next applies =>
      exact (h.annotation applies).part (JavaName.suffix_simpleName _).isInfix
    · exact dateless_nil
  rw [declaration, String.toList_append]
  refine ClassText.sealed_optionalLine annotation _ (ClassText.dateless_implementingClass
    v.group.isIdentifier_implementationName v.group.key.interface.valid fun method known => ?_)
  obtain ⟨r, mem, rfl⟩ := List.mem_map.1 known
  exact h.sealed_methodText mem

def behindDate (v : ValidatedGroup) (settings : ComponentSettings) : String :=
  ", comments = \"version " ++ programVersion ++ "; package " ++ (v.group.package ++ "\")") ++
    "\n" ++ v.declaration settings

theorem IsDateless.dateless_behindDate (h : v.IsDateless settings) :
    Dateless (v.behindDate settings).toList := by
  have unspaced : ' ' ∉ (v.group.package ++ "\")").toList := by
    rw [String.toList_append, List.mem_append, not_or]
    exact ⟨JavaName.notMem_of_isPackageName v.group.key.package.valid (by decide) (by decide),
      by decide⟩
  have quiet : Dateless (v.group.package ++ "\")").toList := dateless_of_notMem (by decide) unspaced
  have version : 'd' ∉ (", comments = \"version " ++ programVersion ++ "; package ").toList := by
    decide +kernel
  have comments := ClassText.sealed_between (sealed_of_notMem version) quiet
    (rfl : "\n".toList.head? = some '\n') (by decide) (sealed_of_notMem (by decide))
  unfold behindDate
  rw [String.toList_append]
  exact comments _ h.dateless_declaration

/-- A class without a header is its preamble and its declaration. -/
theorem classText_none (v : ValidatedGroup) (settings : ComponentSettings) :
    v.classText settings none = v.preamble settings ++ v.declaration settings := by
  unfold classText declaration preamble
  rw [MetadataHeader.optionalLine_none, String.append_empty, String.append_assoc]

/-- A class with a header has the date of that header between two texts that do not depend on it. -/
theorem toList_classText_some (v : ValidatedGroup) (settings : ComponentSettings)
    (header : MetadataHeader) : (v.classText settings (some header)).toList =
      (v.preamble settings ++ "@javax.annotation.processing.Generated(").toList ++
        dated header.timestamp.toList (v.behindDate settings).toList := by
  have parts : v.classText settings (some header) =
      v.preamble settings ++ (header.annotation v.group.package ++ "\n") ++
        v.declaration settings := by
    rw [← MetadataHeader.optionalLine_some]
    exact String.append_assoc
  unfold behindDate
  rw [parts]
  simp only [String.toList_append, MetadataHeader.toList_annotation, dated]
  -- The literals have to be out of the way before the parts are regrouped.
  generalize "@javax.annotation.processing.Generated(".toList = start
  generalize ", comments = \"version ".toList = version
  generalize "; package ".toList = package
  simp

end ValidatedGroup

/-- A class into which nothing that opens a date was copied is told by its masked text from the
classes of all groups with the same header and settings, whatever was copied into these. -/
theorem masked_text_determines_text {v : ValidatedGroup} {settings : ComponentSettings}
    (dateless : v.IsDateless settings) (v' : ValidatedGroup) (header : Option MetadataHeader) :
    ∃ a a', v.artifact settings header = .ok a ∧ v'.artifact settings header = .ok a' ∧
      (mask a.body = mask a'.body → a.body = a'.body) := by
  refine ⟨_, _, v.artifact_eq_ok settings header, v'.artifact_eq_ok settings header, fun same => ?_⟩
  have masked := String.ofList_injective same
  cases header with
  | none =>
    have whole : Dateless (v.classText settings none).toList := by
      rw [v.classText_none, String.toList_append]
      exact dateless.sealed_preamble _ dateless.dateless_declaration
    rw [maskChars_of_dateless whole] at masked
    rw [masked] at whole
    rw [← String.toList_inj, masked, maskChars_of_dateless_maskChars whole]
  | some header =>
    have unquoted : '"' ∉ header.timestamp.toList :=
      Timestamp.notMem_render (by decide) (by decide) _
    have front : Dateless
        (v.preamble settings ++ "@javax.annotation.processing.Generated(").toList := by
      have unspaced : ' ' ∉ "@javax.annotation.processing.Generated(".toList := by decide +kernel
      rw [String.toList_append]
      exact dateless.sealed_preamble _ (dateless_of_notMem (by decide) unspaced)
    rw [v.toList_classText_some, v'.toList_classText_some] at masked
    obtain ⟨before, behind⟩ :=
      dated_inj_of_maskChars unquoted front dateless.dateless_behindDate masked
    rw [← String.toList_inj, v.toList_classText_some, v'.toList_classText_some, before, behind]

def MethodRecord.returning (returnType : String) : MethodRecord :=
  { finding .unnamed .notFound "default" with returnType := returnType }

/-- A class without dates is told from one that is masked. -/
theorem masked_text_of_plain_type :
    let plain : ValidatedGroup := ⟨.single (.returning "Order"), []⟩
    let dated : ValidatedGroup := ⟨.single (.returning "@Since(date = \"2024-01-01\") Order"), []⟩
    plain.IsDateless default ∧
      ∃ a a', plain.artifact default none = .ok a ∧ dated.artifact default none = .ok a' ∧
        mask a.body ≠ mask a'.body := by
  intro plain dated
  have dateless : plain.IsDateless default :=
    ⟨by decide +kernel, by decide +kernel, by decide +kernel⟩
  obtain ⟨a, a', made, made', told⟩ := masked_text_determines_text dateless dated none
  refine ⟨dateless, a, a', made, made', fun same => ?_⟩
  have text := told same
  rw [ValidatedGroup.artifact_eq_ok, Except.ok.injEq] at made made'
  rw [← made, ← made'] at text
  exact absurd text (by decide +kernel)

/-- Methods whose return types have different dates are in classes with one masked text. -/
theorem masked_text_of_dated_types :
    let first := Group.single (.returning "@Since(date = \"2024-01-01\") Order")
    let second := Group.single (.returning "@Since(date = \"2024-02-02\") Order")
    ∃ v v' a a', first.validate ⟨true, none⟩ = .ok v ∧ second.validate ⟨true, none⟩ = .ok v' ∧
      v.artifact default none = .ok a ∧ v'.artifact default none = .ok a' ∧
      mask a.body = mask a'.body ∧ a.body ≠ a'.body := by
  intro first second
  let before :=
    "public class OrdersImpl implements Orders \x7b\n\n    @Override\n    public @Since("
  let after := ") Order find() \x7b\n        throw new NotFound();\n    \x7d\n\n\x7d\n"
  have text : ValidatedGroup.classText ⟨first, []⟩ default none =
      before ++ ("date = \"" ++ "2024-01-01" ++ "\"") ++ after := by decide +kernel
  have text' : ValidatedGroup.classText ⟨second, []⟩ default none =
      before ++ ("date = \"" ++ "2024-02-02" ++ "\"") ++ after := by decide +kernel
  have quiet : Dateless before.toList := by decide +kernel
  refine ⟨⟨first, []⟩, ⟨second, []⟩, _, _, rfl, rfl, ValidatedGroup.artifact_eq_ok ..,
    ValidatedGroup.artifact_eq_ok .., ?_, by decide +kernel⟩
  rw [text, text']
  exact mask_date quiet (by decide) (by decide) after

end ExceptionStubs
