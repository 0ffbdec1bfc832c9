import ExceptionStubs.Proofs.DateMask
import ExceptionStubs.Proofs.Group
import ExceptionStubs.Proofs.ThrownException
/-!
# Import lines

The imports of a class can be read off its text: they are the names on the import lines in front of
the class line. Neither the package nor the annotations in front of that line look like imports, and
the free texts of a class, which may, stand behind it.
-/

namespace ExceptionStubs

namespace ClassText

def importLead : List Char := "import ".toList

def classLead : List Char := "public class ".toList

def importOf? (line : String) : Option String :=
  if importLead.isPrefixOf line.toList then
    some (.ofList ((line.toList.drop importLead.length).takeWhile (· != ';')))
  else none

/-- The names on the import lines in front of the class line. -/
def imported (text : String) : List String :=
  ((Text.split '\n' text).takeWhile (!classLead.isPrefixOf ·.toList)).filterMap importOf?

theorem imported_line {line : String} (single : '\n' ∉ line.toList)
    (other : ¬classLead <+: line.toList) (rest : String) :
    imported (line ++ "\n" ++ rest) = (importOf? line).toList ++ imported rest := by
  rw [← List.isPrefixOf_iff_prefix] at other
  rw [imported, Text.split_append_newline, Text.split_of_notMem single, List.singleton_append,
    List.takeWhile_cons_of_pos (Bool.not_eq_true' _ ▸ Bool.eq_false_iff.2 other),
    List.filterMap_cons]
  cases importOf? line <;> rfl

theorem imported_classLine {line : String} (single : '\n' ∉ line.toList)
    (starts : classLead <+: line.toList) (rest : String) :
    imported (line ++ "\n" ++ rest) = [] := by
  rw [← List.isPrefixOf_iff_prefix] at starts
  rw [imported, Text.split_append_newline, Text.split_of_notMem single, List.singleton_append,
    List.takeWhile_cons_of_neg (by simpa using starts), List.filterMap_nil]

/-- A text with another start than a lead does not start with it. -/
theorem not_prefix_append {lead start : List Char} (h : ¬lead <+: start) (h' : ¬start <+: lead)
    (rest : List Char) : ¬lead <+: start ++ rest := fun starts =>
  (List.prefix_or_prefix_of_prefix starts (List.prefix_append start rest)).elim h h'

theorem importOf?_of_not_prefix {line : String} (h : ¬importLead <+: line.toList) :
    importOf? line = none := by
  rw [importOf?, if_neg]
  rwa [List.isPrefixOf_iff_prefix]

theorem importOf?_import {name : String} (h : ';' ∉ name.toList) :
    importOf? ("import " ++ name ++ ";") = some name := by
  have chars : ("import " ++ name ++ ";").toList = importLead ++ (name.toList ++ [';']) := by
    rw [String.append_assoc, String.toList_append, String.toList_append]
    rfl
  have starts : importLead.isPrefixOf (importLead ++ (name.toList ++ [';'])) = true :=
    List.isPrefixOf_iff_prefix.2 (List.prefix_append _ _)
  have kept : (name.toList ++ [';']).takeWhile (· != ';') = name.toList := by
    rw [List.takeWhile_append_of_pos]
    · simp
    · exact fun c mem => bne_iff_ne.2 fun mark => h (mark ▸ mem)
  rw [importOf?, chars, if_pos starts, List.drop_left, kept, String.ofList_toList]

/-- A line with another start than imports and classes is skipped. -/
theorem imported_otherLine {line : String} {start rest : List Char}
    (parts : line.toList = start ++ rest) (single : '\n' ∉ line.toList)
    (h : ¬importLead <+: start ∧ ¬start <+: importLead)
    (h' : ¬classLead <+: start ∧ ¬start <+: classLead) (text : String) :
    imported (line ++ "\n" ++ text) = imported text := by
  have noImport : ¬importLead <+: line.toList := parts ▸ not_prefix_append h.1 h.2 rest
  have noClass : ¬classLead <+: line.toList := parts ▸ not_prefix_append h'.1 h'.2 rest
  rw [imported_line single noClass, importOf?_of_not_prefix noImport]
  rfl

theorem imported_newline (text : String) : imported ("\n" ++ text) = imported text :=
  imported_line (by decide : '\n' ∉ "".toList) (by decide) text

theorem imported_packageLine {package : String} (valid : JavaName.isPackageName package = true)
    (text : String) : imported (packageLine package ++ text) = imported text := by
  unfold packageLine
  split
  · rw [String.empty_append]
  · have name : '\n' ∉ package.toList :=
      JavaName.notMem_of_isPackageName valid (by decide) (by decide)
    have parts : "package " ++ package ++ ";\n\n" ++ text =
        "package " ++ package ++ ";" ++ "\n" ++ ("\n" ++ text) := by
      simp [← String.toList_inj]
    have start : ("package " ++ package ++ ";").toList =
        "package ".toList ++ (package.toList ++ ";".toList) := by
      simp
    have single : '\n' ∉ ("package " ++ package ++ ";").toList := by
      simpa using name
    rw [parts, imported_otherLine start single (by decide) (by decide), imported_newline]

theorem imported_importLine {name : String} (valid : JavaName.isQualifiedName name = true)
    (text : String) :
    imported ("import " ++ name ++ ";" ++ "\n" ++ text) = name :: imported text := by
  have single : '\n' ∉ ("import " ++ name ++ ";").toList := by
    simpa using JavaName.notMem_of_isQualifiedName valid (by decide) (by decide)
  have unmarked : ';' ∉ name.toList :=
    JavaName.notMem_of_isQualifiedName valid (by decide) (by decide)
  have other : ¬classLead <+: ("import " ++ name ++ ";").toList := by
    rw [String.append_assoc, String.toList_append]
    exact not_prefix_append (by decide) (by decide) _
  rw [imported_line single other, importOf?_import unmarked]
  rfl

theorem imported_importLines {imports : List String}
    (valid : ∀ i ∈ imports, JavaName.isQualifiedName i = true) (text : String) :
    imported (importLines imports ++ text) = imports ++ imported text := by
  have lines (text : String) :
      imported ("".intercalate (imports.map fun i => "import " ++ i ++ ";\n") ++ text) =
        imports ++ imported text := by
    induction imports with
    | nil => rw [List.map_nil, String.intercalate_nil, String.empty_append, List.nil_append]
    | cons i imports ih =>
      have parts (rest : String) : "import " ++ i ++ ";\n" ++ rest ++ text =
          "import " ++ i ++ ";" ++ "\n" ++ (rest ++ text) := by
        simp [← String.toList_inj]
      rw [List.map_cons, Text.join_cons, parts, imported_importLine (valid i List.mem_cons_self),
        ih fun j mem => valid j (List.mem_cons_of_mem i mem), List.cons_append]
  unfold importLines
  rw [String.append_assoc, lines]
  split
  · rw [String.empty_append]
  · rw [imported_newline]

theorem imported_optionalLine {mark content : String} (single : '\n' ∉ (mark ++ content).toList)
    (marked : ['@'] <+: (mark ++ content).toList) (text : String) :
    imported (optionalLine mark content ++ text) = imported text := by
  unfold optionalLine
  split
  · rw [String.empty_append]
  · obtain ⟨rest, parts⟩ := marked
    exact imported_otherLine parts.symm single (by decide) (by decide) text

theorem imported_implementingClass {className interface : String} (methods : List String)
    (named : JavaName.isIdentifier className = true)
    (named' : JavaName.isIdentifier interface = true) :
    imported (implementingClass className interface methods) = [] := by
  have parts : implementingClass className interface methods =
      "public class " ++ className ++ " implements " ++ interface ++ " \x7b" ++ "\n" ++
        ("".intercalate methods ++ "\n\x7d\n") := by
    unfold implementingClass
    simp [← String.toList_inj]
  have single : '\n' ∉
      ("public class " ++ className ++ " implements " ++ interface ++ " \x7b").toList := by
    simp [JavaName.notMem_of_isIdentifier named (c := '\n') (by decide),
      JavaName.notMem_of_isIdentifier named' (c := '\n') (by decide)]
  rw [parts]
  refine imported_classLine single ?_ _
  simp only [String.toList_append, List.append_assoc]
  exact List.prefix_append _ _

end ClassText

namespace ValidatedGroup

variable {v : ValidatedGroup} {settings : ComponentSettings}

theorem isQualifiedName_of_mem_imports
    (valid : JavaName.isQualifiedName settings.annotationType = true) {i : String}
    (mem : i ∈ v.imports settings) : JavaName.isQualifiedName i = true := by
  obtain ⟨r, -, exception⟩ | annotated := mem_imports_iff.1 mem
  · obtain ⟨-, -, rfl⟩ := exceptionImport?_eq_some_iff.1 exception
    exact r.isQualifiedName_exceptionName
  · obtain ⟨-, -, rfl⟩ := componentImport?_eq_some_iff.1 annotated
    exact valid

/-- The imports of a group are read off the text of its class. -/
theorem imported_classText (v : ValidatedGroup) {settings : ComponentSettings}
    (valid : JavaName.isQualifiedName settings.annotationType = true)
    (header : Option MetadataHeader) :
    ClassText.imported (v.classText settings header) = v.imports settings := by
  have packaged : JavaName.isPackageName v.group.package = true := v.group.key.package.valid
  have generated (text : String) : ClassText.imported (ClassText.optionalLine ""
      (MetadataHeader.line header v.group.package) ++ text) = ClassText.imported text := by
    cases header with
    | none => rw [MetadataHeader.optionalLine_none, String.empty_append]
    | some h =>
      refine ClassText.imported_optionalLine ?_ ?_ text
      · rw [String.empty_append]
        exact h.newline_notMem_annotation packaged
      · have start : ['@'] <+: "@javax.annotation.processing.Generated(".toList := by decide
        rw [String.empty_append, MetadataHeader.line, Option.map_some, Option.getD_some,
          h.toList_annotation]
        exact start.trans (List.prefix_append _ _)
  have annotated (text : String) : ClassText.imported (ClassText.optionalLine "@"
      ((v.component? settings).getD "") ++ text) = ClassText.imported text := by
    have single : '\n' ∉ settings.simpleName.toList := fun mem =>
      JavaName.notMem_of_isQualifiedName valid (by decide) (by decide)
        ((JavaName.suffix_simpleName _).subset mem)
    refine ClassText.imported_optionalLine ?_ ?_ text
    · unfold component?
      split
      · simpa using single
      · decide
    · rw [String.toList_append]
      exact List.prefix_append _ _
  have classLine :=
    ClassText.imported_implementingClass (v.group.records.map (v.methodText settings))
      v.group.isIdentifier_implementationName v.group.key.interface.valid
  unfold classText
  simp only [String.append_assoc]
  rw [ClassText.imported_packageLine packaged,
    ClassText.imported_importLines fun i => isQualifiedName_of_mem_imports valid, generated,
    annotated]
  exact (congrArg _ classLine).trans (List.append_nil _)

end ValidatedGroup

end ExceptionStubs
