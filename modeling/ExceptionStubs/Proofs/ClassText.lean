import ExceptionStubs.ClassText.Implementation
/-!
# Class texts without templates

The text of every generated class, put together directly from its parts. Filling in a template
gives the same text and never fails, whatever the names, types and settings are.
-/

namespace ExceptionStubs

namespace ClassText

/-- The package line and the blank line behind it; nothing for the default package. -/
def packageLine (package : String) : String :=
  if package.isEmpty then "" else "package " ++ package ++ ";\n\n"

/-- A line with a mark in front of its content; nothing without content. -/
def optionalLine (mark content : String) : String :=
  if content.isEmpty then "" else mark ++ content ++ "\n"

def importLines (imports : List String) : String :=
  "".intercalate (imports.map fun i => "import " ++ i ++ ";\n") ++
    if imports.isEmpty then "" else "\n"

def standardClass (name : String) : String :=
  "public class " ++ name ++
    " extends RuntimeException \x7b\n\n    private final Object[] params;\n\n    public " ++ name ++
    "(String message) \x7b\n        super(message);\n        this.params = null;\n" ++
    "    \x7d\n\n    public " ++ name ++
    "(String message, Object[] params) \x7b\n        super(message);\n" ++
    "        this.params = params;\n    \x7d\n\n    public Object[] getParams() \x7b\n" ++
    "        return params;\n    \x7d\n\x7d\n"

def variadicClass (name : String) : String :=
  "public class " ++ name ++
    " extends RuntimeException \x7b\n\n    private final Object[] params;\n\n    public " ++ name ++
    "(Object... params) \x7b\n        this.params = params;\n    \x7d\n\n" ++
    "    public Object[] getParams() \x7b\n        return params;\n    \x7d\n\x7d\n"

def throwingMethod (returnType name declList thrown argList : String) : String :=
  "\n    @Override\n    public " ++ returnType ++ " " ++ name ++ "(" ++ declList ++
    ") \x7b\n        throw new " ++ thrown ++ "(" ++ argList ++ ");\n    \x7d\n"

def implementingClass (className interface : String) (methods : List String) : String :=
  "public class " ++ className ++ " implements " ++ interface ++ " \x7b\n" ++
    "".intercalate methods ++ "\n\x7d\n"

end ClassText

namespace Template

variable {context : TemplateContext}

theorem map_ok {α β : Type} (f : α → β) (a : α) :
    (Except.ok a : Except TemplateError α).map f = .ok (f a) := rfl

theorem render_done : done.render context = .ok "" := rfl

theorem render_text (s : String) (next : Template) :
    (text s next).render context = (next.render context).map (s ++ ·) := by
  rw [render]
  cases next.render context <;> rfl

theorem render_insert {path : List String} {s : String}
    (h : context.value? path = some (.text s)) (next : Template) :
    (insert path next).render context = (next.render context).map (s ++ ·) := by
  rw [render, h]
  cases next.render context <;> rfl

theorem render_whenFilled {name part : String} {v : TemplateValue} {body : Template}
    (hv : context.lookup name = some v) (hb : v.isFilled = true → body.render context = .ok part)
    (next : Template) :
    (whenFilled name body next).render context =
      (next.render context).map ((if v.isFilled then part else "") ++ ·) := by
  rw [render, hv]
  cases hf : v.isFilled with
  | true =>
    cases next.render context <;>
      simp [hf, hb hf, bind, Except.bind, Except.map, pure, Except.pure]
  | false =>
    cases next.render context <;> simp [hf, bind, Except.bind, Except.map, pure, Except.pure]

theorem mapM_render {α : Type} {item : String} {body : Template} {value : α → TemplateValue}
    {part : α → String} {xs : List α}
    (hb : ∀ x ∈ xs, body.render ((item, value x) :: context) = .ok (part x)) :
    (xs.map value).mapM (fun v => body.render ((item, v) :: context)) = .ok (xs.map part) := by
  induction xs with
  | nil => rfl
  | cons x xs ih =>
    have tail := ih fun y hy => hb y (List.mem_cons_of_mem _ hy)
    simp [List.mapM_cons, hb x List.mem_cons_self, tail, bind, Except.bind, pure, Except.pure]

theorem render_forEach {α : Type} {item list : String} {body : Template}
    {value : α → TemplateValue} {part : α → String} {xs : List α}
    (hl : context.lookup list = some (.list (xs.map value)))
    (hb : ∀ x ∈ xs, body.render ((item, value x) :: context) = .ok (part x)) (next : Template) :
    (forEach item list body next).render context =
      (next.render context).map ("".intercalate (xs.map part) ++ ·) := by
  rw [render, hl]
  cases next.render context <;>
    simp [TemplateValue.items?, mapM_render hb, bind, Except.bind, Except.map, pure, Except.pure]

end Template

namespace ClassTemplates

open Template

variable {context : TemplateContext}

theorem render_packageLine {package : String}
    (hp : context.lookup "package" = some (.text package)) (next : Template) :
    (packageLine next).render context =
      (next.render context).map (ClassText.packageLine package ++ ·) := by
  have hv : context.value? ["package"] = some (.text package) := hp
  have line : (text "package " <| insert ["package"] <| text ";\n\n" done).render context =
      .ok ("package " ++ package ++ ";\n\n") := by
    simp [render_text, render_insert hv, render_done, map_ok, String.append_assoc]
  rw [packageLine, render_whenFilled hp fun _ => line]
  cases he : package.isEmpty <;> simp [TemplateValue.isFilled, ClassText.packageLine, he]

theorem render_optionalLine {mark name content : String}
    (hc : context.lookup name = some (.text content)) (next : Template) :
    (optionalLine mark name next).render context =
      (next.render context).map (ClassText.optionalLine mark content ++ ·) := by
  have hv : context.value? [name] = some (.text content) := hc
  have line : (text mark <| insert [name] <| text "\n" done).render context =
      .ok (mark ++ content ++ "\n") := by
    simp [render_text, render_insert hv, render_done, map_ok, String.append_assoc]
  rw [optionalLine, render_whenFilled hc fun _ => line]
  cases he : content.isEmpty <;> simp [TemplateValue.isFilled, ClassText.optionalLine, he]

theorem render_standardException {package line name : String}
    (hp : context.lookup "package" = some (.text package))
    (hg : context.lookup "generated" = some (.text line))
    (hn : context.lookup "name" = some (.text name)) :
    standardException.render context =
      .ok (ClassText.packageLine package ++ ClassText.optionalLine "" line ++
        ClassText.standardClass name) := by
  have hv : context.value? ["name"] = some (.text name) := hn
  rw [standardException, render_packageLine hp, render_optionalLine hg, render_text,
    render_insert hv, render_text, render_insert hv, render_text, render_insert hv, render_text,
    render_done]
  unfold ClassText.standardClass
  simp only [map_ok, String.append_assoc, String.append_empty]

theorem render_variadicException {package name : String}
    (hp : context.lookup "package" = some (.text package))
    (hn : context.lookup "name" = some (.text name)) :
    variadicException.render context =
      .ok (ClassText.packageLine package ++ ClassText.variadicClass name) := by
  have hv : context.value? ["name"] = some (.text name) := hn
  rw [variadicException, render_packageLine hp, render_text, render_insert hv, render_text,
    render_insert hv, render_text, render_done]
  unfold ClassText.variadicClass
  simp only [map_ok, String.append_assoc, String.append_empty]

theorem render_importLines {imports : List String}
    (hi : context.lookup "imports" = some (.list (imports.map .text))) (next : Template) :
    (forEach "entry" "imports" (text "import " <| insert ["entry"] <| text ";\n" done) <|
      whenFilled "imports" (text "\n" done) next).render context =
      (next.render context).map (ClassText.importLines imports ++ ·) := by
  have line (i : String) : (text "import " <| insert ["entry"] <| text ";\n" done).render
      (("entry", .text i) :: context) = .ok ("import " ++ i ++ ";\n") := by
    have hv : TemplateContext.value? (("entry", .text i) :: context) ["entry"] =
        some (.text i) := by
      simp [TemplateContext.value?]
    simp [render_text, render_insert hv, render_done, map_ok, String.append_assoc]
  have blank : (text "\n" done).render context = .ok "\n" := by
    simp [render_text, render_done, map_ok]
  rw [render_forEach hi fun i _ => line i, render_whenFilled hi fun _ => blank]
  cases next.render context <;> cases imports <;>
    simp [TemplateValue.isFilled, ClassText.importLines, Except.map, String.append_assoc]

/-- The part of the template of implementations that is repeated for every method. -/
abbrev throwingMethod : Template :=
  text "\n    @Override\n    public " <| insert ["method", "return_type"] <| text " " <|
  insert ["method", "name"] <| text "(" <| insert ["method", "decl_list"] <|
  text ") \x7b\n        throw new " <| insert ["method", "exception"] <| text "(" <|
  insert ["method", "arg_list"] <| text ");\n    \x7d\n" done

theorem render_throwingMethod {returnType name declList thrown argList : String}
    (ht : context.value? ["method", "return_type"] = some (.text returnType))
    (hn : context.value? ["method", "name"] = some (.text name))
    (hd : context.value? ["method", "decl_list"] = some (.text declList))
    (he : context.value? ["method", "exception"] = some (.text thrown))
    (ha : context.value? ["method", "arg_list"] = some (.text argList)) :
    throwingMethod.render context =
      .ok (ClassText.throwingMethod returnType name declList thrown argList) := by
  rw [render_text, render_insert ht, render_text, render_insert hn, render_text, render_insert hd,
    render_text, render_insert he, render_text, render_insert ha, render_text, render_done]
  unfold ClassText.throwingMethod
  simp only [map_ok, String.append_assoc, String.append_empty]

/-- Trimming takes the line break off a class text, and the next one is put there again. -/
theorem trimEnd_append_newline {s : String} (h : ['\x7d', '\n'] <:+ s.toList) :
    Text.trimEnd s ++ "\n" = s := by
  obtain ⟨cs, hs⟩ := h
  have trimmed : Text.trimEndChars s.toList = cs ++ ['\x7d'] := by
    rw [← hs, show cs ++ ['\x7d', '\n'] = (cs ++ ['\x7d']) ++ ['\n'] by simp,
      Text.trimEndChars_append_of_isBlank (by decide),
      Text.trimEndChars_append_of_not_isBlank (by decide)]
  rw [← String.toList_inj, Text.trimEnd, String.toList_append, String.toList_ofList, trimmed, ← hs]
  simp

theorem render_eq_ok {name : String} {template : Template} {body : String}
    (hn : byName.lookup name = some template) (hr : template.render context = .ok body)
    (hb : ['\x7d', '\n'] <:+ body.toList) : render name context = .ok body := by
  simp [render, hn, hr, trimEnd_append_newline hb]

theorem render_implementation {α : Type} {package line component className interface : String}
    {imports : List String} {value : α → TemplateValue} {part : α → String} {xs : List α}
    (hp : context.lookup "package" = some (.text package))
    (hi : context.lookup "imports" = some (.list (imports.map .text)))
    (hg : context.lookup "generated" = some (.text line))
    (hc : context.lookup "component" = some (.text component))
    (hn : context.lookup "class_name" = some (.text className))
    (ht : context.lookup "interface_name" = some (.text interface))
    (hm : context.lookup "methods" = some (.list (xs.map value)))
    (hb : ∀ x ∈ xs, throwingMethod.render (("method", value x) :: context) = .ok (part x)) :
    implementation.render context =
      .ok (ClassText.packageLine package ++ ClassText.importLines imports ++
        ClassText.optionalLine "" line ++ ClassText.optionalLine "@" component ++
        ClassText.implementingClass className interface (xs.map part)) := by
  have hcv : context.value? ["class_name"] = some (.text className) := hn
  have hiv : context.value? ["interface_name"] = some (.text interface) := ht
  rw [implementation, render_packageLine hp, render_importLines hi, render_optionalLine hg,
    render_optionalLine hc, render_text, render_insert hcv, render_text, render_insert hiv,
    render_text, render_forEach hm hb, render_text, render_done]
  unfold ClassText.implementingClass
  simp only [map_ok, String.append_assoc, String.append_empty]

theorem lookup_variadicName : byName.lookup variadicName = some variadicException := by
  simp [byName, List.lookup_cons, standardName, variadicName]

theorem lookup_implementationName : byName.lookup implementationName = some implementation := by
  simp [byName, List.lookup_cons, standardName, variadicName, implementationName]

theorem suffix_toList_append {cs : List Char} {t : String} (h : cs <:+ t.toList) (s : String) :
    cs <:+ (s ++ t).toList := by
  rw [String.toList_append]
  exact h.trans (List.suffix_append _ _)

end ClassTemplates

namespace ExceptionSpec

def classText (s : ExceptionSpec) (targetPackage : String) (header : Option MetadataHeader) :
    String :=
  match s.mode with
  | .standard =>
    ClassText.packageLine targetPackage ++
      ClassText.optionalLine "" (MetadataHeader.line header s.package) ++
      ClassText.standardClass s.name
  | .variadic => ClassText.packageLine targetPackage ++ ClassText.variadicClass s.name

theorem closing_suffix_classText (s : ExceptionSpec) (targetPackage : String)
    (header : Option MetadataHeader) :
    ['\x7d', '\n'] <:+ (s.classText targetPackage header).toList := by
  unfold classText
  split
  · exact ClassTemplates.suffix_toList_append
      (ClassTemplates.suffix_toList_append (by decide +kernel) _) _
  · exact ClassTemplates.suffix_toList_append
      (ClassTemplates.suffix_toList_append (by decide +kernel) _) _

/-- The class of a spec can always be made. -/
theorem artifact_eq_ok (s : ExceptionSpec) (targetPackage : String)
    (header : Option MetadataHeader) :
    s.artifact targetPackage header =
      .ok ⟨targetPackage, s.name, s.classText targetPackage header⟩ := by
  obtain ⟨name, mode, package, origin⟩ := s
  have closed := closing_suffix_classText ⟨name, mode, package, origin⟩ targetPackage header
  suffices h : ClassTemplates.render (templateName ⟨name, mode, package, origin⟩)
      (context ⟨name, mode, package, origin⟩ targetPackage header) =
        .ok (classText ⟨name, mode, package, origin⟩ targetPackage header) by
    simp [artifact, h, bind, Except.bind, pure, Except.pure]
  cases mode with
  | standard =>
    refine ClassTemplates.render_eq_ok rfl
      (ClassTemplates.render_standardException ?_ ?_ ?_) closed
    · simp [context]
    · simp [context, List.lookup_cons]
    · simp [context, List.lookup_cons]
  | variadic =>
    refine ClassTemplates.render_eq_ok ClassTemplates.lookup_variadicName
      (ClassTemplates.render_variadicException ?_ ?_) closed
    · simp [context]
    · simp [context, List.lookup_cons]

end ExceptionSpec

namespace ValidatedGroup

def methodText (v : ValidatedGroup) (settings : ComponentSettings) (r : MethodRecord) : String :=
  let signature := Signature.ofParameters r.parameters.toList
  ClassText.throwingMethod r.returnType r.methodName.text signature.declList
    (v.thrownName settings r) signature.argList

def classText (v : ValidatedGroup) (settings : ComponentSettings)
    (header : Option MetadataHeader) : String :=
  ClassText.packageLine v.group.package ++ ClassText.importLines (v.imports settings) ++
    ClassText.optionalLine "" (MetadataHeader.line header v.group.package) ++
    ClassText.optionalLine "@" ((v.component? settings).getD "") ++
    ClassText.implementingClass v.group.implementationName v.group.interface
      (v.group.records.map (v.methodText settings))

theorem render_methodValue (v : ValidatedGroup) (settings : ComponentSettings) (r : MethodRecord)
    (context : TemplateContext) :
    ClassTemplates.throwingMethod.render (("method", v.methodValue settings r) :: context) =
      .ok (v.methodText settings r) := by
  apply ClassTemplates.render_throwingMethod
  all_goals simp [TemplateContext.value?, methodValue, List.lookup_cons]

theorem closing_suffix_classText (v : ValidatedGroup) (settings : ComponentSettings)
    (header : Option MetadataHeader) :
    ['\x7d', '\n'] <:+ (v.classText settings header).toList :=
  ClassTemplates.suffix_toList_append
    (ClassTemplates.suffix_toList_append (by decide +kernel) _) _

/-- The class of a group can always be made. -/
theorem artifact_eq_ok (v : ValidatedGroup) (settings : ComponentSettings)
    (header : Option MetadataHeader) :
    v.artifact settings header =
      .ok ⟨v.group.package, v.group.implementationName, v.classText settings header⟩ := by
  suffices h : ClassTemplates.render ClassTemplates.implementationName
      (v.context settings header) = .ok (v.classText settings header) by
    simp [artifact, h, bind, Except.bind, pure, Except.pure]
  refine ClassTemplates.render_eq_ok ClassTemplates.lookup_implementationName
    (ClassTemplates.render_implementation ?_ ?_ ?_ ?_ ?_ ?_ ?_
      fun r _ => v.render_methodValue settings r _) (v.closing_suffix_classText settings header)
  · simp [context]
  · simp [context, List.lookup_cons]
  · simp [context, List.lookup_cons]
  · simp [context, List.lookup_cons]
  · simp [context, List.lookup_cons]
  · simp [context, List.lookup_cons]
  · simp [context, List.lookup_cons]

end ValidatedGroup

/-- A text with a closing brace and a line break at its end has just this one line break there. -/
theorem ClassTemplates.exists_eq_append_closing {s : String} (h : ['\x7d', '\n'] <:+ s.toList) :
    ∃ front, s = front ++ "\x7d\n" := by
  obtain ⟨cs, ends⟩ := h
  refine ⟨String.ofList cs, ?_⟩
  rw [← String.toList_inj, ← ends, String.toList_append, String.toList_ofList]
  rfl

/-- What the templates give is what the parts of a class give side by side: for every group,
whatever its texts hold, its package, imports, header, annotation and class line and a method for
each record, with return type, name, parameters, exception and arguments as they are; and for every
spec its package, header and class. A class ends with its closing brace and one line break. -/
theorem class_is_its_parts :
    (∀ (v : ValidatedGroup) (settings : ComponentSettings) (header : Option MetadataHeader),
      ∃ body, v.artifact settings header =
          .ok ⟨v.group.package, v.group.implementationName, body⟩ ∧
        body = ClassText.packageLine v.group.package ++
          ClassText.importLines (v.imports settings) ++
          ClassText.optionalLine "" (MetadataHeader.line header v.group.package) ++
          ClassText.optionalLine "@" ((v.component? settings).getD "") ++
          ClassText.implementingClass v.group.implementationName v.group.interface
            (v.group.records.map fun r =>
              let signature := Signature.ofParameters r.parameters.toList
              ClassText.throwingMethod r.returnType r.methodName.text signature.declList
                (v.thrownName settings r) signature.argList) ∧
        ∃ front, body = front ++ "\x7d\n") ∧
    ∀ (s : ExceptionSpec) (targetPackage : String) (header : Option MetadataHeader),
      ∃ body, s.artifact targetPackage header = .ok ⟨targetPackage, s.name, body⟩ ∧
        body = ClassText.packageLine targetPackage ++
          (match s.mode with
            | .standard =>
              ClassText.optionalLine "" (MetadataHeader.line header s.package) ++
                ClassText.standardClass s.name
            | .variadic => ClassText.variadicClass s.name) ∧
        ∃ front, body = front ++ "\x7d\n" := by
  constructor
  · intro v settings header
    exact ⟨_, v.artifact_eq_ok settings header, rfl,
      ClassTemplates.exists_eq_append_closing (v.closing_suffix_classText settings header)⟩
  · intro s targetPackage header
    refine ⟨_, s.artifact_eq_ok targetPackage header, ?_,
      ClassTemplates.exists_eq_append_closing (s.closing_suffix_classText targetPackage header)⟩
    unfold ExceptionSpec.classText
    cases s.mode with
    | standard => exact String.append_assoc
    | variadic => rfl

end ExceptionStubs
