import ExceptionStubs.ClassText.Template
import ExceptionStubs.Text.Blank
/-!
# The templates of generated classes

Three templates, found by name: an exception with a message, one with parameters alone, and the
implementation of an interface. A class text ends with exactly one line break.
-/

namespace ExceptionStubs

inductive RenderError where
  | unknownTemplate (name : String)
  | failed (name : String) (cause : TemplateError)
deriving DecidableEq, Repr

namespace RenderError

def message : RenderError → String
  | .unknownTemplate name => s!"failed to render template '{name}': Template '{name}' not found"
  | .failed name _ => s!"failed to render template '{name}': Failed to render '{name}'"

end RenderError

namespace ClassTemplates

open Template

/-- The package line with a blank line behind it, unless the package is the default one. -/
def packageLine (next : Template) : Template :=
  whenFilled "package" (text "package " <| insert ["package"] <| text ";\n\n" done) next

/-- A line that holds a variable, unless the variable is unfilled. -/
def optionalLine (mark name : String) (next : Template) : Template :=
  whenFilled name (text mark <| insert [name] <| text "\n" done) next

def standardException : Template :=
  packageLine <| optionalLine "" "generated" <|
  text "public class " <| insert ["name"] <|
  text " extends RuntimeException \x7b\n\n    private final Object[] params;\n\n    public " <|
  insert ["name"] <|
  text ("(String message) \x7b\n        super(message);\n        this.params = null;\n" ++
    "    \x7d\n\n    public ") <|
  insert ["name"] <|
  text ("(String message, Object[] params) \x7b\n        super(message);\n" ++
    "        this.params = params;\n    \x7d\n\n    public Object[] getParams() \x7b\n" ++
    "        return params;\n    \x7d\n\x7d\n") done

def variadicException : Template :=
  packageLine <|
  text "public class " <| insert ["name"] <|
  text " extends RuntimeException \x7b\n\n    private final Object[] params;\n\n    public " <|
  insert ["name"] <|
  text ("(Object... params) \x7b\n        this.params = params;\n    \x7d\n\n" ++
    "    public Object[] getParams() \x7b\n        return params;\n    \x7d\n\x7d\n") done

def implementation : Template :=
  packageLine <|
  forEach "entry" "imports" (text "import " <| insert ["entry"] <| text ";\n" done) <|
  whenFilled "imports" (text "\n" done) <|
  optionalLine "" "generated" <| optionalLine "@" "component" <|
  text "public class " <| insert ["class_name"] <| text " implements " <|
  insert ["interface_name"] <| text " \x7b\n" <|
  forEach "method" "methods"
    (text "\n    @Override\n    public " <| insert ["method", "return_type"] <| text " " <|
      insert ["method", "name"] <| text "(" <| insert ["method", "decl_list"] <|
      text ") \x7b\n        throw new " <| insert ["method", "exception"] <| text "(" <|
      insert ["method", "arg_list"] <| text ");\n    \x7d\n" done) <|
  text "\n\x7d\n" done

def standardName : String := "exception_standard.java"

def variadicName : String := "exception_variadic.java"

def implementationName : String := "implementation.java"

def byName : List (String × Template) :=
  [(standardName, standardException), (variadicName, variadicException),
    (implementationName, implementation)]

/-- A filled-in template without the blanks at its end and with one line break instead. -/
def render (name : String) (context : TemplateContext) : Except RenderError String :=
  match byName.lookup name with
  | none => .error (.unknownTemplate name)
  | some template =>
    match template.render context with
    | .error cause => .error (.failed name cause)
    | .ok body => .ok (Text.trimEnd body ++ "\n")

end ClassTemplates

end ExceptionStubs
