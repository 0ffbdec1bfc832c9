/-!
# Templates

A template is a row of pieces: literal text, the value of a variable, a part that appears only when
a variable holds something, and a part that is repeated for every item of a list. Inserted values
appear as they are; nothing in them is read as a template again.
-/

namespace ExceptionStubs

inductive TemplateValue where
  | text (s : String)
  | list (items : List TemplateValue)
  | record (fields : List (String × TemplateValue))

inductive TemplateError where
  | missing (path : List String)
  | notRepeatable (name : String)
deriving DecidableEq, Repr

/-- The variables of a template; the first binding of a name counts. -/
abbrev TemplateContext := List (String × TemplateValue)

namespace TemplateValue

/-- The value holds something: characters, items or fields. -/
def isFilled : TemplateValue → Bool
  | text s => !s.isEmpty
  | list items => !items.isEmpty
  | record fields => !fields.isEmpty

mutual

/-- A value as it is inserted: text as it is, the items of a list between brackets. -/
def display : TemplateValue → String
  | text s => s
  | list items => "[" ++ ", ".intercalate (displayAll items) ++ "]"
  | record _ => "[object]"

def displayAll : List TemplateValue → List String
  | [] => []
  | v :: vs => v.display :: displayAll vs

end

/-- The values that a part is repeated for: items of a list or characters of a text. -/
def items? : TemplateValue → Option (List TemplateValue)
  | text s => some (s.toList.map fun c => text (String.singleton c))
  | list items => some items
  | record _ => none

end TemplateValue

namespace TemplateContext

/-- The value behind a variable and the names of fields within it. -/
def value? (context : TemplateContext) : List String → Option TemplateValue
  | [] => none
  | [name] => context.lookup name
  | name :: field :: path =>
    match context.lookup name with
    | some (.record fields) => value? fields (field :: path)
    | _ => none

end TemplateContext

/-- A template, piece by piece; `next` is what follows a piece. -/
inductive Template where
  | done
  | text (s : String) (next : Template)
  | insert (path : List String) (next : Template)
  | whenFilled (name : String) (body next : Template)
  | forEach (item list : String) (body next : Template)

namespace Template

/-- The text of a template under a context. A variable that is not there counts as unfilled where a
part depends on it and is an error everywhere else. -/
def render : Template → TemplateContext → Except TemplateError String
  | done, _ => .ok ""
  | text s next, context => do return s ++ (← next.render context)
  | insert path next, context => do
    match context.value? path with
    | none => throw (.missing path)
    | some v => return v.display ++ (← next.render context)
  | whenFilled name body next, context => do
    let part ←
      if ((context.lookup name).map TemplateValue.isFilled).getD false then body.render context
      else pure ""
    return part ++ (← next.render context)
  | forEach item list body next, context => do
    match context.lookup list with
    | none => throw (.missing [list])
    | some v =>
      match v.items? with
      | none => throw (.notRepeatable list)
      | some items =>
        let parts ← items.mapM fun v => body.render ((item, v) :: context)
        return "".intercalate parts ++ (← next.render context)

end Template

end ExceptionStubs
