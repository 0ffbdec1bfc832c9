import ExceptionStubs.Json.Token
/-!
# Reading JSON

A value is put together from its tokens with a stack of the containers that are open, so that the
depth of a text is not limited.
-/

namespace ExceptionStubs.Json

/-- An open container: the items of an array or the fields of an object, last first, an object with
the name of the field whose value comes next. -/
inductive Frame where
  | array (items : List Json)
  | object (fields : List (Option String × Json)) (name : Option String)

inductive Expected where
  | value
  | valueOrEnd
  | name
  | nameOrEnd
  | colon
  | separator
deriving DecidableEq

/-- The open containers with a value put into the innermost one, or the value if there is none. -/
def place (v : Json) : List Frame → Sum Json (List Frame)
  | [] => .inl v
  | .array items :: frames => .inr (.array (v :: items) :: frames)
  | .object fields name :: frames => .inr (.object ((name, v) :: fields) none :: frames)

def ofTokens? : Expected → List Frame → List Token → Option Json
  | _, _, [] => none
  | expected, frames, token :: tokens =>
    let next (v : Json) (frames : List Frame) : Option Json :=
      match place v frames with
      | .inl v => if tokens.isEmpty then some v else none
      | .inr frames => ofTokens? .separator frames tokens
    match expected, token, frames with
    | .value, .scalar v, frames | .valueOrEnd, .scalar v, frames => next v frames
    | .value, .beginArray, frames | .valueOrEnd, .beginArray, frames =>
      ofTokens? .valueOrEnd (.array [] :: frames) tokens
    | .value, .beginObject, frames | .valueOrEnd, .beginObject, frames =>
      ofTokens? .nameOrEnd (.object [] none :: frames) tokens
    | .valueOrEnd, .endArray, .array items :: frames
    | .separator, .endArray, .array items :: frames => next (.array items.reverse) frames
    | .nameOrEnd, .endObject, .object fields _ :: frames
    | .separator, .endObject, .object fields _ :: frames => next (.object fields.reverse) frames
    | .separator, .comma, .array items :: frames =>
      ofTokens? .value (.array items :: frames) tokens
    | .separator, .comma, .object fields name :: frames =>
      ofTokens? .name (.object fields name :: frames) tokens
    | .name, .scalar (.string name), .object fields _ :: frames
    | .nameOrEnd, .scalar (.string name), .object fields _ :: frames =>
      ofTokens? .colon (.object fields name :: frames) tokens
    | .colon, .colon, frames => ofTokens? .value frames tokens
    | _, _, _ => none

def ofText? (s : String) : Option Json := (Token.ofText? s.toList).bind (ofTokens? .value [])

end ExceptionStubs.Json
