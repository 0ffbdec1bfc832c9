/-!
# Conflicts

Why the output for an interface is skipped although its declarations are well formed.
-/

namespace ExceptionStubs

/-- Members that contradict each other, or a target that is taken. -/
inductive Conflict where
  | componentModelMismatch (interface method expected found : String)
  | constructorShape (interface method exception parameters : String)
  | duplicateTarget (interface target owner : String)
deriving DecidableEq, Repr

namespace Conflict

def interface : Conflict → String
  | .componentModelMismatch i _ _ _ | .constructorShape i _ _ _ | .duplicateTarget i _ _ => i

def message : Conflict → String
  | .componentModelMismatch interface method expected found =>
    s!"all marked methods of {interface} must share the same component model: " ++
      s!"'{expected}' on the first method, '{found}' on {method}"
  | .constructorShape interface method exception parameters =>
    s!"{interface}.{method} forwards ({parameters}) to {exception}, which only declares " ++
      "(String) and (String, Object[]) constructors; declare it with custom parameter order"
  | .duplicateTarget interface target owner =>
    s!"{target} is already generated by {owner}; {interface} cannot claim it again"

end Conflict

end ExceptionStubs
