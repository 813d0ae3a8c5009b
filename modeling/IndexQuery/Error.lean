set_option autoImplicit false

/-!
Everything that can go wrong, one constructor per cause, and the message for each.
-/

namespace IndexQuery

inductive Error where
  /-- An operator that no index query expresses was applied to a field. -/
  | unsupportedOperator (operator : String)
  | noFieldReference (expression : String)
  | boostTarget (target : String)
  | ambiguousNullGuard (expression : String)
  | unsupportedExpression (expression : String)
  | evaluation (reason : String)
  | unsupportedResultOperator (operator : String)
  | disposed
  | alreadyReleased
  | noResults
  | moreThanOneResult
  | invalidArgument (reason : String)
  | invalidSettings (reason : String)
  | index (reason : String)
  | internal (reason : String)
  /-- Text that is not JSON, or not of the expected shape. -/
  | malformedJson
  /-- A failure reported by a collaborator, in its own words. -/
  | other (message : String)
deriving DecidableEq

namespace Error

def message : Error → String
  | unsupportedOperator operator => "unsupported operator `" ++ operator ++ "` applied to a field reference"
  | noFieldReference expression => "no field reference found in `" ++ expression ++ "`"
  | boostTarget target => "boost cannot be applied to `" ++ target ++ "`"
  | ambiguousNullGuard expression => "ambiguous null guard `" ++ expression ++ "`"
  | unsupportedExpression expression => "unsupported expression `" ++ expression ++ "`"
  | evaluation reason => "evaluation error: " ++ reason
  | unsupportedResultOperator operator => "unsupported result operator `" ++ operator ++ "`"
  | disposed => "context has been disposed"
  | alreadyReleased => "snapshot handle already released"
  | noResults => "sequence contains no elements"
  | moreThanOneResult => "sequence contains more than one element"
  | invalidArgument reason => "invalid argument: " ++ reason
  | invalidSettings reason => "invalid config: " ++ reason
  | index reason => "index error: " ++ reason
  | internal reason => "internal error: " ++ reason
  | malformedJson => "malformed JSON"
  | other message => message

def isCompileError : Error → Bool
  | unsupportedOperator _ | noFieldReference _ | boostTarget _ | ambiguousNullGuard _
  | unsupportedExpression _ | evaluation _ => true
  | _ => false

end Error

end IndexQuery
