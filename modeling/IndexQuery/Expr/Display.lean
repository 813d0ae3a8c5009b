import IndexQuery.Expr.Basic

set_option autoImplicit false

/-!
The text of an expression in messages.
-/

namespace IndexQuery

open Number (Binary Binary32 Format)

def boostSuffix (boost : Binary32) : String :=
  if boost.same (.one .single) then "" else "^" ++ boost.text

def FieldRef.display (r : FieldRef) : String := "@" ++ r.name ++ boostSuffix r.boost

namespace Expr

mutual

def display : Expr → String
  | constant value => value.display
  | captured capture => "$" ++ capture.name
  | source name => name
  | member target name _ => display target ++ "." ++ name
  | call target method args => display target ++ "." ++ method.name ++ "(" ++ displayArgs args ++ ")"
  | invoke method args => method.name ++ "(" ++ displayArgs args ++ ")"
  | unary op operand => op.sign ++ display operand
  | binary op left right => "(" ++ display left ++ " " ++ op.symbol ++ " " ++ display right ++ ")"
  | conditional test ifTrue ifFalse =>
    "(" ++ display test ++ " ? " ++ display ifTrue ++ " : " ++ display ifFalse ++ ")"
  | convert operand kind => "(" ++ kind.name ++ ")" ++ display operand
  | field ref => ref.display
  | predicate test => "pred(" ++ displayPredicate test ++ ")"
  | interval test => "range(" ++ displayInterval test ++ ")"
  | relevance => "score()"
  | anyField => "@*"
  | boosted target boost => display target ++ "^" ++ boost.text

def displayArgs : List Expr → String
  | [] => ""
  | [arg] => display arg
  | arg :: next :: rest => display arg ++ ", " ++ displayArgs (next :: rest)

def displayPredicate : Predicate Expr → String
  | ⟨ref, pattern, occur, matching, boost, _, _⟩ =>
    occur.sign ++ ref.name ++ " " ++ matching.symbol ++ " " ++ display pattern ++ boostSuffix boost

def displayInterval : Interval Expr → String
  | ⟨ref, lower, lowerKind, upper, upperKind, occur, _⟩ =>
    occur.sign ++ ref.name ++ " in " ++ (if lowerKind = .greaterOrEqual then "[" else "(") ++
      displayBound lower ++ ", " ++ displayBound upper ++ (if upperKind = .lessOrEqual then "]" else ")")

def displayBound : Option Expr → String
  | some bound => display bound
  | none => "*"

end

end Expr

end IndexQuery
