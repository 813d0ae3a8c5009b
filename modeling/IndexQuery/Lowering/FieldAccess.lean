import IndexQuery.Expr.Evaluation
import IndexQuery.Expr.Traversal

set_option autoImplicit false

/-!
Recognizing the fields of the document, and removing what does not change a match: case folding and
conversions on a field, and constants that are neutral in a logical operation.
-/

namespace IndexQuery.Lowering

open IndexQuery.Expr

def namedField (args : List Expr) : Except Error Expr :=
  match args with
  | [name] => do
    match ← name.evaluate with
    | .text name => return field (.ofName name .text)
    | other => throw (.invalidArgument ("get_field expects a field name, got " ++ other.display))
  | args => throw (.invalidArgument ("get_field takes one argument, got " ++ toString args.length))

/-- Members of the document are fields; members of a field have a dotted name. -/
def memberNode : Expr → Except Error Expr
  | member (source _) name kind => .ok (field (.ofName name kind))
  | member (field parent) name kind => .ok (field (.ofName (parent.name ++ "." ++ name) kind))
  | call (source _) .getField args => namedField args
  | e => .ok e

def marker? : Method → Option Expr
  | .score => some relevance
  | .anyField => some anyField
  | _ => none

def markerNode : Expr → Expr
  | call (source name) method [] => (marker? method).getD (call (source name) method [])
  | invoke method [source name] => (marker? method).getD (invoke method [source name])
  | e => e

/-- The constant that changes nothing as an operand. -/
def neutral? : BinaryOp → Option Bool
  | .and => some true
  | .or => some false
  | _ => none

def collapse (op : BinaryOp) (left right : Expr) : Expr :=
  match neutral? op with
  | none => binary op left right
  | some unit =>
    if left.asBoolConstant? = some unit then right
    else if right.asBoolConstant? = some unit then left
    else binary op left right

/-- Letter case belongs to how a field is indexed, and a conversion only retypes a field. -/
def redundantNode : Expr → Expr
  | call target .toLowercase [] =>
    if target.fieldOperand?.isSome then target else call target .toLowercase []
  | call target .toUppercase [] =>
    if target.fieldOperand?.isSome then target else call target .toUppercase []
  | convert (field ref) kind => field (if kind = .other then ref else { ref with kind := kind })
  | convert anyField _ => anyField
  | binary op left right => collapse op left right
  | e => e

end IndexQuery.Lowering
