import IndexQuery.Value

set_option autoImplicit false

/-!
Query expressions: the tree a query is written in, together with the index tests that lowering puts in
place of its parts.
-/

namespace IndexQuery

open Number (Binary Binary32 Format)

/-- Declared type of a document member. -/
inductive ScalarKind where
  | text
  | bool
  | int64
  | float64
  | datetime
  | other
deriving DecidableEq

def ScalarKind.name : ScalarKind → String
  | text => "text"
  | bool => "bool"
  | int64 => "int64"
  | float64 => "float64"
  | datetime => "datetime"
  | other => "other"

inductive Occur where
  | must
  | should
  | mustNot
  | filter
deriving DecidableEq

namespace Occur

def sign : Occur → String
  | must => "+"
  | should => ""
  | mustNot => "-"
  | filter => "#"

def negate : Occur → Occur
  | mustNot => must
  | _ => mustNot

/-- Inside a conjunction an optional clause is required. -/
def inConjunction : Occur → Occur
  | should => must
  | occur => occur

end Occur

/-- How a pattern is held against the value of a field. -/
inductive Matching where
  | exact
  | startsWith
  | endsWith
  | contains
  | similar
  | greater
  | greaterOrEqual
  | less
  | lessOrEqual
deriving DecidableEq

namespace Matching

def isLowerBound : Matching → Bool
  | greater | greaterOrEqual => true
  | _ => false

def isUpperBound : Matching → Bool
  | less | lessOrEqual => true
  | _ => false

def isComparison (m : Matching) : Bool := m.isLowerBound || m.isUpperBound

def isInclusive : Matching → Bool
  | greaterOrEqual | lessOrEqual => true
  | _ => false

def swapped : Matching → Matching
  | greater => less
  | greaterOrEqual => lessOrEqual
  | less => greater
  | lessOrEqual => greaterOrEqual
  | m => m

theorem swapped_swapped (m : Matching) : m.swapped.swapped = m := by cases m <;> rfl

def complement : Matching → Matching
  | greater => lessOrEqual
  | greaterOrEqual => less
  | less => greaterOrEqual
  | lessOrEqual => greater
  | m => m

def symbol : Matching → String
  | exact => "="
  | startsWith => "^="
  | endsWith => "$="
  | contains => "*="
  | similar => "~="
  | greater => ">"
  | greaterOrEqual => ">="
  | less => "<"
  | lessOrEqual => "<="

end Matching

structure FieldRef where
  name : String
  kind : ScalarKind
  boost : Binary32
deriving DecidableEq

namespace FieldRef

def ofName (name : String) (kind : ScalarKind) : FieldRef := ⟨name, kind, .one .single⟩

/-- Name of the reference that stands for every searchable field. -/
def anyName : String := "*"

def any : FieldRef := ofName anyName .text

def isAny (r : FieldRef) : Bool := r.name == anyName

/-- References to one field are interchangeable, whatever their kind and boost. -/
def same (a b : FieldRef) : Bool := a.name == b.name

end FieldRef

/-- A test of one field against a pattern of type `ε`. -/
structure Predicate (ε : Type) where
  field : FieldRef
  pattern : ε
  occur : Occur
  matching : Matching
  boost : Binary32
  /-- Wildcard characters in the pattern keep their meaning. -/
  allowSpecial : Bool
  similarity : Option Binary32

namespace Predicate

variable {ε : Type}

/-- A required test with the boost of its field. -/
def ofField (field : FieldRef) (matching : Matching) (pattern : ε) : Predicate ε :=
  ⟨field, pattern, .must, matching, field.boost, false, none⟩

def negated (p : Predicate ε) : Predicate ε := { p with occur := p.occur.negate }

end Predicate

structure Interval (ε : Type) where
  field : FieldRef
  lower : Option ε
  lowerKind : Matching
  upper : Option ε
  upperKind : Matching
  occur : Occur
  boost : Binary32

namespace Interval

variable {ε : Type}

def includesLower (r : Interval ε) : Bool := r.lowerKind == .greaterOrEqual
def includesUpper (r : Interval ε) : Bool := r.upperKind == .lessOrEqual
def negated (r : Interval ε) : Interval ε := { r with occur := r.occur.negate }

end Interval

inductive UnaryOp where
  | not
  | negate
deriving DecidableEq

namespace UnaryOp

def sign : UnaryOp → String
  | not => "!"
  | negate => "-"

def name : UnaryOp → String
  | not => "Not"
  | negate => "Negate"

end UnaryOp

inductive BinaryOp where
  | and
  | or
  | equal
  | notEqual
  | less
  | lessOrEqual
  | greater
  | greaterOrEqual
  | add
  | subtract
  | multiply
  | divide
  | modulo
  | bitAnd
  | bitOr
  | coalesce
deriving DecidableEq

namespace BinaryOp

def symbol : BinaryOp → String
  | and => "&&"
  | or => "||"
  | equal => "=="
  | notEqual => "!="
  | less => "<"
  | lessOrEqual => "<="
  | greater => ">"
  | greaterOrEqual => ">="
  | add => "+"
  | subtract => "-"
  | multiply => "*"
  | divide => "/"
  | modulo => "%"
  | bitAnd => "&"
  | bitOr => "|"
  | coalesce => "??"

def isLogical : BinaryOp → Bool
  | and | or => true
  | _ => false

def isComparison : BinaryOp → Bool
  | equal | notEqual | less | lessOrEqual | greater | greaterOrEqual => true
  | _ => false

/-- The operator with the same result on swapped operands. -/
def swapped : BinaryOp → BinaryOp
  | less => greater
  | lessOrEqual => greaterOrEqual
  | greater => less
  | greaterOrEqual => lessOrEqual
  | op => op

theorem swapped_swapped (op : BinaryOp) : op.swapped.swapped = op := by cases op <;> rfl

theorem swapped_isComparison (op : BinaryOp) : op.swapped.isComparison = op.isComparison := by
  cases op <;> rfl

end BinaryOp

inductive Method where
  | startsWith
  | endsWith
  | contains
  | compareTo
  | compare
  | similarTo
  | toLowercase
  | toUppercase
  | getField
  | boost
  | allowSpecial
  | score
  | anyField
  | other (name : String)
deriving DecidableEq

namespace Method

def name : Method → String
  | startsWith => "starts_with"
  | endsWith => "ends_with"
  | contains => "contains"
  | compareTo => "compare_to"
  | compare => "compare"
  | similarTo => "similar_to"
  | toLowercase => "to_lowercase"
  | toUppercase => "to_uppercase"
  | getField => "get_field"
  | boost => "boost"
  | allowSpecial => "allow_special_characters"
  | score => "score"
  | anyField => "any_field"
  | other name => name

def known : List Method :=
  [startsWith, endsWith, contains, compareTo, compare, similarTo, toLowercase, toUppercase, getField,
    boost, allowSpecial, score, anyField]

def ofName (name : String) : Method := (known.find? (·.name == name)).getD (other name)

end Method

/-- A value from outside the query. Captures are the same only if they are one and the same variable,
which `identity` tells apart. -/
structure Capture where
  name : String
  identity : Nat
  value : Value
deriving DecidableEq

def Capture.same (a b : Capture) : Bool := a.name == b.name && a.identity == b.identity

inductive Expr where
  | constant (value : Value)
  | captured (capture : Capture)
  | source (name : String)
  | member (target : Expr) (name : String) (kind : ScalarKind)
  | call (target : Expr) (method : Method) (args : List Expr)
  | invoke (method : Method) (args : List Expr)
  | unary (op : UnaryOp) (operand : Expr)
  | binary (op : BinaryOp) (left right : Expr)
  | conditional (test ifTrue ifFalse : Expr)
  | convert (operand : Expr) (kind : ScalarKind)
  | field (ref : FieldRef)
  | predicate (test : Predicate Expr)
  | interval (test : Interval Expr)
  | relevance
  /-- Match against every searchable field. -/
  | anyField
  /-- A compound query with a boost. -/
  | boosted (target : Expr) (boost : Binary32)

namespace Expr

def isNullConstant : Expr → Bool
  | constant .null => true
  | _ => false

def asBoolConstant? : Expr → Option Bool
  | constant (.bool b) => some b
  | _ => none

/-- The field an expression stands for; the any-field marker counts as one. -/
def fieldOperand? : Expr → Option FieldRef
  | field ref => some ref
  | anyField => some .any
  | _ => none

def isQueryNode : Expr → Bool
  | predicate _ | interval _ | boosted _ _ => true
  | _ => false

/-- Direct parts, in order of evaluation. The patterns of index tests are not parts. -/
def children : Expr → List Expr
  | member target _ _ => [target]
  | call target _ args => target :: args
  | invoke _ args => args
  | unary _ operand => [operand]
  | convert operand _ => [operand]
  | binary _ left right => [left, right]
  | conditional test ifTrue ifFalse => [test, ifTrue, ifFalse]
  | boosted target _ => [target]
  | _ => []

end Expr

end IndexQuery
