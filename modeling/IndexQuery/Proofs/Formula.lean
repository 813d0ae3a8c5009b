import IndexQuery.Proofs.ConditionTruth
import IndexQuery.Proofs.Sameness

set_option autoImplicit false

/-!
Conditions as a user writes them, and when they hold of a document.

A formula joins tests of members of the document by `&&`, `||` and `!`. `Formula.expr` is the expression that
says it in a query, `Formula.Holds` what it means for a document that has one term in every field: values are
held against terms by their text, and texts are ordered as strings.
-/

namespace IndexQuery

abbrev Document := String → String

/-- How an index compares a text, a term and a number of edits in a fuzzy match. -/
abbrev Nearness := String → String → Nat → Bool

namespace Document

variable (near : Nearness) (doc : Document)

def matchesLeaf : Query → Bool
  | .all _ => true
  | .term field text _ => doc field == text
  | .startsWith field text _ => text.toList.isPrefixOf (doc field).toList
  | .wildcard field pattern _ => Wildcard.accepts pattern (doc field)
  | .fuzzy field text edits _ => near text (doc field) edits
  | .range field terms _ => terms.contains (doc field)
  | .bool _ _ => false

def satisfies (q : Query) : Bool := q.matchesUnder (doc.matchesLeaf near)

end Document

inductive Path where
  | root (source name : String) (kind : ScalarKind)
  | member (parent : Path) (name : String) (kind : ScalarKind)

namespace Path

def expr : Path → Expr
  | root source name kind => .member (.source source) name kind
  | member parent name kind => .member parent.expr name kind

def name : Path → String
  | root _ name _ => name
  | member parent name _ => parent.name ++ "." ++ name

def kind : Path → ScalarKind
  | root _ _ kind | member _ _ kind => kind

def ref (p : Path) : FieldRef := .ofName p.name p.kind

end Path

/-- A path that is not mistaken for the reference to all fields. -/
structure Member where
  path : Path
  named : path.name ≠ FieldRef.anyName

namespace Member

def name (m : Member) : String := m.path.name
def field (m : Member) : Expr := .field m.path.ref

end Member

def Value.isProper (v : Value) : Bool := !v.isNull && !v.isNaN

inductive Operand where
  | constant (value : Value) (proper : value.isProper = true)
  | captured (capture : Capture) (proper : capture.value.isProper = true)

namespace Operand

def expr : Operand → Expr
  | constant value _ => .constant value
  | captured capture _ => .captured capture

def value : Operand → Value
  | constant value _ => value
  | captured capture _ => capture.value

/-- The text under which a keyword field stores the value. -/
def text (v : Operand) : String := v.value.plain

end Operand

/-- A constant that a three-way comparison can be held against. -/
structure Zero where
  value : Value
  isZero : Lowering.isZero (.constant value) = true

/-- How a comparison is written: directly, or as `compare_to` or `compare` held against zero. -/
inductive Style where
  | direct (valueFirst : Bool)
  | method (zero : Zero) (zeroFirst : Bool)
  | function (valueFirst : Bool) (zero : Zero) (zeroFirst : Bool)

namespace Style

def valueFirst : Style → Bool
  | direct first | function first _ _ => first
  | method _ _ => false

def zeroFirst : Style → Bool
  | direct _ => false
  | method _ first | function _ _ first => first

def pair (swap : Bool) (op : BinaryOp) (left right : Expr) : Expr :=
  if swap then .binary op right left else .binary op left right

def expr (op : BinaryOp) (member value : Expr) : Style → Expr
  | direct valueFirst => pair valueFirst op member value
  | method zero zeroFirst => pair zeroFirst op (.call member .compareTo [value]) (.constant zero.value)
  | function valueFirst zero zeroFirst =>
    pair zeroFirst op (.invoke .compare (if valueFirst then [value, member] else [member, value]))
      (.constant zero.value)

/-- How the left operand of the comparison relates to the right one. The sign of a three-way comparison stands
to zero as its operands do to one another. -/
def order (style : Style) (term text : String) : Ordering :=
  let order := if style.valueFirst then compare text term else compare term text
  if style.zeroFirst then order.swap else order

end Style

def BinaryOp.holdsOf : BinaryOp → Ordering → Bool
  | equal, o => o == .eq
  | notEqual, o => o != .eq
  | less, o => o == .lt
  | lessOrEqual, o => o != .gt
  | greater, o => o == .gt
  | greaterOrEqual, o => o != .lt
  | _, _ => false

inductive PatternKind where
  | startsWith
  | endsWith
  | contains
  | similarTo

namespace PatternKind

def method : PatternKind → Method
  | startsWith => .startsWith
  | endsWith => .endsWith
  | contains => .contains
  | similarTo => .similarTo

/-- Does the term have the pattern? Neither `endsWith` nor `contains` looks past a line feed. -/
def Holds (near : Nearness) (text term : String) : PatternKind → Prop
  | startsWith => text.toList <+: term.toList
  | endsWith => ∃ front, term.toList = front ++ text.toList ∧ '\n' ∉ front
  | contains => ∃ front back, term.toList = front ++ text.toList ++ back ∧ '\n' ∉ front ∧ '\n' ∉ back
  | similarTo => near text term
      (Similarity.edits text CompilerSettings.standard.similarity CompilerSettings.standard.maxEdits) = true

end PatternKind

inductive Atom where
  | flag (member : Member) (isBool : member.path.kind = .bool)
  | comparison (style : Style) (op : BinaryOp) (isComparison : op.isComparison = true) (member : Member)
      (value : Operand)
  | pattern (kind : PatternKind) (member : Member) (value : Operand)

namespace Atom

def exprWith (member : Member → Expr) : Atom → Expr
  | flag m _ => member m
  | comparison style op _ m v => style.expr op (member m) v.expr
  | pattern kind m v => .call (member m) kind.method [v.expr]

def Holds (near : Nearness) (doc : Document) : Atom → Prop
  | flag m _ => doc m.name = "true"
  | comparison style op _ m v => op.holdsOf (style.order (doc m.name) v.text) = true
  | pattern kind m v => kind.Holds near v.text (doc m.name)

def flags : Atom → List Member
  | flag m _ => [m]
  | _ => []

end Atom

inductive Formula where
  | atom (a : Atom)
  | and (left right : Formula)
  | or (left right : Formula)
  | not (inner : Formula)

namespace Formula

def exprWith (member : Member → Expr) : Formula → Expr
  | atom a => a.exprWith member
  | and l r => .binary .and (l.exprWith member) (r.exprWith member)
  | or l r => .binary .or (l.exprWith member) (r.exprWith member)
  | not f => .unary .not (f.exprWith member)

def expr (f : Formula) : Expr := f.exprWith fun m => m.path.expr

def Holds (near : Nearness) (doc : Document) : Formula → Prop
  | atom a => a.Holds near doc
  | and l r => l.Holds near doc ∧ r.Holds near doc
  | or l r => l.Holds near doc ∨ r.Holds near doc
  | not f => ¬ f.Holds near doc

def flags : Formula → List Member
  | atom a => a.flags
  | and l r | or l r => l.flags ++ r.flags
  | not f => f.flags

/-- Does the document answer the flags of the formula with a truth value? -/
def Answers (doc : Document) (f : Formula) : Prop :=
  ∀ m ∈ f.flags, doc m.name = "true" ∨ doc m.name = "false"

end Formula

end IndexQuery
