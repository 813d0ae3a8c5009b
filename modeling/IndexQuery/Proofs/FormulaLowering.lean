import IndexQuery.Proofs.TestTree

set_option autoImplicit false

/-!
How formulas are lowered.

The first round turns the atoms of a formula into tests and takes out double negations: what it has after the
comparisons are `Formula.literals`. From there on the tree is one of tests, and lowering ends two rounds later
(`Formula.lower_expr`).
-/

namespace IndexQuery

open IndexQuery.Expr IndexQuery.Lowering

def Style.op (style : Style) (op : BinaryOp) : BinaryOp := if style.zeroFirst then op.swapped else op

def comparisonPredicate (valueFirst : Bool) (op : BinaryOp) (ref : FieldRef) (value : Expr) : Predicate Expr :=
  let (matching, occur) := (comparison? op).getD (.exact, .must)
  { Predicate.ofField ref (if valueFirst then matching.swapped else matching) value with occur := occur }

def flagPredicate (m : Member) (value : Bool) : Predicate Expr :=
  Predicate.ofField m.path.ref .exact (constant (.bool value))

def PatternKind.matching : PatternKind → Matching
  | startsWith => .startsWith
  | endsWith => .endsWith
  | contains => .contains
  | similarTo => .similar

namespace Atom

def test : Atom → Predicate Expr
  | flag m _ => flagPredicate m true
  | comparison style op _ m v => comparisonPredicate style.valueFirst (style.op op) m.path.ref v.expr
  | pattern kind m v => Predicate.ofField m.path.ref kind.matching v.expr

/-- An atom once patterns have become tests and three-way comparisons direct ones. -/
def compared : Atom → Expr
  | flag m _ => m.field
  | comparison style op _ m v => Style.pair style.valueFirst (style.op op) m.field v.expr
  | pattern kind m v => predicate (pattern kind m v).test

end Atom

namespace Formula

def compared : Formula → Expr
  | atom a => a.compared
  | and l r => binary .and l.compared r.compared
  | or l r => binary .or l.compared r.compared
  | not f => unary .not f.compared

/-- A formula over tests, without double negations. A negated flag is held against false. -/
def literals : Formula → Expr
  | atom a => predicate a.test
  | and l r => binary .and l.literals r.literals
  | or l r => binary .or l.literals r.literals
  | not (not f) => f.literals
  | not (atom (.flag m _)) => predicate (flagPredicate m false)
  | not f => unary .not f.literals

end Formula

/-! ### Members become fields -/

theorem Path.members (p : Path) : p.expr.mapUpM memberNode = .ok (field p.ref) := by
  induction p with
  | root source name kind => rfl
  | member parent name kind ih =>
    rw [Path.expr, mapUpM, ih]
    rfl

theorem Atom.members (a : Atom) :
    (a.exprWith fun m => m.path.expr).mapUpM memberNode = .ok (a.exprWith Member.field) := by
  cases a with
  | flag m _ => exact m.path.members
  | comparison style op _ m v =>
    rcases v with v | v <;> rcases style with (_ | _) | ⟨z, _ | _⟩ | ⟨_ | _, z, _ | _⟩ <;>
    simp only [exprWith, Style.expr, Style.pair, mapUpM, mapAllM, m.path.members, Bool.false_eq_true, if_true,
      if_false, Operand.expr] <;>
    rfl
  | pattern kind m v =>
    rcases v with v | v <;>
    simp only [exprWith, mapUpM, mapAllM, m.path.members, Operand.expr] <;>
    rfl

theorem Formula.members (φ : Formula) : φ.expr.mapUpM memberNode = .ok (φ.exprWith Member.field) := by
  unfold expr
  induction φ with
  | atom a => exact a.members
  | and l r ihl ihr | or l r ihl ihr =>
    rw [exprWith, mapUpM, ihl, ok_bind, ihr]
    rfl
  | not f ih =>
    rw [exprWith, mapUpM, ih]
    rfl

/-! ### Nothing happens to fields before their tests -/

theorem inert_comparison {op : BinaryOp} (h : op.isComparison = true) (left right : Expr) :
    Inert (binary op left right) := by
  cases op <;> simp only [BinaryOp.isComparison, Bool.false_eq_true] at h <;> exact ⟨rfl, rfl, rfl, rfl⟩

theorem Atom.inert (a : Atom) : ∀ n ∈ (a.exprWith Member.field).postorder, Inert n := by
  have hfield : ∀ ref, Inert (field ref) := fun _ => ⟨rfl, rfl, rfl, rfl⟩
  have hvalue : ∀ v : Operand, v.expr.postorder = [v.expr] ∧ Inert v.expr := by
    intro v
    cases v <;> exact ⟨rfl, rfl, rfl, rfl, rfl⟩
  cases a with
  | flag m _ => simpa [exprWith, Member.field, postorder] using hfield _
  | comparison style op hop m v =>
    have hzero : ∀ x, Inert (constant x) := fun _ => ⟨rfl, rfl, rfl, rfl⟩
    have hcall : ∀ x y, Inert (call (field x) .compareTo [y]) := fun _ _ => ⟨rfl, rfl, rfl, rfl⟩
    have hleft : Inert (invoke .compare [field m.path.ref, v.expr]) := ⟨rfl, rfl, rfl, rfl⟩
    have hright : Inert (invoke .compare [v.expr, field m.path.ref]) := by
      cases v <;> exact ⟨rfl, rfl, rfl, rfl⟩
    have hop := inert_comparison hop
    obtain ⟨hv, hi⟩ := hvalue v
    rcases style with (_ | _) | ⟨z, _ | _⟩ | ⟨_ | _, z, _ | _⟩ <;>
    simp_all [exprWith, Style.expr, Style.pair, postorder, postorderAll, Member.field]
  | pattern kind m v =>
    have hcall : Inert (call (field m.path.ref) kind.method [v.expr]) := by
      cases kind <;> exact ⟨rfl, rfl, rfl, rfl⟩
    obtain ⟨hv, hi⟩ := hvalue v
    simp_all [exprWith, postorder, postorderAll, Member.field]

theorem Atom.asBoolConstant?_eq (a : Atom) : (a.exprWith Member.field).asBoolConstant? = none := by
  cases a with
  | flag | pattern => rfl
  | comparison style op _ m v =>
    rcases style with (_ | _) | ⟨z, _ | _⟩ | ⟨_ | _, z, _ | _⟩ <;> rfl

theorem Formula.asBoolConstant?_eq (φ : Formula) : (φ.exprWith Member.field).asBoolConstant? = none := by
  cases φ with
  | atom a => exact a.asBoolConstant?_eq
  | and | or | not => rfl

theorem Formula.inert (φ : Formula) : ∀ n ∈ (φ.exprWith Member.field).postorder, Inert n := by
  induction φ with
  | atom a => exact a.inert
  | and l r ihl ihr | or l r ihl ihr =>
    intro n hn
    simp only [exprWith, postorder, List.mem_append, List.mem_singleton] at hn
    rcases hn with (hn | hn) | rfl
    · exact ihl n hn
    · exact ihr n hn
    · refine ⟨rfl, ?_, rfl, rfl⟩
      simp [redundantNode, collapse, neutral?, l.asBoolConstant?_eq, r.asBoolConstant?_eq]
  | not f ih =>
    intro n hn
    simp only [exprWith, postorder, List.mem_append, List.mem_singleton] at hn
    rcases hn with hn | rfl
    · exact ih n hn
    · exact ⟨rfl, rfl, rfl, rfl⟩

/-! ### Fields become tests -/

theorem Style.op_isComparison (style : Style) {op : BinaryOp} (h : op.isComparison = true) :
    (style.op op).isComparison = true := by
  unfold Style.op
  split
  · rw [op.swapped_isComparison, h]
  · exact h

theorem patternNode_comparison {op : BinaryOp} (h : op.isComparison = true) (left right : Expr) :
    patternNode (binary op left right) = .ok (againstZero op left right) := by
  rw [patternNode, if_pos h]

/-- A three-way comparison with zero behind it is replaced by a direct one. -/
theorem againstZero_left (op : BinaryOp) (z : Zero) {e a b : Expr} (h : threeWay? e = some (a, b)) :
    againstZero op e (constant z.value) = binary op a b := by
  rw [againstZero, if_pos z.isZero, h]

theorem againstZero_right (op : BinaryOp) (z : Zero) {e a b : Expr} (h : threeWay? e = some (a, b)) :
    againstZero op (constant z.value) e = binary op.swapped a b := by
  have hz : isZero e = false := by
    cases e with
    | constant => cases h
    | _ => rfl
  rw [againstZero, if_neg (by simp [hz]), if_pos z.isZero, h]

/-- A field held against a value directly is no three-way comparison. -/
theorem againstZero_none (op : BinaryOp) {left right : Expr} (hl : threeWay? left = none)
    (hr : threeWay? right = none) : againstZero op left right = binary op left right := by
  rw [againstZero, hl, hr]
  split
  · rfl
  · split <;> rfl

theorem Atom.patterns (a : Atom) : (a.exprWith Member.field).mapUpM patternNode = .ok a.compared := by
  cases a with
  | flag m _ => rfl
  | comparison style op hop m v =>
    have hnode : ∀ {left right e : Expr}, againstZero op left right = e →
        patternNode (binary op left right) = .ok e := by
      rintro left right _ rfl
      exact patternNode_comparison hop left right
    cases style with
    | direct valueFirst => cases v <;> cases valueFirst <;> exact hnode (againstZero_none op rfl rfl)
    | method z zeroFirst =>
      cases zeroFirst with
      | false => cases v <;> exact hnode (againstZero_left op z rfl)
      | true => cases v <;> exact hnode (againstZero_right op z rfl)
    | function valueFirst z zeroFirst =>
      cases zeroFirst with
      | false => cases v <;> cases valueFirst <;> exact hnode (againstZero_left op z rfl)
      | true => cases v <;> cases valueFirst <;> exact hnode (againstZero_right op z rfl)
  | pattern kind m v =>
    rcases v with v | v <;> cases kind <;> rfl

theorem Formula.patterns (φ : Formula) : (φ.exprWith Member.field).mapUpM patternNode = .ok φ.compared := by
  induction φ with
  | atom a => exact a.patterns
  | and l r ihl ihr | or l r ihl ihr =>
    rw [exprWith, mapUpM, ihl, ok_bind, ihr]
    rfl
  | not f ih =>
    rw [exprWith, mapUpM, ih]
    rfl

theorem comparisonNode_pair (valueFirst : Bool) {op : BinaryOp} (h : op.isComparison = true) (m : Member)
    (v : Operand) : (liftFlags true (Style.pair valueFirst op m.field v.expr)).mapUpM comparisonNode =
      .ok (predicate (comparisonPredicate valueFirst op m.path.ref v.expr)) := by
  cases op <;> simp only [BinaryOp.isComparison, Bool.false_eq_true] at h <;>
    cases valueFirst <;> cases v <;> rfl

theorem Atom.comparisons (a : Atom) :
    (liftFlags true a.compared).mapUpM comparisonNode = .ok (predicate a.test) := by
  cases a with
  | flag m isBool =>
    have hl : liftFlags true m.field = flagEquals m.field true := by
      rw [Member.field, liftFlags]
      simp [Path.ref, FieldRef.ofName, isBool]
    rw [compared, hl]
    exact comparisonNode_flagEquals _ true
  | comparison style op hop m v => exact comparisonNode_pair _ (style.op_isComparison hop) m v
  | pattern kind m v => rfl

/-- A negation that stays applies to neither a negation nor a flag. -/
theorem Formula.not_cases {f : Formula} (hnot : ∀ g, f = not g → False)
    (hflag : ∀ m h, f = atom (.flag m h) → False) : isNegation f.compared = false ∧
      isFlag f.compared = false ∧ isNegation f.literals = false := by
  cases f with
  | not g => exact (hnot g rfl).elim
  | and | or => exact ⟨rfl, rfl, rfl⟩
  | atom a =>
    cases a with
    | flag m h => exact (hflag m h rfl).elim
    | comparison style op _ m v => cases hs : style.valueFirst <;> simp [compared, Atom.compared, Style.pair, hs,
        isNegation, isFlag, literals]
    | pattern => exact ⟨rfl, rfl, rfl⟩

theorem Formula.comparisons (φ : Formula) :
    (liftFlags true φ.compared).mapUpM comparisonNode = .ok φ.literals := by
  fun_induction literals with
  | case1 a => exact a.comparisons
  | case2 l r ihl ihr | case3 l r ihl ihr =>
    rw [compared, liftFlags]
    simp only [joinsTruths, Bool.true_or, Bool.and_self, mapUpM, ihl, ihr, ok_bind]
    rfl
  | case4 f ih =>
    rw [compared, compared, liftFlags, if_pos rfl]
    exact ih
  | case5 m isBool =>
    have hf : isFlag m.field = true := by simp [Member.field, isFlag, Path.ref, FieldRef.ofName, isBool]
    rw [compared, compared, Atom.compared, liftFlags_not true rfl, Bool.true_and, if_pos hf]
    exact comparisonNode_flagEquals _ false
  | case6 f hnot hflag ih =>
    obtain ⟨hn, hf, _⟩ := not_cases hnot hflag
    rw [compared, liftFlags_not true hn, Bool.true_and, if_neg (by simp [hf]), mapUpM, ih]
    rfl

/-! ### Tests settle -/

theorem Member.isAny_ref (m : Member) : m.path.ref.isAny = false := by
  simpa [FieldRef.isAny, Path.ref, FieldRef.ofName] using m.named

theorem Member.isPlain_ofField (m : Member) (matching : Matching) (v : Operand) (occur : Occur) :
    Predicate.IsPlain { Predicate.ofField m.path.ref matching v.expr with occur := occur } :=
  ⟨m.isAny_ref, rfl, rfl, rfl, v, rfl⟩

theorem flagPredicate_isPlain (m : Member) (value : Bool) : (flagPredicate m value).IsPlain :=
  m.isPlain_ofField .exact (.constant (.bool value) rfl) .must

theorem Atom.test_isPlain (a : Atom) : a.test.IsPlain := by
  cases a with
  | flag m => exact flagPredicate_isPlain m true
  | comparison style op _ m v => exact m.isPlain_ofField _ v _
  | pattern kind m v => exact m.isPlain_ofField _ v .must

theorem Formula.literals_testTree (φ : Formula) : TestTree φ.literals := by
  fun_induction literals with
  | case1 a => exact .predicate a.test_isPlain
  | case2 l r ihl ihr | case3 l r ihl ihr => exact .join rfl ihl ihr
  | case4 f ih => exact ih
  | case5 m => exact .predicate (flagPredicate_isPlain m false)
  | case6 f hnot hflag ih => exact .not ih (not_cases hnot hflag).2.2

/-- The first round. -/
theorem Formula.round_expr (φ : Formula) :
    round .condition φ.expr = .ok ((φ.literals.mapUp polarityNode).mapUp boundsNode) := by
  have hi := φ.inert
  have hq := φ.literals_testTree.polarity.quiet
  rw [round_eq, φ.members, ok_bind, mapUp_fixed _ fun n hn => (hi n hn).marker,
    mapUp_fixed _ fun n hn => (hi n hn).redundant, mapUp_fixed _ fun n hn => (hi n hn).nullGuard]
  simp only [mapUpM_fixed _ fun n hn => (hi n hn).fieldBoost, ok_bind, φ.patterns, if_true, φ.comparisons,
    mapUpM_fixed _ fun n hn => (hq n hn).annotated]
  rfl

/-- Three rounds are enough for every formula, the last of which changes nothing. -/
theorem Formula.lower_expr (φ : Formula) {settings : CompilerSettings} (h : 2 < settings.maxRounds) :
    lower settings .condition φ.expr = .ok (settled φ.literals) := by
  have ht := φ.literals_testTree
  have hrounds : rounds .condition 2 φ.expr = .ok (settled φ.literals) := by
    rw [rounds, φ.round_expr, ok_bind, rounds, ht.settles.1]
    rfl
  rw [lower_settled h hrounds ht.settles.2, ht.settled.hasNaN_eq]
  rfl

end IndexQuery
