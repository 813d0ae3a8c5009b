import IndexQuery.Proofs.FormulaTruth
import IndexQuery.Proofs.TruthComparison

set_option autoImplicit false

/-!
Conditions with boosts around them.

The passes of the first round reach a condition through its boosts, and leave it a comparison, a pattern call, a test or
a compound (`Question`). Then the boosts are attached, the inner one first (`round_boostedBy`): on a compound the second
multiplies the first, on a single test it takes its place (`attachBoost_twice`). Either way lowering goes on as with one
boost (`lower_stacked`).
-/

namespace IndexQuery

open IndexQuery.Expr
open Number (Binary Binary32 Format)
open Lowering (isSingleTest patternMatching?)

namespace Expr

/-- A comparison, a pattern call, a test, or a combination of such with `&&` and `||`; `joined` tells if it is one. -/
inductive Question : (joined : Bool) → Expr → Prop where
  | comparison {op : BinaryOp} (left right : Expr) (h : op.isComparison = true) : Question false (binary op left right)
  | pattern {method : Method} (target : Expr) (args : List Expr) (h : (patternMatching? method).isSome = true) :
    Question false (call target method args)
  | test {e : Expr} (h : isSingleTest e = true) : Question false e
  | join {op : BinaryOp} {a b : Bool} {left right : Expr} (h : op.isLogical = true) (hl : Question a left)
    (hr : Question b right) : Question true (binary op left right)

def boostWith (e : Expr) (amount : Operand) : Expr := call e .boost [amount.expr]

/-- The expression with a boost for each amount, the last one innermost. -/
def boostedBy (amounts : List Operand) (e : Expr) : Expr := amounts.foldr (fun amount e => e.boostWith amount) e

namespace Question

variable {joined : Bool} {e : Expr}

theorem asBoolConstant?_eq (h : Question joined e) : e.asBoolConstant? = none := by
  cases h with
  | test h =>
    cases e with
    | predicate | interval => rfl
    | _ => cases h
  | _ => rfl

theorem of_ok {e' : Expr} (h : Question joined e) (he : (.ok e : Except Error Expr) = .ok e') : Question joined e' :=
  Except.ok.inj he ▸ h

theorem fieldOperand?_boostedBy (h : Question joined e) (amounts : List Operand) :
    (boostedBy amounts e).fieldOperand? = none := by
  cases amounts with
  | nil =>
    cases h with
    | test h =>
      cases e with
      | predicate | interval => rfl
      | _ => cases h
    | _ => rfl
  | cons => rfl

end Question

end Expr

namespace Lowering

/-- A step that leaves tests and amounts as they are, and makes comparisons and pattern calls into others or into
tests. -/
structure KeepsQuestions (f : Expr → Except Error Expr) : Prop where
  predicate : ∀ p, f (.predicate p) = .ok (.predicate p)
  interval : ∀ r, f (.interval r) = .ok (.interval r)
  constant : ∀ v, f (.constant v) = .ok (.constant v)
  captured : ∀ v, f (.captured v) = .ok (.captured v)
  comparison : ∀ {op left right e}, op.isComparison = true → f (binary op left right) = .ok e → Question false e
  pattern : ∀ {target method args e}, (patternMatching? method).isSome = true →
    f (call target method args) = .ok e → Question false e
  join : ∀ {op left right}, op.isLogical = true → left.asBoolConstant? = none → right.asBoolConstant? = none →
    f (binary op left right) = .ok (binary op left right)

/-- A step that leaves boosts in place, too. -/
structure PassesBoosts (f : Expr → Except Error Expr) : Prop extends KeepsQuestions f where
  boost : ∀ {target : Expr} (v : Operand), target.fieldOperand? = none →
    f (target.boostWith v) = .ok (target.boostWith v)

section

variable {f : Expr → Except Error Expr} {joined : Bool} {q e e' : Expr}

theorem KeepsQuestions.mapUpM (hf : KeepsQuestions f) (h : Question joined e) (he : e.mapUpM f = .ok e') :
    Question joined e' := by
  induction h generalizing e' with
  | comparison left right hop =>
    obtain ⟨left', -, he⟩ := bind_eq_ok.1 he
    obtain ⟨right', -, he⟩ := bind_eq_ok.1 he
    exact hf.comparison hop he
  | pattern target args hm =>
    obtain ⟨target', -, he⟩ := bind_eq_ok.1 he
    obtain ⟨args', -, he⟩ := bind_eq_ok.1 he
    exact hf.pattern hm he
  | @test e ht =>
    have hleft : e.mapUpM f = .ok e := by
      cases e with
      | predicate p => exact hf.predicate p
      | interval r => exact hf.interval r
      | _ => cases ht
    rw [hleft] at he
    exact (Question.test ht).of_ok he
  | join hop _ _ ihl ihr =>
    obtain ⟨left', hl, he⟩ := bind_eq_ok.1 he
    obtain ⟨right', hr, he⟩ := bind_eq_ok.1 he
    rw [hf.join hop (ihl hl).asBoolConstant?_eq (ihr hr).asBoolConstant?_eq] at he
    exact (Question.join hop (ihl hl) (ihr hr)).of_ok he

theorem KeepsQuestions.mapUpM_amount (hf : KeepsQuestions f) (v : Operand) : v.expr.mapUpM f = .ok v.expr := by
  cases v with
  | constant value => exact hf.constant value
  | captured capture => exact hf.captured capture

structure Reaches (pass : Expr → Except Error Expr) : Prop where
  through : ∀ {joined q} (amounts : List Operand), Question joined q →
    pass (boostedBy amounts q) = do return boostedBy amounts (← pass q)
  keeps : ∀ {joined q q'}, Question joined q → pass q = .ok q' → Question joined q'

theorem PassesBoosts.reaches (hf : PassesBoosts f) : Reaches fun e => e.mapUpM f where
  keeps := hf.mapUpM
  through := by
    intro joined q amounts hq
    induction amounts with
    | nil => exact (bind_pure _).symm
    | cons v amounts ih =>
      change ((boostedBy amounts q).mapUpM f >>= fun target => mapAllM f [v.expr] >>= fun args =>
        f (call target .boost args)) = _
      have hargs : mapAllM f [v.expr] = .ok [v.expr] := by
        rw [mapAllM, hf.mapUpM_amount v]
        rfl
      rw [ih, bind_assoc]
      simp only [pure_bind, hargs, ok_bind]
      cases hq' : q.mapUpM f with
      | error fault => rfl
      | ok q' => exact hf.boost v ((hf.mapUpM hq hq').fieldOperand?_boostedBy amounts)

theorem PassesBoosts.reaches_mapUp {g : Expr → Expr} (hg : PassesBoosts fun e => .ok (g e)) :
    Reaches fun e => .ok (e.mapUp g) := by
  have h := hg.reaches
  simpa only [mapUpM_ok] using h

end

/-! ### The passes of a round -/

/-- A step that has nothing to do with questions. -/
theorem PassesBoosts.of_left {f : Expr → Except Error Expr} (predicate : ∀ p, f (.predicate p) = .ok (.predicate p))
    (interval : ∀ r, f (.interval r) = .ok (.interval r)) (constant : ∀ v, f (.constant v) = .ok (.constant v))
    (captured : ∀ v, f (.captured v) = .ok (.captured v))
    (binary : ∀ {op left right}, op.isComparison = true ∨
        left.asBoolConstant? = none ∧ right.asBoolConstant? = none →
      f (binary op left right) = .ok (.binary op left right))
    (call : ∀ {target method args}, (patternMatching? method).isSome = true ∨
        method = .boost ∧ args ≠ [] ∧ target.fieldOperand? = none →
      f (call target method args) = .ok (.call target method args)) : PassesBoosts f where
  predicate := predicate
  interval := interval
  constant := constant
  captured := captured
  comparison hop h := (Question.comparison _ _ hop).of_ok ((binary (.inl hop)).symm.trans h)
  pattern hm h := (Question.pattern _ _ hm).of_ok ((call (.inl hm)).symm.trans h)
  join _ hl hr := binary (.inr ⟨hl, hr⟩)
  boost _ ht := call (.inr ⟨rfl, List.cons_ne_nil _ _, ht⟩)

theorem memberNode_passesBoosts : PassesBoosts memberNode := by
  refine .of_left (fun _ => rfl) (fun _ => rfl) (fun _ => rfl) (fun _ => rfl) (fun _ => rfl) ?_
  rintro target method args (hm | ⟨rfl, -⟩)
  · cases method with
    | getField => cases hm
    | _ => simp [memberNode]
  · simp [memberNode]

theorem markerNode_passesBoosts : PassesBoosts fun e => .ok (markerNode e) := by
  refine .of_left (fun _ => rfl) (fun _ => rfl) (fun _ => rfl) (fun _ => rfl) (fun _ => rfl) ?_
  intro target method args h
  have hmarker : marker? method = none := by
    rcases h with hm | ⟨rfl, -⟩
    · cases method with
      | score | anyField => cases hm
      | _ => rfl
    · rfl
  congr 1
  unfold markerNode
  split <;> simp_all

theorem collapse_question {op : BinaryOp} {left right : Expr}
    (h : op.isComparison = true ∨ left.asBoolConstant? = none ∧ right.asBoolConstant? = none) :
    collapse op left right = binary op left right := by
  rcases h with hop | ⟨hl, hr⟩
  · cases op with
    | and | or => cases hop
    | _ => rfl
  · rw [collapse, hl, hr]
    cases neutral? op <;> rfl

theorem redundantNode_passesBoosts : PassesBoosts fun e => .ok (redundantNode e) := by
  refine .of_left (fun _ => rfl) (fun _ => rfl) (fun _ => rfl) (fun _ => rfl)
    (fun h => congrArg Except.ok (collapse_question h)) ?_
  rintro target method args (hm | ⟨rfl, -⟩)
  · cases method with
    | toLowercase | toUppercase => cases hm
    | _ => simp [redundantNode]
  · simp [redundantNode]

theorem nullGuardNode_passesBoosts : PassesBoosts fun e => .ok (nullGuardNode e) :=
  .of_left (fun _ => rfl) (fun _ => rfl) (fun _ => rfl) (fun _ => rfl) (fun _ => rfl) fun _ => rfl

theorem fieldBoostNode_passesBoosts : PassesBoosts fieldBoostNode := by
  refine .of_left (fun _ => rfl) (fun _ => rfl) (fun _ => rfl) (fun _ => rfl) (fun _ => rfl) ?_
  rintro target method args (hm | ⟨rfl, -, ht⟩)
  · cases method with
    | boost => cases hm
    | _ => rfl
  · rw [fieldBoostNode, ht]

theorem againstZero_question {op : BinaryOp} (hop : op.isComparison = true) (left right : Expr) :
    Question false (againstZero op left right) := by
  have hswapped : op.swapped.isComparison = true := by rwa [op.swapped_isComparison]
  unfold againstZero
  split
  · split <;> exact .comparison _ _ hop
  · split
    · split
      · exact .comparison _ _ hswapped
      · exact .comparison _ _ hop
    · exact .comparison _ _ hop

theorem patternTest_question {ref : FieldRef} {method : Method} {matching : Matching} {args : List Expr} {e : Expr}
    (h : patternTest ref method matching args = .ok e) : Question false e := by
  obtain ⟨⟨pattern, similarity⟩, -, h⟩ := bind_eq_ok.1 h
  obtain ⟨-, -, h⟩ := bind_eq_ok.1 h
  obtain rfl := pure_eq_ok.1 h
  exact .test rfl

theorem patternNode_passesBoosts : PassesBoosts patternNode where
  predicate _ := rfl
  interval _ := rfl
  constant _ := rfl
  captured _ := rfl
  comparison {op left right e} hop h := by
    rw [patternNode, if_pos hop] at h
    exact (againstZero_question hop left right).of_ok h
  pattern {target method args e} hm h := by
    rw [patternNode] at h
    split at h
    · exact patternTest_question h
    · exact (Question.pattern _ _ hm).of_ok h
  join hop _ _ := by rcases BinaryOp.logical_cases hop with rfl | rfl <;> rfl
  boost _ _ := rfl

theorem comparisonTest_question {op : BinaryOp} (hop : op.isComparison = true) (matching : Matching) (occur : Occur)
    (left right : Expr) : Question false (comparisonTest op matching occur left right) := by
  unfold comparisonTest
  split
  · exact .test rfl
  · exact .test rfl
  · exact .comparison _ _ hop

theorem comparisonNode_passesBoosts : PassesBoosts comparisonNode where
  predicate _ := rfl
  interval _ := rfl
  constant _ := rfl
  captured _ := rfl
  comparison {op left right e} hop h := by
    obtain ⟨⟨matching, occur⟩, hc⟩ : ∃ c, comparison? op = some c := by
      cases op with
      | equal | notEqual | less | lessOrEqual | greater | greaterOrEqual => exact ⟨_, rfl⟩
      | _ => cases hop
    rw [comparisonNode, hc] at h
    exact (comparisonTest_question hop matching occur left right).of_ok h
  pattern hm h := (Question.pattern _ _ hm).of_ok h
  join hop _ _ := by rcases BinaryOp.logical_cases hop with rfl | rfl <;> rfl
  boost _ _ := rfl

theorem polarize_question {op : BinaryOp} {value : Bool} {test : Expr} (h : isSingleTest test = true) :
    Question false (polarize op value test) := by
  unfold polarize
  split
  · exact .test h
  · cases test with
    | predicate | interval => exact .test rfl
    | _ => cases h

theorem polarized_question {op : BinaryOp} (hop : op.isComparison = true) (left right : Expr) :
    Question false (polarized op left right) := by
  unfold polarized
  split
  · rename_i hl
    split
    · exact polarize_question hl
    · exact .comparison _ _ hop
  · split
    · rename_i hr
      split
      · exact polarize_question hr
      · exact .comparison _ _ hop
    · exact .comparison _ _ hop

theorem polarityNode_passesBoosts : PassesBoosts fun e => .ok (polarityNode e) where
  predicate _ := rfl
  interval _ := rfl
  constant _ := rfl
  captured _ := rfl
  comparison {op left right e} hop h := by
    cases op with
    | equal | notEqual => exact (polarized_question hop left right).of_ok h
    | less | lessOrEqual | greater | greaterOrEqual => exact (Question.comparison _ _ hop).of_ok h
    | _ => cases hop
  pattern hm h := (Question.pattern _ _ hm).of_ok h
  join hop _ _ := by rcases BinaryOp.logical_cases hop with rfl | rfl <;> rfl
  boost _ _ := rfl

theorem annotationNode_keepsQuestions : KeepsQuestions annotationNode where
  predicate _ := rfl
  interval _ := rfl
  constant _ := rfl
  captured _ := rfl
  comparison hop h := (Question.comparison _ _ hop).of_ok h
  pattern {target method args e} hm h := by
    cases method with
    | boost | allowSpecial => cases hm
    | _ => exact (Question.pattern _ _ hm).of_ok h
  join _ _ _ := rfl

theorem liftFlags_question {joined : Bool} {e : Expr} (h : Question joined e) (truth : Bool) :
    Question joined (liftFlags truth e) := by
  induction h generalizing truth with
  | comparison left right hop => exact .comparison _ _ hop
  | pattern target args hm =>
    rename_i method
    cases method with
    | boost | allowSpecial => cases hm
    | _ => exact .pattern _ _ hm
  | @test e ht =>
    cases e with
    | predicate | interval => exact .test rfl
    | _ => cases ht
  | join hop _ _ ihl ihr => exact .join hop (ihl _) (ihr _)

theorem liftFlags_boostedBy (amounts : List Operand) (e : Expr) :
    liftFlags true (boostedBy amounts e) = boostedBy amounts (liftFlags true e) := by
  induction amounts with
  | nil => rfl
  | cons v amounts ih => exact congrArg (fun e => e.boostWith v) ih

theorem liftFlags_reaches : Reaches fun e => .ok (liftFlags true e) where
  through amounts _ := congrArg Except.ok (liftFlags_boostedBy amounts _)
  keeps hq h := (liftFlags_question hq true).of_ok h

/-! ### A round -/

namespace Pass

def asking : List Pass :=
  [members, markers, redundancies, nullGuards, fieldBoosts, patterns, flags, comparisons, polarity]

def ask (passes : List Pass) (e : Expr) : Except Error Expr := passes.foldlM (fun e pass => pass.apply .condition e) e

theorem reaches {pass : Pass} (h : pass ∈ asking) : Reaches fun e => pass.apply .condition e := by
  cases pass with
  | members => exact memberNode_passesBoosts.reaches
  | markers => exact markerNode_passesBoosts.reaches_mapUp
  | redundancies => exact redundantNode_passesBoosts.reaches_mapUp
  | nullGuards => exact nullGuardNode_passesBoosts.reaches_mapUp
  | fieldBoosts => exact fieldBoostNode_passesBoosts.reaches
  | patterns => exact patternNode_passesBoosts.reaches
  | flags => exact liftFlags_reaches
  | comparisons => exact comparisonNode_passesBoosts.reaches
  | polarity => exact polarityNode_passesBoosts.reaches_mapUp
  | annotations | bounds => simp [asking] at h

theorem reaches_ask {passes : List Pass} (h : passes ⊆ asking) : Reaches (ask passes) := by
  induction passes with
  | nil => exact ⟨fun _ _ => rfl, fun hq he => hq.of_ok he⟩
  | cons pass passes ih =>
    have hpass := reaches (h List.mem_cons_self)
    have hpasses := ih (List.subset_of_cons_subset h)
    constructor
    · intro joined q amounts hq
      rw [ask, ask, List.foldlM_cons, List.foldlM_cons, hpass.through amounts hq]
      cases hq' : pass.apply .condition q with
      | error fault => rfl
      | ok q' => exact hpasses.through amounts (hpass.keeps hq hq')
    · intro joined q q' hq he
      rw [ask, List.foldlM_cons] at he
      obtain ⟨q₁, h₁, he⟩ := bind_eq_ok.1 he
      exact hpasses.keeps (hpass.keeps hq h₁) he

end Pass

def attachAll (amounts : List Operand) (target : Expr) : Except Error Expr :=
  amounts.foldrM (fun amount target => do attachBoost target (← singleOf "boost" amount.value)) target

theorem attachAll_cons (v : Operand) (amounts : List Operand) (target : Expr) :
    attachAll (v :: amounts) target =
      attachAll amounts target >>= fun target => singleOf "boost" v.value >>= attachBoost target :=
  List.foldrM_cons

theorem annotate_boostedBy (amounts : List Operand) (q : Expr) :
    annotate (boostedBy amounts q) = annotate q >>= attachAll amounts := by
  induction amounts with
  | nil => exact (bind_pure _).symm
  | cons v amounts ih =>
    have hargs : mapAllM annotationNode [v.expr] = .ok [v.expr] := by
      rw [mapAllM, annotationNode_keepsQuestions.mapUpM_amount v]
      rfl
    have hamount : boostAmount [v.expr] = singleOf "boost" v.value := by
      rw [boostAmount, v.evaluate_expr, ok_bind]
    calc annotate (boostedBy (v :: amounts) q)
        = annotate (boostedBy amounts q) >>= fun target => mapAllM annotationNode [v.expr] >>= fun args =>
            boostAmount args >>= attachBoost target := rfl
      _ = annotate q >>= attachAll amounts >>= fun target => singleOf "boost" v.value >>= attachBoost target := by
          simp only [ih, hargs, ok_bind, hamount]
      _ = annotate q >>= attachAll (v :: amounts) := by
          rw [bind_assoc]
          exact bind_congr fun t => (attachAll_cons v amounts t).symm

/-- The question at the end of the first round, before boosts are attached to it. -/
def asked (q : Expr) : Except Error Expr := Pass.ask Pass.asking q >>= annotate

theorem asked_question {joined : Bool} {q t : Expr} (hq : Question joined q) (h : asked q = .ok t) :
    Question joined t := by
  obtain ⟨q', h₁, h₂⟩ := bind_eq_ok.1 h
  exact annotationNode_keepsQuestions.mapUpM ((Pass.reaches_ask (List.Subset.refl _)).keeps hq h₁) h₂

theorem round_boostedBy {joined : Bool} {q : Expr} (amounts : List Operand) (hq : Question joined q) :
    round .condition (boostedBy amounts q) = (do
      let t ← attachAll amounts (← asked q)
      return t.mapUp boundsNode) := by
  have hpipeline : Pass.pipeline = Pass.asking ++ [.annotations, .bounds] := rfl
  have hround : ∀ e, round .condition e = asked e >>= fun t => pure (t.mapUp boundsNode) := by
    intro e
    rw [round, hpipeline, List.foldlM_append, asked, bind_assoc]
    rfl
  have hasked : asked (boostedBy amounts q) = asked q >>= attachAll amounts := by
    rw [asked, (Pass.reaches_ask (List.Subset.refl _)).through amounts hq, asked, bind_assoc, bind_assoc]
    simp only [pure_bind, annotate_boostedBy]
  rw [hround, hasked, bind_assoc]

/-! ### Attaching two boosts -/

section

variable {t : Expr} {x y : Binary32}

def reweighed (boost : Binary32) : Expr → Expr
  | predicate test => predicate { test with boost := boost }
  | interval test => interval { test with boost := boost }
  | e => e

theorem attachBoost_single (h : Question false t) (x : Binary32) :
    attachBoost t x = if isSingleTest t then .ok (reweighed x t) else .error (.boostTarget t.display) := by
  cases h with
  | comparison left right hop =>
    rename_i op
    cases op with
    | and | or => cases hop
    | _ => rfl
  | pattern => rfl
  | test h =>
    cases t with
    | predicate | interval => rfl
    | _ => cases h

theorem attachBoost_joined (h : Question true t) (x : Binary32) :
    attachBoost t x = if isCompound t then .ok (boosted t x) else .error (.boostTarget t.display) := by
  cases h
  rfl

/-- What two boosts come to: on a compound they multiply, on a single test the later one takes the place of the
earlier. -/
def stackedBoost (joined : Bool) (x y : Binary32) : Binary32 := if joined then x.mul y else y

theorem attachBoost_twice {joined : Bool} (h : Question joined t) (x y : Binary32) :
    (attachBoost t x >>= fun t => attachBoost t y) = attachBoost t (stackedBoost joined x y) := by
  cases joined with
  | false =>
    rw [stackedBoost, attachBoost_single h, attachBoost_single h]
    split
    · rename_i ht
      cases t with
      | predicate | interval => rfl
      | _ => cases ht
    · rfl
  | true =>
    rw [stackedBoost, attachBoost_joined h, attachBoost_joined h]
    split <;> rfl

theorem attachBoost_isQueryNode {t' : Expr} (h : attachBoost t x = .ok t') : t'.isQueryNode = true := by
  unfold attachBoost at h
  split at h
  · cases h
    rfl
  · cases h
    rfl
  · cases h
    rfl
  · split at h
    · cases h
      rfl
    · cases h

end

theorem mapUp_boundsNode_isQueryNode {e : Expr} (h : e.isQueryNode = true) :
    (e.mapUp boundsNode).isQueryNode = true := by
  cases e with
  | predicate | interval | boosted => rfl
  | _ => cases h

theorem round_boostWith_isQueryNode {joined : Bool} {q next : Expr} {v : Operand} {amounts : List Operand}
    (hq : Question joined q) (h : round .condition (boostedBy (v :: amounts) q) = .ok next) :
    next.isQueryNode = true := by
  rw [round_boostedBy _ hq] at h
  obtain ⟨t, -, h⟩ := bind_eq_ok.1 h
  obtain ⟨t', ht, h⟩ := bind_eq_ok.1 h
  obtain rfl := pure_eq_ok.1 h
  rw [attachAll_cons] at ht
  obtain ⟨t₁, -, ht⟩ := bind_eq_ok.1 ht
  obtain ⟨x, -, ht⟩ := bind_eq_ok.1 ht
  exact mapUp_boundsNode_isQueryNode (attachBoost_isQueryNode ht)

theorem same_boostWith {e target : Expr} (h : e.isQueryNode = true) (v : Operand) :
    e.same (target.boostWith v) = false := by
  cases e with
  | predicate | interval | boosted => simp [boostWith, same]
  | _ => cases h

/-- What lowering makes of a boosted question depends on its first round alone. -/
theorem lower_boostedBy {joined : Bool} {q : Expr} {v w : Operand} {amounts amounts' : List Operand}
    (settings : CompilerSettings) (hq : Question joined q)
    (h : round .condition (boostedBy (v :: amounts) q) = round .condition (boostedBy (w :: amounts') q)) :
    lower settings .condition (boostedBy (v :: amounts) q) =
      lower settings .condition (boostedBy (w :: amounts') q) := by
  have hsettle : ∀ n, settle? .condition n (boostedBy (v :: amounts) q) =
      settle? .condition n (boostedBy (w :: amounts') q) := by
    intro n
    cases n with
    | zero => rfl
    | succ n =>
      rw [settle?, settle?, h]
      cases hr : round .condition (boostedBy (w :: amounts') q) with
      | error fault => rfl
      | ok next =>
        -- no boost is left as a call, so that neither loop stops after this round
        have hnode := round_boostWith_isQueryNode hq hr
        have hv : next.same (boostedBy (v :: amounts) q) = false := same_boostWith hnode v
        have hw : next.same (boostedBy (w :: amounts') q) = false := same_boostWith hnode w
        rw [ok_bind, ok_bind, hv, hw]
  rw [lower, lower, hsettle]

section

variable {q : Expr} {u v w : Operand} {x y : Binary32} (settings : CompilerSettings)

theorem attachAll_singleton (hu : singleOf "boost" u.value = .ok x) (t : Expr) :
    attachAll [u] t = attachBoost t x := by
  rw [attachAll_cons, hu]
  rfl

theorem attachAll_pair (hu : singleOf "boost" u.value = .ok x) (hv : singleOf "boost" v.value = .ok y) (t : Expr) :
    attachAll [v, u] t = attachBoost t x >>= fun t => attachBoost t y := by
  rw [attachAll_cons, attachAll_singleton hu, hv]
  rfl

/-- Two boosts around a question are lowered as one. -/
theorem lower_stacked {joined : Bool} (hq : Question joined q) (hu : singleOf "boost" u.value = .ok x)
    (hv : singleOf "boost" v.value = .ok y) (hw : singleOf "boost" w.value = .ok (stackedBoost joined x y)) :
    lower settings .condition ((q.boostWith u).boostWith v) = lower settings .condition (q.boostWith w) := by
  have hround : round .condition (boostedBy [v, u] q) = round .condition (boostedBy [w] q) := by
    rw [round_boostedBy _ hq, round_boostedBy _ hq]
    cases ht : asked q with
    | error fault => rfl
    | ok t =>
      rw [ok_bind, ok_bind, attachAll_pair hu hv, attachAll_singleton hw, attachBoost_twice (asked_question hq ht)]
  exact lower_boostedBy settings hq hround

end

end Lowering

end IndexQuery
