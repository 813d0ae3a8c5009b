import IndexQuery.Plan.Drafting
import IndexQuery.Proofs.BoostedQuestions
import IndexQuery.Proofs.PowersOfTwo

set_option autoImplicit false

/-!
Boosts on top of boosts, down to the native query.

Two boosts around a condition come to one (`condition_stacked`): their product if the condition is a compound, the later
one if it is a single test. The boost of a single test appears in its query as a boost and nowhere else
(`build_reweighed`).
-/

namespace IndexQuery

open IndexQuery.Expr
open Number (Binary Binary32 Format)
open Lowering (isSingleTest singleOf stackedBoost reweighed lower rounds round)

namespace Query

mutual

def unweighted : Query → Query
  | bool clauses _ => bool (unweightedClauses clauses) unboosted
  | leaf => leaf.withBoost unboosted

def unweightedClauses : List (Clause Query) → List (Clause Query)
  | [] => []
  | ⟨occur, query⟩ :: rest => ⟨occur, unweighted query⟩ :: unweightedClauses rest

end

theorem unweighted_withBoost (boost : Binary32) (q : Query) : (q.withBoost boost).unweighted = q.unweighted := by
  cases q <;> rfl

end Query

structure Fragment.Alike (f g : Fragment) : Prop where
  occur : g.occur = f.occur
  query : g.query.unweighted = f.query.unweighted

namespace Fragment.Alike

variable {f g : Fragment}

theorem alternative (h : f.Alike g) : g.alternative.unweighted = f.alternative.unweighted := by
  have hexcluded : ∀ q, Query.ensurePositive [⟨.mustNot, q⟩] = [⟨.mustNot, q⟩, ⟨.should, Query.matchAll⟩] :=
    fun _ => rfl
  unfold Fragment.alternative
  rw [h.occur]
  split
  · simp only [hexcluded, Query.ofClauses, Query.unweighted, Query.unweightedClauses, h.query]
  · exact h.query

theorem alternatives {fs gs : List Fragment} (h : List.Forall₂ Alike fs gs) (occur : Occur) :
    Alike (.alternatives fs occur) (.alternatives gs occur) := by
  have hclauses : Query.unweightedClauses (gs.map fun part => ⟨.should, part.alternative⟩) =
      Query.unweightedClauses (fs.map fun part => ⟨.should, part.alternative⟩) := by
    induction h with
    | nil => rfl
    | cons h _ ih => simp only [List.map_cons, Query.unweightedClauses, h.alternative, ih]
  refine ⟨rfl, ?_⟩
  simp only [Fragment.alternatives, Query.ofClauses, Query.unweighted, hclauses]

end Fragment.Alike

namespace Compiler

variable (c : Compiler)

theorem unweighted_withBoost (boost : Binary32) (q : Query) : (withBoost boost q).unweighted = q.unweighted := by
  unfold withBoost
  split
  · rfl
  · exact Query.unweighted_withBoost boost q

theorem fieldFragment_reweighed (name : String) (p : Predicate Expr) (boost : Binary32) :
    Lockstep Fragment.Alike (c.fieldFragment name p) (c.fieldFragment name { p with boost := boost }) := by
  refine .bind_same fun value => ?_
  cases value.isNull with
  | true => exact .ok ⟨rfl, rfl⟩
  | false =>
    refine .bind_same fun text => .bind_same fun q => .ok ⟨rfl, ?_⟩
    rw [unweighted_withBoost, unweighted_withBoost]

theorem predicateFragment_reweighed (p : Predicate Expr) (boost : Binary32) :
    Lockstep Fragment.Alike (c.predicateFragment p) (c.predicateFragment { p with boost := boost }) := by
  unfold predicateFragment
  split
  · exact c.fieldFragment_reweighed _ p boost
  · cases c.fields.names with
    | nil => exact .error _
    | cons name names =>
      have hparts := Lockstep.mapM (fun name => c.fieldFragment_reweighed name { p with occur := .must } boost)
        (name :: names)
      exact hparts.bind fun h => .ok (.alternatives h p.occur)

theorem intervalFragment_reweighed (r : Interval Expr) (boost : Binary32) :
    Lockstep Fragment.Alike (c.intervalFragment r) (c.intervalFragment { r with boost := boost }) := by
  unfold intervalFragment
  split
  · have hdisplay : displayInterval { r with boost := boost } = displayInterval r := by
      cases r
      simp only [displayInterval]
    rw [hdisplay]
    exact .error _
  · refine .bind_same fun lower => .bind_same fun upper => .bind_same fun q => .ok ⟨rfl, ?_⟩
    rw [unweighted_withBoost, unweighted_withBoost]

/-- The boost of a test is that of its query. -/
theorem build_reweighed {t : Expr} (ht : isSingleTest t = true) (x y : Binary32) :
    Lockstep Fragment.Alike (c.build (reweighed x t)) (c.build (reweighed y t)) := by
  cases t with
  | predicate p => exact c.predicateFragment_reweighed { p with boost := x } y
  | interval r => exact c.intervalFragment_reweighed { r with boost := x } y
  | _ => cases ht

end Compiler

namespace Lowering

theorem reweighed_test (x : Binary32) {t : Expr} (ht : isSingleTest t = true) :
    isSingleTest (reweighed x t) = true ∧ (reweighed x t).isQueryNode = true := by
  cases t with
  | predicate | interval => exact ⟨rfl, rfl⟩
  | _ => cases ht

theorem hasNaN_reweighed {x y : Binary32} (hx : x.isNaN = false) (hy : y.isNaN = false) {t : Expr}
    (ht : isSingleTest t = true) : (reweighed y t).hasNaN = (reweighed x t).hasNaN := by
  cases t with
  | predicate p => simp only [reweighed, hasNaN_predicate, hx, hy]
  | interval r => simp only [reweighed, hasNaN_interval, hx, hy]
  | _ => cases ht

theorem round_boostWith_single {q : Expr} {w : Operand} {z : Binary32} (hq : Question false q)
    (hw : singleOf "boost" w.value = .ok z) : round .condition (q.boostWith w) = (do
      let t ← asked q
      if isSingleTest t then .ok (reweighed z t) else .error (.boostTarget t.display)) := by
  refine (round_boostedBy [w] hq).trans ?_
  cases ht : asked q with
  | error fault => rfl
  | ok t =>
    rw [ok_bind, ok_bind, attachAll_singleton hw, attachBoost_single (asked_question hq ht)]
    split
    · rename_i ht
      cases t with
      | predicate | interval => rfl
      | _ => cases ht
    · rfl

/-- A condition that becomes a test in the first round settles in the second. -/
theorem lower_to_test {settings : CompilerSettings} {e t : Expr} (h : round .condition e = .ok t)
    (ht : isSingleTest t = true) (hs : t.same e = false) : lower settings .condition e =
      if 1 < settings.maxRounds ∧ t.hasNaN = false then .ok t else .error (unsettled settings) := by
  by_cases hrounds : 1 < settings.maxRounds
  · have hone : rounds .condition 1 e = .ok t := by
      rw [rounds, h]
      rfl
    rw [lower_settled hrounds hone (round_test ht)]
    cases t.hasNaN <;> simp [hrounds]
  · have hnone : settle? .condition settings.maxRounds e = .ok none := by
      obtain hzero | hone : settings.maxRounds = 0 ∨ settings.maxRounds = 1 := by omega
      · rw [hzero, settle?]
      · rw [hone, settle?, h, ok_bind, hs, if_neg Bool.false_ne_true, settle?]
    rw [if_neg fun hand => hrounds hand.1, lower, hnone]
    rfl

theorem lower_ok_round {settings : CompilerSettings} {role : Role} {e r : Expr} (h : lower settings role e = .ok r) :
    ∃ next, round role e = .ok next := by
  obtain ⟨o, ho, h⟩ := bind_eq_ok.1 h
  cases hn : settings.maxRounds with
  | zero =>
    rw [hn] at ho
    cases ho
    cases h
  | succ n =>
    rw [hn] at ho
    obtain ⟨next, hnext, -⟩ := bind_eq_ok.1 ho
    exact ⟨next, hnext⟩

theorem lower_boostWith_single {settings : CompilerSettings} {q t : Expr} {w : Operand} {z : Binary32}
    (hq : Question false q) (hw : singleOf "boost" w.value = .ok z) (hasked : asked q = .ok t)
    (ht : isSingleTest t = true) : lower settings .condition (q.boostWith w) =
      if 1 < settings.maxRounds ∧ (reweighed z t).hasNaN = false then .ok (reweighed z t)
      else .error (unsettled settings) := by
  obtain ⟨htest, hnode⟩ := reweighed_test z ht
  have hround : round .condition (q.boostWith w) = .ok (reweighed z t) := by
    rw [round_boostWith_single hq hw, hasked, ok_bind, if_pos ht]
  exact lower_to_test hround htest (same_boostWith hnode w)

/-- With another boost, a question that is lowered to a test is lowered to that test with the other boost. -/
theorem lower_reweighed {settings : CompilerSettings} {q r : Expr} {v w : Operand} {y z : Binary32}
    (hq : Question false q) (hv : singleOf "boost" v.value = .ok y) (hw : singleOf "boost" w.value = .ok z)
    (hy : y.isNaN = false) (hz : z.isNaN = false) (h : lower settings .condition (q.boostWith w) = .ok r) :
    ∃ t, isSingleTest t = true ∧ r = reweighed z t ∧
      lower settings .condition (q.boostWith v) = .ok (reweighed y t) := by
  obtain ⟨next, hnext⟩ := lower_ok_round h
  rw [round_boostWith_single hq hw] at hnext
  obtain ⟨t, hasked, hnext⟩ := bind_eq_ok.1 hnext
  split at hnext
  · rename_i ht
    rw [lower_boostWith_single hq hw hasked ht] at h
    split at h
    · rename_i hsettles
      refine ⟨t, ht, (Except.ok.inj h).symm, ?_⟩
      rw [lower_boostWith_single hq hv hasked ht, hasNaN_reweighed hz hy ht, if_pos hsettles]
    · cases h
  · cases hnext

end Lowering

namespace Operand

/-- The amount gives a boost of value `2 ^ i`. -/
def Weighs (v : Operand) (i : Int) : Prop := ∃ x, singleOf "boost" v.value = .ok x ∧ x.IsPower i

/-- Every power of two of double width is an amount, as long as single width has it, too. -/
theorem weighs_float {x : Number.Binary64} {i : Int} (hx : x.IsPower i) (hi : Format.single.HasPower i) :
    ∃ v : Operand, v.value = .float x ∧ v.Weighs i := by
  have hproper : (Value.float x).isProper = true := by
    simp [Value.isProper, Value.isNull, Value.isNaN, hx.notNaN]
  exact ⟨.constant (.float x) hproper, rfl, _, rfl, hx.convert hi⟩

end Operand

namespace Compiler

variable {c : Compiler} {joined : Bool} {q : Expr} {u v w : Operand} {i j : Int} {f : Fragment}

/-- Two boosts around a question are compiled as one. -/
theorem condition_twice (c : Compiler) {x y : Binary32} (hq : Question joined q)
    (hu : singleOf "boost" u.value = .ok x) (hv : singleOf "boost" v.value = .ok y)
    (hw : singleOf "boost" w.value = .ok (stackedBoost joined x y)) :
    c.condition ((q.boostWith u).boostWith v) = c.condition (q.boostWith w) := by
  rw [condition, condition, Lowering.lower_stacked c.settings hq hu hv hw]

theorem condition_reweighed {y z : Binary32} (hq : Question false q) (hv : singleOf "boost" v.value = .ok y)
    (hw : singleOf "boost" w.value = .ok z) (hy : y.isNaN = false) (hz : z.isNaN = false)
    (h : c.condition (q.boostWith w) = .ok f) : ∃ f', c.condition (q.boostWith v) = .ok f' ∧ f.Alike f' := by
  obtain ⟨r, hr, h⟩ := bind_eq_ok.1 h
  obtain ⟨t, ht, rfl, hlower⟩ := Lowering.lower_reweighed hq hv hw hy hz hr
  have hbuilt := c.build_reweighed ht z y
  rw [h] at hbuilt
  obtain ⟨f', hf', halike⟩ := hbuilt.of_ok
  refine ⟨f', ?_, halike⟩
  rw [condition, hlower, ok_bind, hf']

/-- Boosts that are powers of two, one around the other. If a condition can be compiled with their product for a boost,
then it can with the two. On a compound the fragment is the same. On a single test it has the later boost alone, and
is otherwise the same. -/
theorem condition_stacked (hq : Question joined q) (hu : u.Weighs i) (hv : v.Weighs j) (hw : w.Weighs (i + j))
    (hf : c.condition (q.boostWith w) = .ok f) :
    ∃ f', c.condition ((q.boostWith u).boostWith v) = .ok f' ∧ f.Alike f' ∧ (joined = true → f' = f) ∧
      (joined = false → c.condition (q.boostWith v) = .ok f') := by
  obtain ⟨x, hx, hxi⟩ := hu
  obtain ⟨y, hy, hyj⟩ := hv
  obtain ⟨z, hz, hzij⟩ := hw
  cases joined with
  | true =>
    obtain rfl := hxi.mul hyj hzij
    refine ⟨f, ?_, ⟨rfl, rfl⟩, fun _ => rfl, nofun⟩
    rw [c.condition_twice hq hx hy hz, hf]
  | false =>
    obtain ⟨f', hf', halike⟩ := condition_reweighed hq hy hz hyj.notNaN hzij.notNaN hf
    refine ⟨f', ?_, halike, nofun, fun _ => hf'⟩
    rw [c.condition_twice hq hx hy hy, hf']

theorem condition_settled {k : Nat} {e t : Expr} (hk : k < c.settings.maxRounds) (h : rounds .condition k e = .ok t)
    (ht : round .condition t = .ok t) (hNaN : t.hasNaN = false) : c.condition e = c.build t := by
  rw [condition, Lowering.lower_settled hk h ht, hNaN]
  rfl

def amountTwo : Operand := .constant (.int 2) rfl
def amountFour : Operand := .constant (.int 4) rfl
def amountEight : Operand := .constant (.int 8) rfl

theorem amounts_weigh : amountTwo.Weighs 1 ∧ amountFour.Weighs 2 ∧ amountEight.Weighs 3 :=
  ⟨⟨_, rfl, rfl, by decide, 23, by decide, by decide⟩, ⟨_, rfl, rfl, by decide, 23, by decide, by decide⟩,
    ⟨_, rfl, rfl, by decide, 23, by decide, by decide⟩⟩

def earlyTitles : Expr :=
  binary .and (binary .greaterOrEqual (member (source "doc") "title" .text) (constant (.text "a")))
    (binary .less (member (source "doc") "title" .text) (constant (.text "m")))

theorem condition_stacked_titles : ∃ f, keywordPair.condition (earlyTitles.boostWith amountEight) = .ok f ∧
    keywordPair.condition ((earlyTitles.boostWith amountTwo).boostWith amountFour) = .ok f := by
  have hq : Question true earlyTitles := .join rfl (.comparison _ _ rfl) (.comparison _ _ rfl)
  obtain ⟨htwo, hfour, height⟩ := amounts_weigh
  have hf : keywordPair.condition (earlyTitles.boostWith amountEight) =
      .ok ⟨.range "title" ⟨some "a", some "m", true, false⟩ (.ofNat .single 8), .must⟩ :=
    (condition_settled (k := 1) (by decide) rfl rfl (by decide)).trans rfl
  obtain ⟨f', hf', -, hsame, -⟩ := condition_stacked hq htwo hfour height hf
  exact ⟨_, hf, by rw [hf', hsame rfl]⟩

def rustTitle : Expr := binary .equal (member (source "doc") "title" .text) (constant (.text "rust"))

/-- The boosts 2 and 4 on a single test leave the boost 4. -/
theorem boosts_on_test_not_multiplied : Question false rustTitle ∧
    (amountTwo.Weighs 1 ∧ amountFour.Weighs 2 ∧ amountEight.Weighs (1 + 2)) ∧
    keywordPair.condition (rustTitle.boostWith amountEight) =
      .ok ⟨.term "title" "rust" (.ofNat .single 8), .must⟩ ∧
    keywordPair.condition ((rustTitle.boostWith amountTwo).boostWith amountFour) =
      .ok ⟨.term "title" "rust" (.ofNat .single 4), .must⟩ ∧
    Binary.ofNat .single 4 ≠ Binary.ofNat .single 8 :=
  ⟨.comparison _ _ rfl, amounts_weigh, (condition_settled (k := 1) (by decide) rfl rfl (by decide)).trans rfl,
    (condition_settled (k := 1) (by decide) rfl rfl (by decide)).trans rfl, by decide⟩

end Compiler

end IndexQuery
