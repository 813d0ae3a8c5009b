import IndexQuery.Proofs.Faults
import IndexQuery.Proofs.Sameness

set_option autoImplicit false

/-!
Lowering settles, and settled trees stay.

Rounds that change a tree make it lighter, so that they come to an end (`rounds_settle`). The stopping test
cannot be fooled by what it does not see: a round whose result is the same as its input has changed nothing
at all, hence lowering twice is lowering once (`lower_lowered`). It can miss a settled tree, though: one that
differs from itself (`lower_fixed`).
-/

namespace IndexQuery.Lowering

open IndexQuery.Expr

def rounds (role : Role) : Nat → Expr → Except Error Expr
  | 0, e => .ok e
  | n + 1, e => do rounds role n (← round role e)

def unsettled (settings : CompilerSettings) : Error :=
  .internal ("lowering did not converge after " ++ toString settings.maxRounds ++ " rounds")

section

variable {role : Role} {e e' t : Expr}

theorem round_same (h : round role e = .ok e') (hs : e'.same e = true) : e' = e := by
  have hw := same_weight e' e hs
  rcases round_reduces h with rfl | hlt
  · rfl
  · omega

theorem rounds_fixed (h : round role e = .ok e) (n : Nat) : rounds role n e = .ok e := by
  induction n with
  | zero => rfl
  | succ n ih => rw [rounds, h, ok_bind, ih]

theorem rounds_outcome (role : Role) (e : Expr) : ∃ k ≤ e.weight,
    (∃ x, rounds role k e = .error x) ∨ ∃ t, rounds role k e = .ok t ∧ round role t = .ok t := by
  induction hw : e.weight using Nat.strongRecOn generalizing e with
  | ind w ih =>
    subst hw
    have hpos := e.weight_pos
    cases hr : round role e with
    | error x => exact ⟨1, hpos, .inl ⟨x, by rw [rounds, hr]; rfl⟩⟩
    | ok e' =>
      rcases round_reduces hr with rfl | hlt
      · exact ⟨0, by omega, .inr ⟨e', rfl, hr⟩⟩
      · obtain ⟨k, hk, ho⟩ := ih e'.weight hlt e' rfl
        refine ⟨k + 1, by omega, ?_⟩
        simpa only [rounds, hr, ok_bind] using ho

/-- With rounds to spare, the loop ends with the settled tree, unless that differs from itself. -/
theorem settle?_settled {k n : Nat} (hk : k < n) (h : rounds role k e = .ok t)
    (ht : round role t = .ok t) : settle? role n e = .ok (if t.hasNaN then none else some t) := by
  induction n generalizing k e with
  | zero => omega
  | succ n ih =>
    cases k with
    | zero =>
      obtain rfl := Except.ok.inj h
      rw [settle?, ht, ok_bind, same_self]
      cases hn : e.hasNaN with
      | false => rfl
      | true =>
        cases n with
        | zero => rfl
        | succ n => simpa [hn] using ih (Nat.zero_lt_succ n) h
    | succ k =>
      obtain ⟨e', he, hr⟩ := bind_eq_ok.1 h
      rw [settle?, he, ok_bind]
      split
      · rename_i hs
        -- the loop stops before round `k + 1`, but then on a fixed point, which is `t`
        obtain rfl := round_same he hs
        rw [rounds_fixed he k] at hr
        obtain rfl := Except.ok.inj hr
        rw [same_self] at hs
        simp only [Bool.not_eq_true'] at hs
        simp [hs, pure, Except.pure]
      · exact ih (by omega) hr

theorem settle?_failed {k n : Nat} {x : Error} (hk : k ≤ n) (h : rounds role k e = .error x) :
    settle? role n e = .error x := by
  induction k generalizing n e with
  | zero => cases h
  | succ k ih =>
    cases n with
    | zero => omega
    | succ n =>
      rcases bind_eq_error.1 h with he | ⟨e', he, hr⟩
      · rw [settle?, he]
        rfl
      · rw [settle?, he, ok_bind]
        split
        · rename_i hs
          obtain rfl := round_same he hs
          rw [rounds_fixed he k] at hr
          cases hr
        · exact ih (by omega) hr

theorem rounds_notInternal (role : Role) (k : Nat) (e : Expr) :
    FailsOnlyAs Error.NotInternal (rounds role k e) := by
  induction k generalizing e with
  | zero => exact .ok e
  | succ k ih => exact (round_notInternal role e).bind fun e' _ => ih e'

theorem lower_settled {settings : CompilerSettings} {k : Nat} (hk : k < settings.maxRounds)
    (h : rounds role k e = .ok t) (ht : round role t = .ok t) :
    lower settings role e = if t.hasNaN then .error (unsettled settings) else .ok t := by
  rw [lower, settle?_settled hk h ht, ok_bind]
  cases t.hasNaN <;> rfl

end

/-- Within three rounds per node, lowering fails in a round or reaches a tree that a further round leaves as
it is. With more rounds than that allowed, only a not-a-number in the settled tree makes it run out. -/
theorem rounds_settle (role : Role) (e : Expr) : ∃ k ≤ 3 * e.nodeCount,
    (∃ x, rounds role k e = .error x ∧ ∀ settings : CompilerSettings,
      3 * e.nodeCount < settings.maxRounds →
        lower settings role e = .error x ∧ lower settings role e ≠ .error (unsettled settings)) ∨
    (∃ t, rounds role k e = .ok t ∧ round role t = .ok t ∧ ∀ settings : CompilerSettings,
      3 * e.nodeCount < settings.maxRounds →
        (lower settings role e = .error (unsettled settings) ↔ t.hasNaN = true) ∧
        (t.hasNaN = false → lower settings role e = .ok t)) := by
  have hw := e.weight_le
  obtain ⟨k, hk, ⟨x, hx⟩ | ⟨t, ht, hfix⟩⟩ := rounds_outcome role e
  · refine ⟨k, by omega, .inl ⟨x, hx, fun settings hs => ?_⟩⟩
    have hl : lower settings role e = .error x := by
      rw [lower, settle?_failed (by omega) hx]
      rfl
    refine ⟨hl, ?_⟩
    rw [hl]
    rintro ⟨⟩
    exact rounds_notInternal role k e _ hx _ rfl
  · refine ⟨k, by omega, .inr ⟨t, ht, hfix, fun settings hs => ?_⟩⟩
    rw [lower_settled (by omega) ht hfix]
    cases t.hasNaN <;> simp

theorem settle?_some {role : Role} {n : Nat} {e r : Expr} (h : settle? role n e = .ok (some r)) :
    round role r = .ok r ∧ r.same r = true := by
  induction n generalizing e with
  | zero => cases h
  | succ n ih =>
    obtain ⟨e', he, hr⟩ := bind_eq_ok.1 h
    split at hr
    · rename_i hs
      obtain rfl := round_same he hs
      cases hr
      exact ⟨he, hs⟩
    · exact ih hr

theorem settle?_rounds {role : Role} {n : Nat} {e r : Expr} (h : settle? role n e = .ok (some r)) :
    ∃ k < n, rounds role k e = .ok r := by
  induction n generalizing e with
  | zero => cases h
  | succ n ih =>
    obtain ⟨e', he, hr⟩ := bind_eq_ok.1 h
    split at hr
    · rename_i hs
      obtain rfl := round_same he hs
      cases hr
      exact ⟨0, Nat.zero_lt_succ n, rfl⟩
    · obtain ⟨k, hk, hr⟩ := ih hr
      refine ⟨k + 1, Nat.succ_lt_succ hk, ?_⟩
      rw [rounds, he, ok_bind, hr]

theorem lower_lowered {settings : CompilerSettings} {role : Role} {e r : Expr}
    (h : lower settings role e = .ok r) :
    round role r = .ok r ∧ lower settings role r = .ok r := by
  obtain ⟨o, ho, h⟩ := bind_eq_ok.1 h
  cases o with
  | none => cases h
  | some lowered =>
    cases h
    obtain ⟨hfix, hs⟩ := settle?_some ho
    refine ⟨hfix, ?_⟩
    have hpos : 0 < settings.maxRounds := by
      rcases Nat.eq_zero_or_pos settings.maxRounds with hz | hz
      · rw [hz] at ho
        cases ho
      · exact hz
    have hn : r.hasNaN = false := by
      rw [same_self, Bool.not_eq_true'] at hs
      exact hs
    rw [lower_settled hpos rfl hfix, hn]
    rfl

/-- Two flags, one boosted and one a flag by conversion only: what sets their fields apart, the stopping test
does not see. -/
def flagPair : Expr :=
  binary .and (call (member (source "doc") "flag" .bool) .boost [constant (.int 3)])
    (convert (member (source "doc") "open" .text) .bool)

theorem lower_lowered_flags : ∃ r, lower .standard .condition flagPair = .ok r ∧
    round .condition r = .ok r ∧ lower .standard .condition r = .ok r := by
  have h : lower .standard .condition flagPair = _ := lower_settled (k := 1) (by decide) rfl rfl
  rw [if_neg (by decide)] at h
  exact ⟨_, h, lower_lowered h⟩

/-- Lowering returns a tree that a round leaves as it is, unless the tree holds a not-a-number. Then the stopping test
fails after every round, however many are allowed. -/
theorem lower_fixed {settings : CompilerSettings} {role : Role} {e : Expr} (hpos : 1 ≤ settings.maxRounds)
    (h : round role e = .ok e) :
    (lower settings role e = .ok e ↔ e.hasNaN = false) ∧
      (e.hasNaN = true → lower settings role e = .error (unsettled settings)) := by
  rw [lower_settled hpos rfl h]
  cases e.hasNaN <;> simp

def priceTest (price : Number.Binary64) : Expr :=
  predicate (Predicate.ofField (.ofName "price" .float64) .exact (constant (.float price)))

theorem lower_fixed_price : lower .standard .condition (priceTest (.one .double)) = .ok (priceTest (.one .double)) :=
  (lower_fixed (by decide) rfl).1.2 (by decide)

/-- A price is tested for not being a number: no round changes the test, and yet lowering runs out of rounds. -/
theorem nan_price_unsettled :
    round .condition (priceTest (.nan .double false)) = .ok (priceTest (.nan .double false)) ∧
    ∀ settings : CompilerSettings, 1 ≤ settings.maxRounds →
      lower settings .condition (priceTest (.nan .double false)) = .error (unsettled settings) := by
  refine ⟨rfl, fun settings hpos => ?_⟩
  rw [lower_settled hpos rfl rfl, if_pos (by decide)]

end IndexQuery.Lowering
