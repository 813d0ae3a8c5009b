import IndexQuery.Plan.Drafting
import IndexQuery.Proofs.Building
import IndexQuery.Proofs.ConditionTruth
import IndexQuery.Proofs.RetypedLowering

set_option autoImplicit false

/-!
Conditions do not depend on declared kinds, flags apart.

Which field a test is on and what it is held against are all that building asks of it; the kind of the field is never
read. Together with the lowering of retyped trees this gives that declaring other kinds for the members of a condition,
none of them a flag before or after, leaves its fragment or its failure as it was (`Compiler.condition_retyped`).
-/

namespace IndexQuery.Compiler

open IndexQuery.Expr IndexQuery.Lowering

variable {c : Compiler} {e e' : Expr}

/-! ### Tests -/

section

variable (p : Predicate Expr) (k : ScalarKind) {q : Expr} (h : Retyped p.pattern q)

include h

theorem fieldFragment_retyped (name : String) :
    c.fieldFragment name { p with field := { p.field with kind := k }, pattern := q } = c.fieldFragment name p := by
  rw [fieldFragment, fieldFragment, h.evaluate_eq]
  rfl

theorem predicateFragment_retyped :
    c.predicateFragment { p with field := { p.field with kind := k }, pattern := q } = c.predicateFragment p := by
  have hany : FieldRef.isAny { p.field with kind := k } = p.field.isAny := rfl
  have hparts := funext (fieldFragment_retyped (c := c) { p with occur := .must } k h)
  rw [predicateFragment, predicateFragment, hany]
  dsimp only at hparts ⊢
  rw [fieldFragment_retyped p k h, hparts]

end

theorem boundText_retyped (mapping : FieldMapping) {bound bound' : Option Expr}
    (h : Option.Rel Retyped bound bound') : boundText mapping bound' = boundText mapping bound := by
  cases h with
  | none => rfl
  | some h => rw [boundText, boundText, h.evaluate_eq]

theorem intervalFragment_retyped (r : Interval Expr) {k : ScalarKind} {lower upper : Option Expr}
    (hk : r.field.kind.Alike k) (hl : Option.Rel Retyped r.lower lower) (hu : Option.Rel Retyped r.upper upper) :
    c.intervalFragment { r with field := { r.field with kind := k }, lower := lower, upper := upper } =
      c.intervalFragment r := by
  have hany : FieldRef.isAny { r.field with kind := k } = r.field.isAny := rfl
  have htext := (Retyped.interval r hk hl hu).display_eq
  rw [display, display, String.append_left_inj, String.append_right_inj] at htext
  rw [intervalFragment, intervalFragment, hany, htext]
  dsimp only
  rw [boundText_retyped _ hl, boundText_retyped _ hu]
  rfl

/-! ### Conditions of values only -/

theorem closedFragment_retyped (h : Retyped e e') : closedFragment e' = closedFragment e := by
  rw [closedFragment, closedFragment, h.evaluate_eq, h.display_eq]

theorem restFragment_retyped (h : Retyped e e') : restFragment e' = restFragment e := by
  have hm := h
  cases h with
  | binary op hl hr =>
    simp only [restFragment, hm.isEvaluable_eq, hm.display_eq, closedFragment_retyped hm, ← Option.not_isSome,
      hl.isSome_fieldOperand?, hr.isSome_fieldOperand?]
  | _ => simp only [restFragment, hm.isEvaluable_eq, hm.display_eq, closedFragment_retyped hm]

/-! ### Chains -/

variable (c) in
/-- Two expressions that are built into the same fragment or fail alike, also where they are part of a chain. -/
structure BuildsSame (e e' : Expr) : Prop where
  whole : c.fragment (.ofExpr e') = c.fragment (.ofExpr e)
  conjuncts : c.fragments (Condition.ofExpr e').conjuncts = c.fragments (Condition.ofExpr e).conjuncts
  disjuncts : c.fragments (Condition.ofExpr e').disjuncts = c.fragments (Condition.ofExpr e).disjuncts

namespace BuildsSame

theorem single (hc : (Condition.ofExpr e).conjuncts = [.ofExpr e]) (hc' : (Condition.ofExpr e').conjuncts = [.ofExpr e'])
    (hd : (Condition.ofExpr e).disjuncts = [.ofExpr e]) (hd' : (Condition.ofExpr e').disjuncts = [.ofExpr e'])
    (h : c.fragment (.ofExpr e') = c.fragment (.ofExpr e)) : BuildsSame c e e' := by
  have hs : c.fragments [.ofExpr e'] = c.fragments [.ofExpr e] := by simp only [fragments, h]
  exact ⟨h, by rwa [hc, hc'], by rwa [hd, hd']⟩

theorem rest (hr : Condition.ofExpr e = .rest e) (hr' : Condition.ofExpr e' = .rest e') (h : Retyped e e') :
    BuildsSame c e e' := by
  refine single (by rw [hr]; rfl) (by rw [hr']; rfl) (by rw [hr]; rfl) (by rw [hr']; rfl) ?_
  rw [hr, hr', fragment, fragment, restFragment_retyped h]

variable {left right left' right' : Expr}

theorem and (hl : BuildsSame c left left') (hr : BuildsSame c right right') :
    BuildsSame c (.binary .and left right) (.binary .and left' right') := by
  have hparts : c.fragments (Condition.ofExpr (.binary .and left' right')).conjuncts =
      c.fragments (Condition.ofExpr (.binary .and left right)).conjuncts := by
    change c.fragments (_ ++ _) = c.fragments (_ ++ _)
    rw [fragments_append_eq, fragments_append_eq, hl.conjuncts, hr.conjuncts]
  have hwhole : c.fragment (.ofExpr (.binary .and left' right')) = c.fragment (.ofExpr (.binary .and left right)) :=
    congrArg (fun parts => do return Fragment.conjunction (← parts)) hparts
  exact ⟨hwhole, hparts, congrArg (fun f => do return [← f]) hwhole⟩

theorem or (hl : BuildsSame c left left') (hr : BuildsSame c right right') :
    BuildsSame c (.binary .or left right) (.binary .or left' right') := by
  have hparts : c.fragments (Condition.ofExpr (.binary .or left' right')).disjuncts =
      c.fragments (Condition.ofExpr (.binary .or left right)).disjuncts := by
    change c.fragments (_ ++ _) = c.fragments (_ ++ _)
    rw [fragments_append_eq, fragments_append_eq, hl.disjuncts, hr.disjuncts]
  have hwhole : c.fragment (.ofExpr (.binary .or left' right')) = c.fragment (.ofExpr (.binary .or left right)) :=
    congrArg (fun parts => do return Fragment.alternatives (← parts) .must) hparts
  exact ⟨hwhole, congrArg (fun f => do return [← f]) hwhole, hparts⟩

theorem of_retyped : {e e' : Expr} → Retyped e e' → BuildsSame c e e'
  | _, _, .predicate p _ h => single rfl rfl rfl rfl (predicateFragment_retyped p _ h)
  | _, _, .interval r hk hl hu => single rfl rfl rfl rfl (intervalFragment_retyped r hk hl hu)
  | _, _, .binary op hl hr => by
    cases op with
    | and => exact and (of_retyped hl) (of_retyped hr)
    | or => exact or (of_retyped hl) (of_retyped hr)
    | _ => exact rest rfl rfl (.binary _ hl hr)
  | _, _, .unary op h => by
    cases op with
    | not =>
      exact single rfl rfl rfl rfl (congrArg (fun f => do return (← f).negated) (of_retyped h).whole)
    | negate => exact rest rfl rfl (.unary .negate h)
  | _, _, .boosted boost h =>
    single rfl rfl rfl rfl (congrArg (fun f => do return (← f).boostedBy boost) (of_retyped h).whole)
  | _, _, .constant v => rest rfl rfl (.constant v)
  | _, _, .captured v => rest rfl rfl (.captured v)
  | _, _, .source name => rest rfl rfl (.source name)
  | _, _, .field ref hk => rest rfl rfl (.field ref hk)
  | _, _, .relevance => rest rfl rfl .relevance
  | _, _, .anyField => rest rfl rfl .anyField
  | _, _, .member name hk h => rest rfl rfl (.member name hk h)
  | _, _, .call method h hs => rest rfl rfl (.call method h hs)
  | _, _, .invoke method hs => rest rfl rfl (.invoke method hs)
  | _, _, .convert kind h => rest rfl rfl (.convert kind h)

end BuildsSame

/-- Conditions that differ in declared kinds, flags apart, have the same fragment or fail with the same error. -/
theorem condition_retyped (c : Compiler) (h : Retyped e e') : c.condition e = c.condition e' := by
  have hlow : Lockstep Eq (c.condition e) (c.condition e') :=
    (lower_retyped c.settings .condition h).bind fun {a b} hr => by
      change Lockstep Eq (c.fragment (.ofExpr a)) (c.fragment (.ofExpr b))
      rw [(BuildsSame.of_retyped hr).whole]
      exact .of_result fun _ _ => rfl
  exact hlow.eq

/-- Names of authors between two letters, and an open book or one whose year is not the given one; `outer` and `inner`
are the kinds declared for the author and for the name, and `year` is the one of the year. -/
def authorsBetween (outer inner year : ScalarKind) : Expr :=
  let name := member (member (source "doc") "author" outer) "name" inner
  binary .and
    (binary .and (binary .greaterOrEqual name (constant (.text "a"))) (binary .less name (constant (.text "m"))))
    (binary .or (member (source "doc") "open" .bool)
      (unary .not (binary .equal (constant (.int 2020)) (convert (member (source "doc") "year" year) .int64))))

theorem condition_retyped_authors :
    Retyped (authorsBetween .other .text .int64) (authorsBetween .text .datetime .float64) ∧
      ∃ f, keywordPair.condition (authorsBetween .other .text .int64) = .ok f ∧
        keywordPair.condition (authorsBetween .text .datetime .float64) = .ok f := by
  have hname : Retyped (member (member (source "doc") "author" .other) "name" .text)
      (member (member (source "doc") "author" .text) "name" .datetime) :=
    .member "name" (by decide) (.member "author" (by decide) (.source "doc"))
  have hyear : Retyped (member (source "doc") "year" .int64) (member (source "doc") "year" .float64) :=
    .member "year" (by decide) (.source "doc")
  have hr : Retyped (authorsBetween .other .text .int64) (authorsBetween .text .datetime .float64) :=
    .binary .and
      (.binary .and (.binary .greaterOrEqual hname (.constant _)) (.binary .less hname (.constant _)))
      (.binary .or (.member "open" Iff.rfl (.source "doc"))
        (.unary .not (.binary .equal (.constant _) (.convert .int64 hyear))))
  have hok : (keywordPair.condition (authorsBetween .other .text .int64)).isOk = true := by decide +kernel
  cases hf : keywordPair.condition (authorsBetween .other .text .int64) with
  | error fault =>
    rw [hf] at hok
    cases hok
  | ok f => exact ⟨hr, f, rfl, (condition_retyped keywordPair hr).symm.trans hf⟩

end IndexQuery.Compiler
