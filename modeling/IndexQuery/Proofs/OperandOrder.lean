import IndexQuery.Plan.Drafting
import IndexQuery.Proofs.ConditionTruth
import IndexQuery.Proofs.MirroredLowering

set_option autoImplicit false

/-!
The order of compared operands does not matter.

Building looks at the values of patterns and bounds only, and a condition that is nothing but a comparison of values is
refused whichever way round it stands. Together with the lowering of mirrored trees this gives that a condition and
its mirror image have the same fragment (`Compiler.condition_mirrored`).
-/

namespace IndexQuery.Compiler

open IndexQuery.Expr IndexQuery.Lowering

variable {c : Compiler} {e e' : Expr}

/-! ### Fragments -/

section

variable {p : Predicate Expr} {q : Expr} (h : Mirrored p.pattern q)

include h

theorem fieldFragment_mirrored (name : String) :
    Follows Eq (c.fieldFragment name p) (c.fieldFragment name { p with pattern := q }) :=
  h.evaluate.bind_eq _

theorem predicateFragment_mirrored :
    Follows Eq (c.predicateFragment p) (c.predicateFragment { p with pattern := q }) := by
  unfold predicateFragment
  dsimp only
  split
  · exact fieldFragment_mirrored h _
  · split
    · exact .error
    · exact (Follows.mapM (fun name => fieldFragment_mirrored (p := { p with occur := .must }) h name) _).bind_eq _

end

theorem boundText_mirrored (mapping : FieldMapping) {bound bound' : Option Expr}
    (h : Option.Rel Mirrored bound bound') : Follows Eq (boundText mapping bound) (boundText mapping bound') := by
  cases h with
  | none => exact .refl Eq.refl _
  | some h => exact h.evaluate.bind_eq _

theorem intervalFragment_mirrored {r : Interval Expr} {lower upper : Option Expr}
    (hl : Option.Rel Mirrored r.lower lower) (hu : Option.Rel Mirrored r.upper upper) :
    Follows Eq (c.intervalFragment r) (c.intervalFragment { r with lower := lower, upper := upper }) := by
  unfold intervalFragment
  dsimp only
  split
  · exact .error
  · refine (boundText_mirrored _ hl).bind ?_
    rintro lower _ rfl
    exact (boundText_mirrored _ hu).bind_eq _

theorem closedFragment_mirrored (h : Mirrored e e') : Follows Eq (closedFragment e) (closedFragment e') := by
  refine h.evaluate.bind ?_
  rintro v _ rfl
  split
  · exact .ok rfl
  · exact .ok rfl
  · exact .error

theorem restFragment_comparison {op : BinaryOp} (hop : op.isComparison = true) (left right : Expr) {f : Fragment} :
    restFragment (.binary op left right) ≠ .ok f := by
  rw [restFragment, if_pos hop]
  split <;> simp

theorem restFragment_mirrored (h : Mirrored e e') : Follows Eq (restFragment e) (restFragment e') := by
  have hm := h
  cases h with
  | refl e => exact .refl Eq.refl _
  | swapped hop => exact fun f hf => absurd hf (restFragment_comparison hop _ _)
  | binary op =>
    cases hop : op.isComparison with
    | true => exact fun f hf => absurd hf (restFragment_comparison hop _ _)
    | false =>
      simp only [restFragment, hop, Bool.false_eq_true, if_false, hm.isEvaluable_eq]
      split
      · exact closedFragment_mirrored hm
      · exact .error
  | _ =>
    simp only [restFragment, hm.isEvaluable_eq]
    split
    · exact closedFragment_mirrored hm
    · exact .error

theorem fragments_append_mirrored {as bs as' bs' : List Condition}
    (ha : Follows Eq (c.fragments as) (c.fragments as')) (hb : Follows Eq (c.fragments bs) (c.fragments bs')) :
    Follows Eq (c.fragments (as ++ bs)) (c.fragments (as' ++ bs')) := by
  intro parts hp
  obtain ⟨fs, gs, hfs, hgs, rfl⟩ := fragments_append hp
  obtain ⟨_, hfs', rfl⟩ := ha fs hfs
  obtain ⟨_, hgs', rfl⟩ := hb gs hgs
  exact ⟨fs ++ gs, fragments_append_ok hfs' hgs', rfl⟩

variable (c) in
/-- Two expressions with the same fragment, and with the same fragments where they are part of a chain. -/
structure BuildsAlike (e e' : Expr) : Prop where
  whole : Follows Eq (c.fragment (.ofExpr e)) (c.fragment (.ofExpr e'))
  conjuncts : Follows Eq (c.fragments (Condition.ofExpr e).conjuncts) (c.fragments (Condition.ofExpr e').conjuncts)
  disjuncts : Follows Eq (c.fragments (Condition.ofExpr e).disjuncts) (c.fragments (Condition.ofExpr e').disjuncts)

namespace BuildsAlike

theorem single (hc : (Condition.ofExpr e).conjuncts = [.ofExpr e]) (hc' : (Condition.ofExpr e').conjuncts = [.ofExpr e'])
    (hd : (Condition.ofExpr e).disjuncts = [.ofExpr e]) (hd' : (Condition.ofExpr e').disjuncts = [.ofExpr e'])
    (h : Follows Eq (c.fragment (.ofExpr e)) (c.fragment (.ofExpr e'))) : BuildsAlike c e e' := by
  have hs : Follows Eq (c.fragments [.ofExpr e]) (c.fragments [.ofExpr e']) := h.bind_eq _
  exact ⟨h, by rwa [hc, hc'], by rwa [hd, hd']⟩

theorem rest (hr : Condition.ofExpr e = .rest e) (hr' : Condition.ofExpr e' = .rest e') (h : Mirrored e e') :
    BuildsAlike c e e' := by
  refine single (by rw [hr]; rfl) (by rw [hr']; rfl) (by rw [hr]; rfl) (by rw [hr']; rfl) ?_
  rw [hr, hr']
  exact restFragment_mirrored h

variable {left right left' right' : Expr}

theorem and (hl : BuildsAlike c left left') (hr : BuildsAlike c right right') :
    BuildsAlike c (.binary .and left right) (.binary .and left' right') := by
  have hparts := fragments_append_mirrored hl.conjuncts hr.conjuncts
  have hwhole := hparts.bind_eq fun parts => return Fragment.conjunction parts
  exact ⟨hwhole, hparts, hwhole.bind_eq _⟩

theorem or (hl : BuildsAlike c left left') (hr : BuildsAlike c right right') :
    BuildsAlike c (.binary .or left right) (.binary .or left' right') := by
  have hparts := fragments_append_mirrored hl.disjuncts hr.disjuncts
  have hwhole := hparts.bind_eq fun parts => return Fragment.alternatives parts .must
  exact ⟨hwhole, hwhole.bind_eq _, hparts⟩

theorem of_mirrored : {e e' : Expr} → Mirrored e e' → BuildsAlike c e e'
  | _, _, .refl _ => ⟨.refl Eq.refl _, .refl Eq.refl _, .refl Eq.refl _⟩
  | _, _, .predicate _ h => single rfl rfl rfl rfl (predicateFragment_mirrored h)
  | _, _, .interval _ hl hu => single rfl rfl rfl rfl (intervalFragment_mirrored hl hu)
  | _, _, .binary op hl hr => by
    cases op with
    | and => exact and (of_mirrored hl) (of_mirrored hr)
    | or => exact or (of_mirrored hl) (of_mirrored hr)
    | _ => exact rest rfl rfl (.binary _ hl hr)
  | _, _, @Mirrored.swapped _ _ _ _ op hop hl hr => by
    cases op with
    | equal | notEqual | less | lessOrEqual | greater | greaterOrEqual => exact rest rfl rfl (.swapped hop hl hr)
    | _ => cases hop
  | _, _, .unary op h => by
    cases op with
    | not => exact single rfl rfl rfl rfl ((of_mirrored h).whole.bind_eq _)
    | negate => exact rest rfl rfl (.unary .negate h)
  | _, _, .boosted boost h => single rfl rfl rfl rfl ((of_mirrored h).whole.bind_eq _)
  | _, _, .member name kind h => rest rfl rfl (.member name kind h)
  | _, _, .call method h hs => rest rfl rfl (.call method h hs)
  | _, _, .invoke method hs => rest rfl rfl (.invoke method hs)
  | _, _, .convert kind h => rest rfl rfl (.convert kind h)

end BuildsAlike

theorem condition_follows (c : Compiler) (h : Mirrored e e') {f : Fragment} (hf : c.condition e = .ok f) :
    c.condition e' = .ok f := by
  have hb : Follows Eq (c.condition e) (c.condition e') :=
    (lower_mirrored c.settings .condition h).bind fun hr => (BuildsAlike.of_mirrored hr).whole
  obtain ⟨_, hf', rfl⟩ := hb f hf
  exact hf'

/-- A condition and its mirror image have the same fragment, or neither has one. -/
theorem condition_mirrored (c : Compiler) (h : Mirrored e e') (f : Fragment) :
    c.condition e = .ok f ↔ c.condition e' = .ok f :=
  ⟨condition_follows c h, condition_follows c h.symm⟩

/-- A title, a body by its three-way comparison with zero, a test compared with a truth value, and a flag compared with
a comparison. -/
def valuesLast : Expr :=
  binary .and (binary .equal (member (source "doc") "title" .text) (constant (.text "x")))
    (binary .or
      (binary .less (call (member (source "doc") "body" .text) .compareTo [constant (.text "m")]) (constant (.int 0)))
      (binary .and
        (binary .notEqual (call (member (source "doc") "title" .text) .startsWith [constant (.text "y")])
          (constant (.bool true)))
        (binary .equal (member (source "doc") "open" .bool) (binary .less (constant (.int 1)) (constant (.int 2))))))

def valuesFirst : Expr :=
  binary .and (binary .equal (constant (.text "x")) (member (source "doc") "title" .text))
    (binary .or
      (binary .greater (constant (.int 0)) (call (member (source "doc") "body" .text) .compareTo [constant (.text "m")]))
      (binary .and
        (binary .notEqual (constant (.bool true))
          (call (member (source "doc") "title" .text) .startsWith [constant (.text "y")]))
        (binary .equal (binary .greater (constant (.int 2)) (constant (.int 1))) (member (source "doc") "open" .bool))))

theorem condition_mirrored_values : Mirrored valuesLast valuesFirst ∧
    ∃ f, keywordPair.condition valuesLast = .ok f ∧ keywordPair.condition valuesFirst = .ok f := by
  have hm : Mirrored valuesLast valuesFirst :=
    .binary .and (.swapped rfl (.refl _) (.refl _)) (.binary .or (.swapped rfl (.refl _) (.refl _))
      (.binary .and (.swapped rfl (.refl _) (.refl _))
        (.swapped rfl (.refl _) (.swapped rfl (.refl _) (.refl _)))))
  have hok : (keywordPair.condition valuesLast).isOk = true := by decide +kernel
  cases hf : keywordPair.condition valuesLast with
  | error fault =>
    rw [hf] at hok
    cases hok
  | ok f => exact ⟨hm, f, rfl, (condition_mirrored keywordPair hm f).1 hf⟩

end IndexQuery.Compiler
