import IndexQuery.Proofs.BoundMerging

set_option autoImplicit false

/-!
Building what merging has made of a condition.

A test is built from one bound and an interval from two, so that merging two tests asks the mapping of their field for
something new: a query between two bounds. Their values and terms are known to be there, if the tests could be built.
Unless two tests of any field are merged, a condition that can be built can be built after the merging exactly if the
mappings of the merged fields make these queries (`build_merged`).
-/

namespace IndexQuery

open IndexQuery.Expr IndexQuery.Lowering

structure Interval.Spans (r : Interval Expr) (low high : Predicate Expr) : Prop where
  field : r.field = low.field
  name : low.field.name = high.field.name
  lower : r.lower = some low.pattern
  upper : r.upper = some high.pattern

namespace Lowering

/-- The interval comes of merging two bounds somewhere in the expression. -/
def Merges (e : Expr) (r : Interval Expr) : Prop := ∃ n ∈ e.postorder, merged? n = some r

variable {e left right : Expr} {op : BinaryOp} {r : Interval Expr}

/-- Only two tests are merged, and their patterns are the bounds. -/
theorem merged?_cases (h : merged? e = some r) : ∃ op a b, op.isLogical = true ∧
    e = binary op (predicate a) (predicate b) ∧ (r.Spans a b ∨ r.Spans b a) := by
  unfold merged? at h
  split at h
  · rename_i a b
    obtain ⟨hm, hr⟩ := conjoined?_cases h
    obtain ⟨hname, _, _⟩ := TestTree.mergeable_iff.1 hm
    refine ⟨_, a, b, rfl, rfl, ?_⟩
    rcases hr with ⟨_, _, rfl⟩ | ⟨_, _, rfl⟩
    · exact .inl ⟨rfl, hname, rfl, rfl⟩
    · exact .inr ⟨rfl, hname.symm, rfl, rfl⟩
  · rename_i a b
    obtain ⟨hm, hr⟩ := gap?_cases h
    obtain ⟨hname, _, _⟩ := TestTree.mergeable_iff.1 hm
    refine ⟨_, a, b, rfl, rfl, ?_⟩
    rcases hr with ⟨_, _, rfl⟩ | ⟨_, _, rfl⟩
    · exact .inl ⟨rfl, hname, rfl, rfl⟩
    · exact .inr ⟨rfl, hname.symm, rfl, rfl⟩
  · cases h

/-- A pair is merged in the tree that the walk has reached as it would be in the tree itself. -/
theorem merged?_mapUp (op : BinaryOp) (left right : Expr) :
    merged? (binary op (left.mapUp boundsNode) (right.mapUp boundsNode)) = merged? (binary op left right) := by
  by_cases hpair : ∃ a b, left = predicate a ∧ right = predicate b
  · obtain ⟨a, b, rfl, rfl⟩ := hpair
    rfl
  · have hnone : ∀ x y, (¬∃ a b, x = predicate a ∧ y = predicate b) → merged? (binary op x y) = none := by
      intro x y hxy
      cases hm : merged? (binary op x y) with
      | none => rfl
      | some r =>
        obtain ⟨_, a, b, _, hpredicates, _⟩ := merged?_cases hm
        obtain ⟨_, rfl, rfl⟩ := binary.inj hpredicates
        exact absurd ⟨a, b, rfl, rfl⟩ hxy
    rw [hnone left right hpair, hnone]
    rintro ⟨a, b, hl, hr⟩
    exact hpair ⟨a, b, of_bounds_predicate hl, of_bounds_predicate hr⟩

theorem merges_iff : Merges e r ↔ r ∈ e.postorder.filterMap merged? := List.mem_filterMap.symm

theorem merges_binary : Merges (binary op left right) r ↔
    Merges left r ∨ Merges right r ∨ merged? (binary op left right) = some r := by
  simp only [Merges, postorder, List.mem_append, List.mem_singleton, or_and_right, exists_or, exists_eq_left,
    or_assoc]

theorem merges_unary {op : UnaryOp} {operand : Expr} : Merges (unary op operand) r ↔ Merges operand r := by
  simp [Merges, postorder, or_and_right, exists_or, merged?]

theorem merges_boosted {target : Expr} {boost : Number.Binary32} :
    Merges (boosted target boost) r ↔ Merges target r := by
  simp [Merges, postorder, or_and_right, exists_or, merged?]

theorem not_merges (h : e.referencesDocument = false) : ¬Merges e r := by
  rintro ⟨n, hn, hm⟩
  obtain ⟨op, a, b, _, rfl, _⟩ := merged?_cases hm
  have ha : predicate a ∈ e.postorder := postorder_subset hn (by simp [postorder])
  have hnode : isDocumentNode (predicate a) = false := (any_eq_false isDocumentNode).1 h _ ha
  cases hnode

theorem bounds_fixed (h : ∀ r, ¬Merges e r) : e.mapUp boundsNode = e := by
  refine mapUp_fixed boundsNode fun n hn => boundsNode_of_none ?_
  cases hm : merged? n with
  | none => rfl
  | some r => exact absurd ⟨n, hn, hm⟩ (h r)

end Lowering

namespace Compiler

variable (c : Compiler)

def TakesRange (r : Interval Expr) : Prop :=
  ∀ lower upper, boundText (c.fields.resolve r.field.name) r.lower = .ok lower →
    boundText (c.fields.resolve r.field.name) r.upper = .ok upper →
      ∃ q, (c.fields.resolve r.field.name).rangeQuery ⟨lower, upper, r.includesLower, r.includesUpper⟩ = .ok q

variable {c} {r : Interval Expr}

theorem takesRange_of_keyword {name : String} {sortKind : Option SortKind}
    (h : c.fields.resolve r.field.name = .keywordWith name sortKind) : c.TakesRange r := by
  intro lower upper _ _
  rw [h]
  exact ⟨_, rfl⟩

theorem boundText_of_buildable {p : Predicate Expr} (h : c.Buildable (predicate p)) (hp : p.field.isAny = false) :
    ∃ text, boundText (c.fields.resolve p.field.name) (some p.pattern) = .ok text := by
  obtain ⟨f, hf⟩ := h.whole
  rcases predicateFragment_ok hf with ⟨_, hf⟩ | ⟨hany, _⟩
  · obtain ⟨value, hv, ⟨hn, _⟩ | ⟨hn, text, _, ht, _⟩⟩ := fieldFragment_ok hf
    · refine ⟨none, ?_⟩
      rw [boundText, hv, ok_bind, if_pos hn]
      rfl
    · refine ⟨some text, ?_⟩
      rw [boundText, hv, ok_bind, if_neg (by simp [hn]), ht]
      rfl
  · rw [hp] at hany
    cases hany

theorem interval_buildable {low high : Predicate Expr} (hs : r.Spans low high) (hr : r.field.isAny = false)
    (hl : c.Buildable (predicate low)) (hh : c.Buildable (predicate high)) :
    c.Buildable (interval r) ↔ c.TakesRange r := by
  have hlow : low.field.isAny = false := hs.field ▸ hr
  have hhigh : high.field.isAny = false := by
    rw [FieldRef.isAny, ← hs.name]
    exact hlow
  obtain ⟨lower, hlower⟩ := boundText_of_buildable hl hlow
  obtain ⟨upper, hupper⟩ := boundText_of_buildable hh hhigh
  rw [← hs.field, ← hs.lower] at hlower
  rw [← hs.name, ← hs.field, ← hs.upper] at hupper
  have hfragment : c.build (interval r) = c.intervalFragment r := rfl
  rw [buildable_iff, hfragment]
  constructor
  · rintro ⟨f, hf⟩ lower' upper' hlower' hupper'
    obtain ⟨_, _, q, hl', hu', hq, _⟩ := intervalFragment_ok hf
    obtain rfl := Except.ok.inj (hl'.symm.trans hlower')
    obtain rfl := Except.ok.inj (hu'.symm.trans hupper')
    exact ⟨q, hq⟩
  · intro htakes
    obtain ⟨q, hq⟩ := htakes lower upper hlower hupper
    refine ⟨⟨withBoost r.boost q, r.occur⟩, ?_⟩
    rw [intervalFragment, if_neg (by simp [hr])]
    simp only [hlower, hupper, hq, ok_bind]
    rfl

/-- One step of the walk: the node is merged, or stands as it is. -/
theorem join_merged {op : BinaryOp} (hop : op.isLogical = true) {left right : Expr}
    (h : c.Buildable (binary op left right)) (hr : ∀ r, Merges (binary op left right) r → r.field.isAny = false)
    (hleft : c.Buildable (left.mapUp boundsNode) ↔ ∀ r, Merges left r → c.TakesRange r)
    (hright : c.Buildable (right.mapUp boundsNode) ↔ ∀ r, Merges right r → c.TakesRange r) :
    c.Buildable ((binary op left right).mapUp boundsNode) ↔
      ∀ r, Merges (binary op left right) r → c.TakesRange r := by
  have hjoin : ∀ x y, c.Buildable (binary op x y) ↔ c.Buildable x ∧ c.Buildable y := by
    intro x y
    rcases BinaryOp.logical_cases hop with rfl | rfl
    · exact buildable_and
    · exact buildable_or
  rw [mapUp_binary]
  cases hm : merged? (binary op left right) with
  | none =>
    have hstays := (merged?_mapUp op left right).trans hm
    rw [boundsNode_of_none hstays, hjoin, hleft, hright]
    simp only [merges_binary, hm, reduceCtorEq, or_false, or_imp, forall_and]
  | some t =>
    have ht : c.Buildable (interval t) ↔ c.TakesRange t := by
      have hany := hr t (merges_binary.2 (.inr (.inr hm)))
      obtain ⟨_, a, b, _, hpair, hspans⟩ := merged?_cases hm
      obtain ⟨_, rfl, rfl⟩ := binary.inj hpair
      obtain ⟨ha, hb⟩ := (hjoin _ _).1 h
      rcases hspans with hs | hs
      · exact interval_buildable hs hany ha hb
      · exact interval_buildable hs hany hb ha
    -- Below a merged node there are only the two tests, so that nothing else is merged there.
    have hleaf : ∀ r, Merges (binary op left right) r ↔ r = t := by
      intro r
      obtain ⟨_, a, b, _, hpair, _⟩ := merged?_cases hm
      obtain ⟨_, rfl, rfl⟩ := binary.inj hpair
      rw [merges_binary, hm]
      simp [Merges, postorder, merged?, eq_comm]
    rw [boundsNode_of_merged ((merged?_mapUp op left right).trans hm), ht]
    simp only [hleaf, forall_eq]

theorem rest_merged {e : Expr} (hrest : Condition.ofExpr e = .rest e) (h : c.Buildable e) :
    c.Buildable (e.mapUp boundsNode) ↔ ∀ r, Merges e r → c.TakesRange r := by
  -- It is built by evaluating it, so that it has no tests.
  have hnone : ∀ r, ¬Merges e r := by
    intro r
    have he := isEvaluable_of_buildable hrest h
    simp only [isEvaluable, Bool.and_eq_true, Bool.not_eq_true'] at he
    exact not_merges he.1
  rw [bounds_fixed hnone]
  exact ⟨fun _ r hr => absurd hr (hnone r), fun _ => h⟩

theorem buildable_merged : (e : Expr) → c.Buildable e → (∀ r, Merges e r → r.field.isAny = false) →
    (c.Buildable (e.mapUp boundsNode) ↔ ∀ r, Merges e r → c.TakesRange r)
  | .predicate p, h, _ => by
    have hnone : ∀ r, ¬Merges (predicate p) r := by simp [Merges, postorder, merged?]
    exact ⟨fun _ r hr => absurd hr (hnone r), fun _ => h⟩
  | .interval t, h, _ => by
    have hnone : ∀ r, ¬Merges (interval t) r := by simp [Merges, postorder, merged?]
    exact ⟨fun _ r hr => absurd hr (hnone r), fun _ => h⟩
  | .binary op left right, h, hr => by
    have hparts : c.Buildable left → c.Buildable right → op.isLogical = true →
        (c.Buildable ((binary op left right).mapUp boundsNode) ↔
          ∀ r, Merges (binary op left right) r → c.TakesRange r) := by
      intro hl hright hop
      refine join_merged hop h hr (buildable_merged left hl fun r hm => ?_)
        (buildable_merged right hright fun r hm => ?_)
      · exact hr r (merges_binary.2 (.inl hm))
      · exact hr r (merges_binary.2 (.inr (.inl hm)))
    cases op with
    | and => exact hparts (buildable_and.1 h).1 (buildable_and.1 h).2 rfl
    | or => exact hparts (buildable_or.1 h).1 (buildable_or.1 h).2 rfl
    | _ => exact rest_merged rfl h
  | .unary op operand, h, hr => by
    cases op with
    | not =>
      have hmap : (unary .not operand).mapUp boundsNode = unary .not (operand.mapUp boundsNode) := rfl
      rw [hmap, buildable_not, buildable_merged operand (buildable_not.1 h) fun r hm => hr r (merges_unary.2 hm)]
      simp only [merges_unary]
    | negate => exact rest_merged rfl h
  | .boosted target boost, h, hr => by
    have hmap : (boosted target boost).mapUp boundsNode = boosted (target.mapUp boundsNode) boost := rfl
    rw [hmap, buildable_boosted,
      buildable_merged target (buildable_boosted.1 h) fun r hm => hr r (merges_boosted.2 hm)]
    simp only [merges_boosted]
  | .constant _, h, _ | .captured _, h, _ | .source _, h, _ | .member _ _ _, h, _ | .call _ _ _, h, _
  | .invoke _ _, h, _ | .conditional _ _ _, h, _ | .convert _ _, h, _ | .field _, h, _ | .relevance, h, _
  | .anyField, h, _ => rest_merged rfl h

/-- A condition that can be built, none of whose merged pairs tests any field, can be built after the merging exactly if
the mapping of each merged pair makes a query between its two bounds. -/
theorem build_merged {e : Expr} {f : Fragment} (h : c.build e = .ok f)
    (hsingle : ∀ r, Merges e r → r.field.isAny = false) :
    (∃ g, c.build (e.mapUp boundsNode) = .ok g) ↔ ∀ r, Merges e r → c.TakesRange r := by
  rw [← buildable_iff]
  exact buildable_merged e (buildable_iff.2 ⟨f, h⟩) hsingle

/-- Neither between two bounds, one of them null, nor outside two others. -/
def excludedTitles : Expr :=
  unary .not (binary .or
    (boosted (binary .and (predicate (titleBound .less (captured ⟨"last", 0, .int 7⟩)))
      (predicate (titleBound .greaterOrEqual (constant .null)))) (.ofNat .single 2))
    (binary .or (predicate (titleBound .less (constant (.text "b"))))
      (predicate (titleBound .greater (constant (.text "y"))))))

theorem build_merged_titles : excludedTitles.mapUp boundsNode ≠ excludedTitles ∧
    ∃ g, keywordPair.build (excludedTitles.mapUp boundsNode) = .ok g := by
  have hmerges : ∀ r, Merges excludedTitles r → r.field = .ofName "title" .text := by
    intro r hr
    rw [merges_iff] at hr
    change r ∈ [between _ _, excluded _ _] at hr
    simp only [List.mem_cons, List.not_mem_nil, or_false] at hr
    rcases hr with rfl | rfl <;> rfl
  constructor
  · intro hsame
    cases hsame
  · refine (build_merged (e := excludedTitles) (by rfl) fun r hr => ?_).2 fun r hr => ?_
    · rw [hmerges r hr]
      rfl
    · have hk : keywordPair.fields.resolve r.field.name = .keywordWith "title" (some .string) := by
        rw [hmerges r hr]
        rfl
      exact takesRange_of_keyword hk

/-- Fields that can be searched from a bound on or up to a bound, but not between two. -/
def halfOpenTitles : Compiler :=
  ⟨⟨fun name => some { FieldMapping.keyword name with
      rangeQuery := fun terms =>
        if terms.lower.isSome && terms.upper.isSome then
          .error (.invalidArgument ("field `" ++ name ++ "` takes one bound"))
        else .ok (FieldMapping.rangeOf name terms) }, ["title"]⟩, .standard⟩

/-- From one bound on and up to another: merged, the tests of any field cannot be built, nor can those of a field whose
mapping makes no query between two bounds. -/
theorem merged_bounds_refused :
    (∃ tests, keywordPair.build (binary .and
      (predicate (.ofField .any .greaterOrEqual (constant (.text "a"))))
      (predicate (.ofField .any .less (constant (.text "m"))))) = .ok tests) ∧
    (∃ x, keywordPair.build ((binary .and
      (predicate (.ofField .any .greaterOrEqual (constant (.text "a"))))
      (predicate (.ofField .any .less (constant (.text "m"))))).mapUp boundsNode) = .error x) ∧
    (∃ tests, halfOpenTitles.build (binary .and
      (predicate (titleBound .greaterOrEqual (constant (.text "a"))))
      (predicate (titleBound .less (constant (.text "m"))))) = .ok tests) ∧
    ∃ x, halfOpenTitles.build ((binary .and
      (predicate (titleBound .greaterOrEqual (constant (.text "a"))))
      (predicate (titleBound .less (constant (.text "m"))))).mapUp boundsNode) = .error x :=
  ⟨⟨_, rfl⟩, ⟨_, rfl⟩, ⟨_, rfl⟩, ⟨_, rfl⟩⟩

end Compiler

end IndexQuery
