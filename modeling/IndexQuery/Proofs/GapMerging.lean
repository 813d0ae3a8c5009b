import IndexQuery.Proofs.BoundMerging

set_option autoImplicit false

/-!
A gap between two bounds and the interval it becomes.

Below one bound or above another is what the closed interval between the two leaves out, so that lowering excludes that
interval. For a document with a term in the field the two say the same, also where the bounds touch or cross. They part
over documents without one: those match neither bound, but are not in the interval either. `build_merged_gap` says so
for all bounds that are not null.
-/

namespace IndexQuery

open IndexQuery.Expr IndexQuery.Lowering

/-- The term that a document has in each field, if it has one there. -/
abbrev SparseDocument := String → Option String

namespace SparseDocument

variable (near : Nearness) (doc : SparseDocument)

/-- A query of a field matches no document that has no term in it. -/
def matchesLeaf (q : Query) : Bool :=
  match q.field?.bind doc with
  | some term => Document.matchesLeaf near (fun _ => term) q
  | none => false

theorem matchesLeaf_rangeOf (name : String) (terms : TermRange) :
    doc.matchesLeaf near (FieldMapping.rangeOf name terms) = (doc name).any terms.contains := by
  change (match doc name with
    | some term => Document.matchesLeaf near (fun _ => term) (FieldMapping.rangeOf name terms)
    | none => false) = _
  cases doc name <;> rfl

end SparseDocument

/-- The terms outside a closed range are those below its lower and those above its upper bound, in whichever order
the bounds are. -/
theorem TermRange.not_contains_closed (a b term : String) :
    (!contains ⟨some a, some b, true, true⟩ term) =
      ((Matching.less.side (some a)).contains term || (Matching.greater.side (some b)).contains term) := by
  change (!(decide (a ≤ term) && decide (term ≤ b))) = ((true && decide (term < a)) || (decide (b < term) && true))
  rw [Bool.not_and, ← decide_not, ← decide_not, Bool.true_and, Bool.and_true]
  simp only [not_le]

theorem Value.term?_of_not_null {v : Value} (h : v.isNull = false) : v.term? = some v.plain := by
  rw [term?, h, if_neg (by decide)]

namespace Compiler

variable {c : Compiler} {name : String} {sortKind : Option SortKind} {v w : Value} {below above : Predicate Expr}

theorem build_disjunction {a b : Predicate Expr} {f g : Fragment} (hf : c.predicateFragment a = .ok f)
    (hg : c.predicateFragment b = .ok g) :
    c.build (binary .or (predicate a) (predicate b)) = .ok (.alternatives [f, g] .must) := by
  change (c.fragments [.predicate a, .predicate b] >>= fun parts => pure (Fragment.alternatives parts .must)) = _
  rw [fragments, fragments, fragment, hf, fragment, hg]
  rfl

theorem boundsNode_excluded (hb : below.Requires name v) (ha : above.Requires name w)
    (hbm : below.matching = .less) (ham : above.matching = .greater) :
    boundsNode (binary .or (predicate below) (predicate above)) = interval (excluded below above) ∧
    boundsNode (binary .or (predicate above) (predicate below)) = interval (excluded below above) := by
  have hmerge : mergeable below above = true :=
    TestTree.mergeable_iff.2 ⟨hb.tests.trans ha.tests.symm, hb.required, ha.required⟩
  constructor
  · simp [boundsNode, gap?, hmerge, hbm, ham]
  · simp [boundsNode, gap?, TestTree.mergeable_symm hmerge, hbm, ham]

theorem excluded_leaf (hk : c.fields.resolve name = .keywordWith name sortKind) (hname : name ≠ FieldRef.anyName)
    (hb : below.Requires name v) (ha : above.Requires name w) (hbm : below.matching = .less)
    (ham : above.matching = .greater) :
    ∃ f, c.intervalFragment (excluded below above) = .ok f ∧ ∀ leaf, f.verdict leaf =
      !leaf (FieldMapping.rangeOf name ⟨v.term?, w.term?, true, true⟩) := by
  obtain ⟨f, hf, _, hverdict⟩ :=
    interval_leaf (r := excluded below above) hk hname hb.tests rfl rfl hb.valued ha.valued
  have hlower : (excluded below above).includesLower = true := by
    simp [excluded, Interval.includesLower, hbm, Matching.complement]
  have hupper : (excluded below above).includesUpper = true := by
    simp [excluded, Interval.includesUpper, ham, Matching.complement]
  rw [hlower, hupper] at hverdict
  -- The interval is one that must not match, which turns the verdict of its range around.
  exact ⟨f, hf, hverdict⟩

/-- Below one bound or above another, on a keyword field and for values that are not null: tests and excluded interval
both build, and have the same verdict on every document with a term in the field. A document without one fails the
tests and passes the interval. -/
theorem build_merged_gap (hk : c.fields.resolve name = .keywordWith name sortKind) (hname : name ≠ FieldRef.anyName)
    (hb : below.Requires name v) (ha : above.Requires name w) (hbm : below.matching = .less)
    (ham : above.matching = .greater) (hv : v.isNull = false) (hw : w.isNull = false) (e : Expr)
    (he : e = binary .or (predicate below) (predicate above) ∨
      e = binary .or (predicate above) (predicate below)) :
    ∃ tests merged, c.build e = .ok tests ∧ c.build (e.mapUp boundsNode) = .ok merged ∧
      ∀ near (doc : SparseDocument),
        (∀ term, doc name = some term →
          tests.verdict (doc.matchesLeaf near) = decide (term < v.plain ∨ w.plain < term) ∧
          merged.verdict (doc.matchesLeaf near) = tests.verdict (doc.matchesLeaf near)) ∧
        (doc name = none → tests.verdict (doc.matchesLeaf near) = false ∧
          merged.verdict (doc.matchesLeaf near) = true) := by
  obtain ⟨f, hf, hfv⟩ := bound_leaf hk hname hb (by rw [hbm]; rfl) hv
  obtain ⟨g, hg, hgv⟩ := bound_leaf hk hname ha (by rw [ham]; rfl) hw
  obtain ⟨m, hm, hmv⟩ := excluded_leaf hk hname hb ha hbm ham
  obtain ⟨hnode, hnode'⟩ := boundsNode_excluded hb ha hbm ham
  rw [hbm, Value.term?_of_not_null hv] at hfv
  rw [ham, Value.term?_of_not_null hw] at hgv
  rw [Value.term?_of_not_null hv, Value.term?_of_not_null hw] at hmv
  have hmerged : c.build (e.mapUp boundsNode) = .ok m := by
    have hmap : e.mapUp boundsNode = boundsNode e := by rcases he with rfl | rfl <;> rfl
    have hinterval : boundsNode e = interval (excluded below above) := by
      rcases he with rfl | rfl
      · exact hnode
      · exact hnode'
    rw [hmap, hinterval]
    exact hm
  -- Both orders of the operands offer the same two tests as alternatives.
  obtain ⟨tests, htests, hverdict⟩ : ∃ tests, c.build e = .ok tests ∧
      ∀ leaf, tests.verdict leaf = (f.verdict leaf || g.verdict leaf) := by
    rcases he with rfl | rfl
    · refine ⟨_, build_disjunction hf hg, fun leaf => ?_⟩
      rw [Fragment.alternatives_verdict]
      simp [Occur.verdict]
    · refine ⟨_, build_disjunction hg hf, fun leaf => ?_⟩
      rw [Fragment.alternatives_verdict]
      simp [Occur.verdict, Bool.or_comm]
  refine ⟨tests, m, htests, hmerged, fun near doc => ?_⟩
  simp only [hverdict, hfv, hgv, hmv, SparseDocument.matchesLeaf_rangeOf]
  constructor
  · intro term hterm
    rw [hterm]
    simp only [Option.any_some]
    refine ⟨?_, TermRange.not_contains_closed _ _ _⟩
    simp [TermRange.contains, Matching.side, Matching.isLowerBound, Matching.isInclusive]
  · intro hnone
    rw [hnone]
    exact ⟨rfl, rfl⟩

/-- The bounds cross, the upper one is a captured number and comes first: every term is outside. -/
theorem build_merged_gap_titles : ∃ tests merged,
    keywordPair.build (binary .or
      (predicate (titleBound .greater (captured ⟨"last", 0, .int 5⟩)))
      (predicate (titleBound .less (constant (.text "7"))))) = .ok tests ∧
    keywordPair.build (interval (excluded (titleBound .less (constant (.text "7")))
      (titleBound .greater (captured ⟨"last", 0, .int 5⟩)))) = .ok merged ∧
    ∀ near (doc : SparseDocument), doc "title" = some "6" →
      tests.verdict (doc.matchesLeaf near) = true ∧ merged.verdict (doc.matchesLeaf near) = true := by
  have hb : (titleBound .less (constant (.text "7"))).Requires "title" (.text "7") := titleBound_requires rfl
  have ha : (titleBound .greater (captured ⟨"last", 0, .int 5⟩)).Requires "title" (.int 5) := titleBound_requires rfl
  obtain ⟨tests, merged, ht, hm, h⟩ :=
    build_merged_gap resolve_title (by decide) hb ha rfl rfl rfl rfl _ (.inr rfl)
  refine ⟨tests, merged, ht, hm, fun near doc hdoc => ?_⟩
  obtain ⟨hverdict, hsame⟩ := (h near doc).1 "6" hdoc
  have htrue : tests.verdict (doc.matchesLeaf near) = true := by
    rw [hverdict]
    decide +kernel
  exact ⟨htrue, hsame.trans htrue⟩

/-- Below "g" or above "m": a document without a title is in neither part, yet outside the interval. -/
theorem untitled_outside_interval : ∃ tests merged,
    keywordPair.build (binary .or
      (predicate (titleBound .less (constant (.text "g"))))
      (predicate (titleBound .greater (constant (.text "m"))))) = .ok tests ∧
    keywordPair.build ((binary .or
      (predicate (titleBound .less (constant (.text "g"))))
      (predicate (titleBound .greater (constant (.text "m"))))).mapUp boundsNode) = .ok merged ∧
    ∀ near, tests.verdict (SparseDocument.matchesLeaf near fun _ => none) = false ∧
      merged.verdict (SparseDocument.matchesLeaf near fun _ => none) = true := by
  refine ⟨_, _, rfl, rfl, fun near => ?_⟩
  exact ⟨rfl, rfl⟩

end Compiler

end IndexQuery
