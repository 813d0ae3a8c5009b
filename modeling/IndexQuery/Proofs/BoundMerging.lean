import IndexQuery.Proofs.FormulaTruth

set_option autoImplicit false

/-!
Two bounds of a conjunction and the interval they become.

The interval of a lower and an upper bound on a keyword field asks for the terms between the two values. Built one by
one, two bounds that are not null ask for the same terms. A null bound is read in two ways: the interval leaves that
side open, whereas a test against null asks that the field have no value. `build_merged_bounds` says what this makes
of a conjunction before and after the merging, for all values of the bounds.
-/

namespace IndexQuery

open IndexQuery.Expr IndexQuery.Lowering

/-- The term a keyword field has for a value; null has none. -/
def Value.term? (v : Value) : Option String := if v.isNull then none else some v.plain

/-- The terms on the side of a bound that a comparison asks for. -/
def Matching.side (m : Matching) (bound : Option String) : TermRange :=
  if m.isLowerBound then ⟨bound, none, m.isInclusive, false⟩ else ⟨none, bound, false, m.isInclusive⟩

theorem Matching.side_none (m : Matching) (term : String) : (m.side none).contains term = true := by
  unfold side
  split <;> rfl

/-- A term lies between two bounds if it lies on the right side of each. -/
theorem TermRange.contains_between {lower upper : Matching} (hl : lower.isLowerBound = true)
    (hu : upper.isUpperBound = true) (a b : Option String) (term : String) :
    contains ⟨a, b, lower == .greaterOrEqual, upper == .lessOrEqual⟩ term =
      ((lower.side a).contains term && (upper.side b).contains term) := by
  cases lower <;> cases hl <;> cases upper <;> cases hu <;>
    simp [contains, Matching.side, Matching.isLowerBound, Matching.isInclusive]

/-- A required test of a field against a pattern with a known value. -/
structure Predicate.Requires (p : Predicate Expr) (name : String) (value : Value) : Prop where
  tests : p.field.name = name
  required : p.occur = .must
  valued : p.pattern.evaluate = .ok value

namespace Compiler

variable {c : Compiler} {name : String} {sortKind : Option SortKind} {v w : Value} {p lower upper : Predicate Expr}

theorem testQuery_comparison (hp : p.matching.isComparison = true) (mapping : FieldMapping) (text : String) :
    c.testQuery mapping name p text = mapping.rangeQuery (p.matching.side (some text)) := by
  unfold testQuery
  cases hm : p.matching with
  | greater | greaterOrEqual | less | lessOrEqual => rfl
  | _ =>
    rw [hm] at hp
    cases hp

theorem encode_keyword (hv : v.isNull = false) :
    (FieldMapping.keywordWith name sortKind).encode v = .ok v.plain := by
  cases v with
  | null => cases hv
  | _ => rfl

theorem boundText_keyword {bound : Expr} (hv : bound.evaluate = .ok v) :
    boundText (.keywordWith name sortKind) (some bound) = .ok v.term? := by
  rw [boundText, hv, ok_bind, Value.term?]
  cases hn : v.isNull with
  | true => rfl
  | false =>
    rw [if_neg (by decide), if_neg (by decide), encode_keyword hn]
    rfl

/-- A bound that is not null asks for the terms on its side. -/
theorem bound_leaf (hk : c.fields.resolve name = .keywordWith name sortKind) (hname : name ≠ FieldRef.anyName)
    (hp : p.Requires name v) (hm : p.matching.isComparison = true) (hn : v.isNull = false) :
    ∃ f, c.predicateFragment p = .ok f ∧ ∀ leaf, f.verdict leaf =
      leaf (FieldMapping.rangeOf name (p.matching.side v.term?)) := by
  obtain ⟨rfl, hmust, hv⟩ := hp
  have hany : p.field.isAny = false := by simpa [FieldRef.isAny] using hname
  have hfragment : c.predicateFragment p = c.fieldFragment p.field.name p := by simp [predicateFragment, hany]
  rw [hfragment, fieldFragment, hv, ok_bind, Value.term?, hk, hn, if_neg (by decide), if_neg (by decide)]
  dsimp only
  rw [encode_keyword hn, ok_bind, testQuery_comparison hm]
  refine ⟨_, rfl, fun leaf => ?_⟩
  rw [hmust]
  exact withBoost_matchesUnder _ _

/-- An interval of a keyword field asks for the terms between its bounds, a null bound being open. -/
theorem interval_leaf (hk : c.fields.resolve name = .keywordWith name sortKind) (hname : name ≠ FieldRef.anyName)
    {r : Interval Expr} {low high : Expr} (hr : r.field.name = name) (hl : r.lower = some low)
    (hu : r.upper = some high) (hv : low.evaluate = .ok v) (hw : high.evaluate = .ok w) :
    ∃ f, c.intervalFragment r = .ok f ∧ f.occur = r.occur ∧ ∀ leaf, f.verdict leaf =
      r.occur.verdict (leaf (FieldMapping.rangeOf name ⟨v.term?, w.term?, r.includesLower, r.includesUpper⟩)) := by
  subst hr
  have hany : r.field.isAny = false := by simpa [FieldRef.isAny] using hname
  rw [intervalFragment, if_neg (by simp [hany]), hk, hl, hu]
  dsimp only
  rw [boundText_keyword hv, ok_bind, boundText_keyword hw, ok_bind]
  refine ⟨_, rfl, rfl, fun leaf => ?_⟩
  exact congrArg r.occur.verdict (withBoost_matchesUnder _ _)

/-- A bound by itself: its side of the terms, and no term at all that passes for any value if it is null. -/
theorem bound_verdict (hk : c.fields.resolve name = .keywordWith name sortKind) (hname : name ≠ FieldRef.anyName)
    (hp : p.Requires name v) (hm : p.matching.isComparison = true) :
    ∃ f, c.predicateFragment p = .ok f ∧ ∀ near doc, f.verdict (Document.matchesLeaf near doc) =
      ((p.matching.side v.term?).contains (doc name) &&
        !(v.isNull && Wildcard.accepts c.settings.anyValue (doc name))) := by
  cases hn : v.isNull with
  | true =>
    obtain ⟨rfl, hmust, hv⟩ := hp
    have hany : p.field.isAny = false := by simpa [FieldRef.isAny] using hname
    have hfragment : c.predicateFragment p = c.fieldFragment p.field.name p := by simp [predicateFragment, hany]
    rw [hfragment, fieldFragment, hv, ok_bind, Value.term?, hn]
    refine ⟨_, rfl, fun near doc => ?_⟩
    rw [if_pos rfl, Matching.side_none, Bool.true_and, Bool.true_and, hmust]
    rfl
  | false =>
    obtain ⟨f, hf, hverdict⟩ := bound_leaf hk hname hp hm hn
    refine ⟨f, hf, fun near doc => ?_⟩
    rw [hverdict, Bool.false_and, Bool.not_false, Bool.and_true]
    rfl

/-- The interval of two bounds. -/
theorem between_verdict (hk : c.fields.resolve name = .keywordWith name sortKind) (hname : name ≠ FieldRef.anyName)
    (hl : lower.Requires name v) (hu : upper.Requires name w) (hlm : lower.matching.isLowerBound = true)
    (hum : upper.matching.isUpperBound = true) :
    ∃ f, c.intervalFragment (between lower upper) = .ok f ∧ f.occur = .must ∧
      ∀ near doc, f.verdict (Document.matchesLeaf near doc) =
        ((lower.matching.side v.term?).contains (doc name) && (upper.matching.side w.term?).contains (doc name)) := by
  obtain ⟨f, hf, hmust, hverdict⟩ :=
    interval_leaf (r := between lower upper) hk hname hl.tests rfl rfl hl.valued hu.valued
  refine ⟨f, hf, hmust, fun near doc => ?_⟩
  rw [hverdict, ← TermRange.contains_between hlm hum]
  rfl

theorem build_conjunction {a b : Predicate Expr} {f g : Fragment} (hf : c.predicateFragment a = .ok f)
    (hg : c.predicateFragment b = .ok g) :
    c.build (binary .and (predicate a) (predicate b)) = .ok (.conjunction [f, g]) := by
  change (c.fragments [.predicate a, .predicate b] >>= fun parts => pure (Fragment.conjunction parts)) = _
  rw [fragments, fragments, fragment, hf, fragment, hg]
  rfl

/-- The interval of two bounds in either order. -/
theorem boundsNode_between (hl : lower.Requires name v) (hu : upper.Requires name w)
    (hlm : lower.matching.isLowerBound = true) (hum : upper.matching.isUpperBound = true) :
    boundsNode (binary .and (predicate lower) (predicate upper)) = interval (between lower upper) ∧
    boundsNode (binary .and (predicate upper) (predicate lower)) = interval (between lower upper) := by
  have hmerge : mergeable lower upper = true :=
    TestTree.mergeable_iff.2 ⟨hl.tests.trans hu.tests.symm, hl.required, hu.required⟩
  have hlu : lower.matching.isUpperBound = false := by
    cases hm : lower.matching <;> rw [hm] at hlm <;> cases hlm <;> rfl
  constructor
  · simp [boundsNode, conjoined?, hmerge, hlm, hum]
  · simp [boundsNode, conjoined?, TestTree.mergeable_symm hmerge, hlm, hum, hlu]

/-- A lower and an upper bound on a keyword field build before and after the merging, whatever their values. Apart
from a null bound the two queries match the same documents; with one, the query of the tests matches those of them
whose term does not pass for any value. -/
theorem build_merged_bounds (hk : c.fields.resolve name = .keywordWith name sortKind)
    (hname : name ≠ FieldRef.anyName) (hl : lower.Requires name v) (hu : upper.Requires name w)
    (hlm : lower.matching.isLowerBound = true) (hum : upper.matching.isUpperBound = true) (e : Expr)
    (he : e = binary .and (predicate lower) (predicate upper) ∨
      e = binary .and (predicate upper) (predicate lower)) :
    ∃ tests merged, c.build e = .ok tests ∧ c.build (e.mapUp boundsNode) = .ok merged ∧
      tests.occur = .must ∧ merged.occur = .must ∧ ∀ near (doc : Document),
        (doc.satisfies near tests.query = true ↔ doc.satisfies near merged.query = true ∧
          ((v.isNull || w.isNull) = true → Wildcard.accepts c.settings.anyValue (doc name) = false)) := by
  obtain ⟨f, hf, hfv⟩ := bound_verdict hk hname hl (by simp [Matching.isComparison, hlm])
  obtain ⟨g, hg, hgv⟩ := bound_verdict hk hname hu (by simp [Matching.isComparison, hum])
  obtain ⟨m, hm, hmust, hmv⟩ := between_verdict hk hname hl hu hlm hum
  obtain ⟨hnode, hnode'⟩ := boundsNode_between hl hu hlm hum
  have hmerged : c.build (e.mapUp boundsNode) = .ok m := by
    have hmap : e.mapUp boundsNode = boundsNode e := by rcases he with rfl | rfl <;> rfl
    have hinterval : boundsNode e = interval (between lower upper) := by
      rcases he with rfl | rfl
      · exact hnode
      · exact hnode'
    rw [hmap, hinterval]
    exact hm
  -- Both orders of the operands conjoin the verdicts of the same two tests.
  obtain ⟨tests, htests, hmust', hverdict⟩ : ∃ tests, c.build e = .ok tests ∧ tests.occur = .must ∧
      ∀ leaf, tests.verdict leaf = (f.verdict leaf && g.verdict leaf) := by
    rcases he with rfl | rfl
    · refine ⟨_, build_conjunction hf hg, rfl, fun leaf => ?_⟩
      rw [Fragment.conjunction_verdict leaf (by simp)]
      simp
    · refine ⟨_, build_conjunction hg hf, rfl, fun leaf => ?_⟩
      rw [Fragment.conjunction_verdict leaf (by simp)]
      simp [Bool.and_comm]
  refine ⟨tests, m, htests, hmerged, hmust', hmust, fun near doc => ?_⟩
  have ht : doc.satisfies near tests.query = tests.verdict (doc.matchesLeaf near) := by
    rw [Fragment.verdict, hmust']
    rfl
  have hs : doc.satisfies near m.query = m.verdict (doc.matchesLeaf near) := by
    rw [Fragment.verdict, hmust]
    rfl
  rw [ht, hs, hverdict, hfv, hgv, hmv]
  cases v.isNull <;> cases w.isNull <;> simp [and_comm, and_assoc, and_left_comm]

section Titles

def titleBound (matching : Matching) (pattern : Expr) : Predicate Expr :=
  Predicate.ofField (.ofName "title" .text) matching pattern

theorem titleBound_requires {matching : Matching} {pattern : Expr} (h : pattern.evaluate = .ok v) :
    (titleBound matching pattern).Requires "title" v := ⟨rfl, rfl, h⟩

theorem resolve_title : keywordPair.fields.resolve "title" = .keywordWith "title" (some .string) := rfl

/-- The upper bound comes first, and its value is a captured number. -/
theorem build_merged_bounds_titles : ∃ tests merged,
    keywordPair.build (binary .and
      (predicate (titleBound .lessOrEqual (captured ⟨"last", 0, .int 7⟩)))
      (predicate (titleBound .greater (constant (.text "5"))))) = .ok tests ∧
    keywordPair.build (interval (between (titleBound .greater (constant (.text "5")))
      (titleBound .lessOrEqual (captured ⟨"last", 0, .int 7⟩)))) = .ok merged ∧
    ∀ near (doc : Document), doc.satisfies near tests.query = doc.satisfies near merged.query := by
  have hl : (titleBound .greater (constant (.text "5"))).Requires "title" (.text "5") := titleBound_requires rfl
  have hu : (titleBound .lessOrEqual (captured ⟨"last", 0, .int 7⟩)).Requires "title" (.int 7) :=
    titleBound_requires rfl
  obtain ⟨tests, merged, ht, hm, _, _, hiff⟩ :=
    build_merged_bounds resolve_title (by decide) hl hu rfl rfl _ (.inr rfl)
  refine ⟨tests, merged, ht, hm, fun near doc => ?_⟩
  rw [Bool.eq_iff_iff, hiff near doc]
  simp [Value.isNull]

/-- From null to "m": the document "a" lies in the interval but fails the test against null. -/
theorem open_bound_not_kept : ∃ tests merged,
    keywordPair.build (binary .and
      (predicate (titleBound .greaterOrEqual (constant .null)))
      (predicate (titleBound .less (constant (.text "m"))))) = .ok tests ∧
    keywordPair.build ((binary .and
      (predicate (titleBound .greaterOrEqual (constant .null)))
      (predicate (titleBound .less (constant (.text "m"))))).mapUp boundsNode) = .ok merged ∧
    ∀ near, Document.satisfies near (fun _ => "a") merged.query = true ∧
      Document.satisfies near (fun _ => "a") tests.query = false := by
  refine ⟨_, _, rfl, rfl, fun near => ?_⟩
  exact ⟨rfl, rfl⟩

end Titles

end Compiler

end IndexQuery
