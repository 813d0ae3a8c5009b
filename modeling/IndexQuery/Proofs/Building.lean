import IndexQuery.Plan.Fragment
import IndexQuery.Proofs.Traversal

set_option autoImplicit false

/-!
How fragments come about.

For each kind of test one lemma says what its fragment is, if there is one. A compound can be built exactly if its parts
can (`buildable_and`, `buildable_or`, `buildable_not`, `buildable_boosted`). Chains of `&&` and of `||` are
flattened, so that a fact about the fragment of an expression needs one about the fragments of its conjuncts and one
about those of its disjuncts; `BuildLaws` lists what has to be shown of the three, and `BuildLaws.build` concludes.
-/

namespace IndexQuery.Compiler

variable {c : Compiler} {e : Expr} {f : Fragment}

theorem fieldFragment_ok {name : String} {p : Predicate Expr} (h : c.fieldFragment name p = .ok f) :
    ∃ value, p.pattern.evaluate = .ok value ∧
      (value.isNull = true ∧ f = ⟨.wildcard name c.settings.anyValue p.boost, p.occur.negate⟩ ∨
        value.isNull = false ∧ ∃ text q, (c.fields.resolve name).encode value = .ok text ∧
          c.testQuery (c.fields.resolve name) name p text = .ok q ∧ f = ⟨withBoost p.boost q, p.occur⟩) := by
  obtain ⟨value, hv, h⟩ := bind_eq_ok.1 h
  refine ⟨value, hv, ?_⟩
  cases hn : value.isNull with
  | true =>
    rw [hn, if_pos rfl] at h
    exact .inl ⟨rfl, (pure_eq_ok.1 h).symm⟩
  | false =>
    rw [hn, if_neg (by decide)] at h
    obtain ⟨text, ht, h⟩ := bind_eq_ok.1 h
    obtain ⟨q, hq, h⟩ := bind_eq_ok.1 h
    exact .inr ⟨rfl, text, q, ht, hq, (pure_eq_ok.1 h).symm⟩

theorem predicateFragment_ok {p : Predicate Expr} (h : c.predicateFragment p = .ok f) :
    p.field.isAny = false ∧ c.fieldFragment p.field.name p = .ok f ∨
      p.field.isAny = true ∧ c.fields.names ≠ [] ∧ ∃ parts,
        c.fields.names.mapM (fun name => c.fieldFragment name { p with occur := .must }) = .ok parts ∧
          f = .alternatives parts p.occur := by
  unfold predicateFragment at h
  split at h
  · rename_i ha
    exact .inl ⟨by simpa using ha, h⟩
  · rename_i ha
    split at h
    · cases h
    · rename_i names hne
      obtain ⟨parts, hp, h⟩ := bind_eq_ok.1 h
      exact .inr ⟨by simpa using ha, hne, parts, hp, (pure_eq_ok.1 h).symm⟩

theorem intervalFragment_ok {r : Interval Expr} (h : c.intervalFragment r = .ok f) :
    ∃ lower upper q, boundText (c.fields.resolve r.field.name) r.lower = .ok lower ∧
      boundText (c.fields.resolve r.field.name) r.upper = .ok upper ∧
      (c.fields.resolve r.field.name).rangeQuery ⟨lower, upper, r.includesLower, r.includesUpper⟩ = .ok q ∧
      f = ⟨withBoost r.boost q, r.occur⟩ := by
  unfold intervalFragment at h
  split at h
  · cases h
  · obtain ⟨lower, hl, h⟩ := bind_eq_ok.1 h
    obtain ⟨upper, hu, h⟩ := bind_eq_ok.1 h
    obtain ⟨q, hq, h⟩ := bind_eq_ok.1 h
    exact ⟨lower, upper, q, hl, hu, hq, (pure_eq_ok.1 h).symm⟩

theorem closedFragment_ok (h : closedFragment e = .ok f) :
    ∃ b, e.evaluate = .ok (.bool b) ∧ f = ⟨.matchAll, if b then .must else .mustNot⟩ := by
  obtain ⟨v, hv, h⟩ := bind_eq_ok.1 h
  split at h
  · exact ⟨true, hv, (pure_eq_ok.1 h).symm⟩
  · exact ⟨false, hv, (pure_eq_ok.1 h).symm⟩
  · cases h

theorem restFragment_ok (h : restFragment e = .ok f) : e.isEvaluable = true ∧ closedFragment e = .ok f := by
  unfold restFragment at h
  split at h
  · split at h
    · rename_i he
      exact ⟨he, h⟩
    · cases h
  · split at h
    · split at h <;> cases h
    · split at h
      · rename_i he
        exact ⟨he, h⟩
      · cases h
  · split at h
    · rename_i he
      exact ⟨he, h⟩
    · cases h

theorem fragments_append_eq (as bs : List Condition) :
    c.fragments (as ++ bs) = do return (← c.fragments as) ++ (← c.fragments bs) := by
  induction as with
  | nil =>
    rw [List.nil_append, fragments, ok_bind]
    cases c.fragments bs <;> rfl
  | cons a as ih =>
    rw [List.cons_append, fragments, fragments, ih]
    cases c.fragment a with
    | error fault => rfl
    | ok f =>
      rw [ok_bind, ok_bind]
      cases c.fragments as with
      | error fault => rfl
      | ok fs =>
        rw [ok_bind]
        cases c.fragments bs <;> rfl

theorem fragments_append {as bs : List Condition} {parts : List Fragment}
    (h : c.fragments (as ++ bs) = .ok parts) :
    ∃ fs gs, c.fragments as = .ok fs ∧ c.fragments bs = .ok gs ∧ parts = fs ++ gs := by
  rw [fragments_append_eq] at h
  obtain ⟨fs, hfs, h⟩ := bind_eq_ok.1 h
  obtain ⟨gs, hgs, h⟩ := bind_eq_ok.1 h
  exact ⟨fs, gs, hfs, hgs, (pure_eq_ok.1 h).symm⟩

theorem fragments_append_ok {as bs : List Condition} {fs gs : List Fragment} (has : c.fragments as = .ok fs)
    (hbs : c.fragments bs = .ok gs) : c.fragments (as ++ bs) = .ok (fs ++ gs) := by
  rw [fragments_append_eq, has, hbs]
  rfl

theorem fragments_singleton {a : Condition} {parts : List Fragment} (h : c.fragments [a] = .ok parts) :
    ∃ f, c.fragment a = .ok f ∧ parts = [f] := by
  obtain ⟨f, hf, h⟩ := bind_eq_ok.1 h
  cases h
  exact ⟨f, hf, rfl⟩

/-! ### Expressions that can be built -/

theorem fragments_singleton_iff {a : Condition} :
    (∃ parts, c.fragments [a] = .ok parts) ↔ ∃ f, c.fragment a = .ok f := by
  constructor
  · rintro ⟨parts, hp⟩
    obtain ⟨f, hf, _⟩ := fragments_singleton hp
    exact ⟨f, hf⟩
  · rintro ⟨f, hf⟩
    refine ⟨[f], ?_⟩
    rw [fragments, hf]
    rfl

theorem fragments_append_iff {as bs : List Condition} : (∃ parts, c.fragments (as ++ bs) = .ok parts) ↔
    (∃ fs, c.fragments as = .ok fs) ∧ ∃ gs, c.fragments bs = .ok gs := by
  constructor
  · rintro ⟨parts, hp⟩
    obtain ⟨fs, gs, hfs, hgs, _⟩ := fragments_append hp
    exact ⟨⟨fs, hfs⟩, gs, hgs⟩
  · rintro ⟨⟨fs, hfs⟩, gs, hgs⟩
    exact ⟨_, fragments_append_ok hfs hgs⟩

/-- A condition can be built if its conjuncts can. -/
theorem fragments_conjuncts_iff (a : Condition) :
    (∃ parts, c.fragments a.conjuncts = .ok parts) ↔ ∃ f, c.fragment a = .ok f := by
  cases a with
  | every parts =>
    constructor
    · rintro ⟨fs, hfs⟩
      change c.fragments parts = .ok fs at hfs
      exact ⟨.conjunction fs, by rw [fragment, hfs]; rfl⟩
    · rintro ⟨f, hf⟩
      obtain ⟨fs, hfs, _⟩ := bind_eq_ok.1 hf
      exact ⟨fs, hfs⟩
  | _ => exact fragments_singleton_iff

/-- A condition can be built if its disjuncts can. -/
theorem fragments_disjuncts_iff (a : Condition) :
    (∃ parts, c.fragments a.disjuncts = .ok parts) ↔ ∃ f, c.fragment a = .ok f := by
  cases a with
  | either parts =>
    constructor
    · rintro ⟨fs, hfs⟩
      change c.fragments parts = .ok fs at hfs
      exact ⟨.alternatives fs .must, by rw [fragment, hfs]; rfl⟩
    · rintro ⟨f, hf⟩
      obtain ⟨fs, hfs, _⟩ := bind_eq_ok.1 hf
      exact ⟨fs, hfs⟩
  | _ => exact fragments_singleton_iff

variable (c) in
/-- There is a fragment for an expression, and there are fragments for its conjuncts and for its disjuncts. -/
structure Buildable (e : Expr) : Prop where
  whole : ∃ f, c.fragment (.ofExpr e) = .ok f
  conjuncts : ∃ parts, c.fragments (Condition.ofExpr e).conjuncts = .ok parts
  disjuncts : ∃ parts, c.fragments (Condition.ofExpr e).disjuncts = .ok parts

theorem buildable_iff : c.Buildable e ↔ ∃ f, c.build e = .ok f :=
  ⟨fun h => h.whole, fun h => ⟨h, (fragments_conjuncts_iff _).2 h, (fragments_disjuncts_iff _).2 h⟩⟩

section

variable {left right operand : Expr}

theorem buildable_and : c.Buildable (.binary .and left right) ↔ c.Buildable left ∧ c.Buildable right := by
  have hparts : c.Buildable (.binary .and left right) ↔ ∃ parts,
      c.fragments ((Condition.ofExpr left).conjuncts ++ (Condition.ofExpr right).conjuncts) = .ok parts :=
    buildable_iff.trans (fragments_conjuncts_iff _).symm
  rw [hparts, fragments_append_iff, fragments_conjuncts_iff, fragments_conjuncts_iff, buildable_iff, buildable_iff]
  rfl

theorem buildable_or : c.Buildable (.binary .or left right) ↔ c.Buildable left ∧ c.Buildable right := by
  have hparts : c.Buildable (.binary .or left right) ↔ ∃ parts,
      c.fragments ((Condition.ofExpr left).disjuncts ++ (Condition.ofExpr right).disjuncts) = .ok parts :=
    buildable_iff.trans (fragments_disjuncts_iff _).symm
  rw [hparts, fragments_append_iff, fragments_disjuncts_iff, fragments_disjuncts_iff, buildable_iff, buildable_iff]
  rfl

theorem buildable_not : c.Buildable (.unary .not operand) ↔ c.Buildable operand := by
  rw [buildable_iff, buildable_iff]
  constructor
  · rintro ⟨f, hf⟩
    obtain ⟨g, hg, _⟩ := bind_eq_ok.1 hf
    exact ⟨g, hg⟩
  · rintro ⟨g, hg⟩
    refine ⟨g.negated, ?_⟩
    rw [build] at hg ⊢
    rw [Condition.ofExpr, fragment, hg]
    rfl

theorem buildable_boosted {boost : Number.Binary32} :
    c.Buildable (.boosted operand boost) ↔ c.Buildable operand := by
  rw [buildable_iff, buildable_iff]
  constructor
  · rintro ⟨f, hf⟩
    obtain ⟨g, hg, _⟩ := bind_eq_ok.1 hf
    exact ⟨g, hg⟩
  · rintro ⟨g, hg⟩
    refine ⟨g.boostedBy boost, ?_⟩
    rw [build] at hg ⊢
    rw [Condition.ofExpr, fragment, hg]
    rfl

/-- What is no test and not made of tests can be built only if it can be evaluated. -/
theorem isEvaluable_of_buildable (hr : Condition.ofExpr e = .rest e) (h : c.Buildable e) :
    e.isEvaluable = true := by
  obtain ⟨f, hf⟩ := h.whole
  rw [hr, fragment] at hf
  exact (restFragment_ok hf).1

end

/-! ### Facts about the fragments of an expression -/

variable {whole : Expr → Fragment → Prop} {every either : Expr → List Fragment → Prop}

variable (c whole every either) in
structure BuildLaws : Prop where
  predicate : ∀ {p f}, c.predicateFragment p = .ok f → whole (.predicate p) f
  interval : ∀ {r f}, c.intervalFragment r = .ok f → whole (.interval r) f
  closed : ∀ {e f}, Condition.ofExpr e = .rest e → closedFragment e = .ok f → whole e f
  not : ∀ {e f}, whole e f → whole (.unary .not e) f.negated
  boosted : ∀ {e f} boost, whole e f → whole (.boosted e boost) (f.boostedBy boost)
  every_single : ∀ {e f}, whole e f → every e [f]
  every_append : ∀ {l r fs gs}, every l fs → every r gs → every (.binary .and l r) (fs ++ gs)
  every_whole : ∀ {l r parts}, every (.binary .and l r) parts → whole (.binary .and l r) (.conjunction parts)
  either_single : ∀ {e f}, whole e f → either e [f]
  either_append : ∀ {l r fs gs}, either l fs → either r gs → either (.binary .or l r) (fs ++ gs)
  either_whole : ∀ {l r parts}, either (.binary .or l r) parts →
    whole (.binary .or l r) (.alternatives parts .must)

variable (c whole every either) in
structure Built (e : Expr) : Prop where
  fragment : ∀ {f}, c.fragment (.ofExpr e) = .ok f → whole e f
  conjuncts : ∀ {parts}, c.fragments (Condition.ofExpr e).conjuncts = .ok parts → every e parts
  disjuncts : ∀ {parts}, c.fragments (Condition.ofExpr e).disjuncts = .ok parts → either e parts

namespace BuildLaws

variable (laws : BuildLaws c whole every either)

include laws

theorem single (hc : (Condition.ofExpr e).conjuncts = [.ofExpr e])
    (hd : (Condition.ofExpr e).disjuncts = [.ofExpr e])
    (h : ∀ {f}, c.fragment (.ofExpr e) = .ok f → whole e f) : Built c whole every either e where
  fragment := h
  conjuncts := by
    intro parts hp
    rw [hc] at hp
    obtain ⟨f, hf, rfl⟩ := fragments_singleton hp
    exact laws.every_single (h hf)
  disjuncts := by
    intro parts hp
    rw [hd] at hp
    obtain ⟨f, hf, rfl⟩ := fragments_singleton hp
    exact laws.either_single (h hf)

theorem and {left right : Expr} (hl : Built c whole every either left) (hr : Built c whole every either right) :
    Built c whole every either (.binary .and left right) := by
  have hparts : ∀ {parts}, c.fragments ((Condition.ofExpr left).conjuncts ++
      (Condition.ofExpr right).conjuncts) = .ok parts → every (.binary .and left right) parts := by
    intro parts hp
    obtain ⟨fs, gs, hfs, hgs, rfl⟩ := fragments_append hp
    exact laws.every_append (hl.conjuncts hfs) (hr.conjuncts hgs)
  have hwhole : ∀ {f}, c.fragment (.ofExpr (.binary .and left right)) = .ok f →
      whole (.binary .and left right) f := by
    intro f hf
    obtain ⟨parts, hp, hf⟩ := bind_eq_ok.1 hf
    obtain rfl := pure_eq_ok.1 hf
    exact laws.every_whole (hparts hp)
  refine ⟨hwhole, hparts, ?_⟩
  intro parts hp
  obtain ⟨f, hf, rfl⟩ := fragments_singleton hp
  exact laws.either_single (hwhole hf)

theorem or {left right : Expr} (hl : Built c whole every either left) (hr : Built c whole every either right) :
    Built c whole every either (.binary .or left right) := by
  have hparts : ∀ {parts}, c.fragments ((Condition.ofExpr left).disjuncts ++
      (Condition.ofExpr right).disjuncts) = .ok parts → either (.binary .or left right) parts := by
    intro parts hp
    obtain ⟨fs, gs, hfs, hgs, rfl⟩ := fragments_append hp
    exact laws.either_append (hl.disjuncts hfs) (hr.disjuncts hgs)
  have hwhole : ∀ {f}, c.fragment (.ofExpr (.binary .or left right)) = .ok f →
      whole (.binary .or left right) f := by
    intro f hf
    obtain ⟨parts, hp, hf⟩ := bind_eq_ok.1 hf
    obtain rfl := pure_eq_ok.1 hf
    exact laws.either_whole (hparts hp)
  refine ⟨hwhole, ?_, hparts⟩
  intro parts hp
  obtain ⟨f, hf, rfl⟩ := fragments_singleton hp
  exact laws.every_single (hwhole hf)

theorem negation {operand : Expr} (h : Built c whole every either operand) :
    Built c whole every either (.unary .not operand) := by
  refine laws.single rfl rfl ?_
  intro f hf
  obtain ⟨g, hg, hf⟩ := bind_eq_ok.1 hf
  obtain rfl := pure_eq_ok.1 hf
  exact laws.not (h.fragment hg)

theorem boosting {target : Expr} (boost : Number.Binary32) (h : Built c whole every either target) :
    Built c whole every either (.boosted target boost) := by
  refine laws.single rfl rfl ?_
  intro f hf
  obtain ⟨g, hg, hf⟩ := bind_eq_ok.1 hf
  obtain rfl := pure_eq_ok.1 hf
  exact laws.boosted boost (h.fragment hg)

theorem rest (hr : Condition.ofExpr e = .rest e) : Built c whole every either e := by
  refine laws.single (by rw [hr]; rfl) (by rw [hr]; rfl) ?_
  intro f hf
  rw [hr, Compiler.fragment] at hf
  exact laws.closed hr (restFragment_ok hf).2

theorem built : (e : Expr) → Built c whole every either e
  | .predicate _ => laws.single rfl rfl laws.predicate
  | .interval _ => laws.single rfl rfl laws.interval
  | .binary op left right => by
    cases op with
    | and => exact laws.and (built left) (built right)
    | or => exact laws.or (built left) (built right)
    | _ => exact laws.rest rfl
  | .unary op operand => by
    cases op with
    | not => exact laws.negation (built operand)
    | negate => exact laws.rest rfl
  | .boosted target boost => laws.boosting boost (built target)
  | .constant _ | .captured _ | .source _ | .member _ _ _ | .call _ _ _ | .invoke _ _
  | .conditional _ _ _ | .convert _ _ | .field _ | .relevance | .anyField => laws.rest rfl

theorem build (h : c.build e = .ok f) : whole e f := (laws.built e).fragment h

end BuildLaws

end IndexQuery.Compiler
