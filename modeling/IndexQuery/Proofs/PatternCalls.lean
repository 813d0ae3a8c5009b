import IndexQuery.Plan.Drafting
import IndexQuery.Proofs.BoundMerging

set_option autoImplicit false

/-!
Pattern calls on keyword fields.

A pattern call on a field settles after one round, as a test of the field (`lower_pattern`), and the native query of
the test asks for the escaped text behind a star, or between two. What it matches follows from the language of
wildcard patterns (`condition_finds_text`): a star stops at line feeds, so that `ends_with` and `contains` miss a
term where something other than the text holds one (`lineFeed_hides_text`).
-/

namespace IndexQuery

open IndexQuery.Expr IndexQuery.Lowering

/-- An expression that stands for a field: a chain of members from the document, or the field itself, whose boost is
a number. -/
inductive Denotes : Expr → FieldRef → Prop where
  | path (p : Path) : Denotes p.expr p.ref
  | field (ref : FieldRef) (hboost : ref.boost.isNaN = false) : Denotes (field ref) ref

section

variable {host : Expr} {ref : FieldRef}

theorem Denotes.members (h : Denotes host ref) : host.mapUpM memberNode = .ok (Expr.field ref) := by
  cases h with
  | path p => exact p.members
  | field => rfl

theorem Denotes.boost (h : Denotes host ref) : ref.boost.isNaN = false := by
  cases h with
  | path p => rfl
  | field _ hboost => exact hboost

end

namespace Lowering

variable {host : Expr} {ref : FieldRef}

/-- The first round makes the call a test of the field. -/
theorem round_pattern (h : Denotes host ref) (kind : PatternKind) (v : Operand) :
    round .condition (call host kind.method [v.expr]) =
      .ok (predicate (Predicate.ofField ref kind.matching v.expr)) := by
  have hmembers : (call host kind.method [v.expr]).mapUpM memberNode =
      .ok (call (field ref) kind.method [v.expr]) := by
    rw [mapUpM, h.members]
    cases v <;> cases kind <;> rfl
  rw [round_eq, hmembers, ok_bind]
  cases v <;> cases kind <;> rfl

theorem hasNaN_operand (v : Operand) : v.expr.hasNaN = false := by
  cases v with
  | constant value proper =>
    simp only [Value.isProper, Bool.and_eq_true, Bool.not_eq_true'] at proper
    exact proper.2
  | captured => rfl

theorem lower_pattern {settings : CompilerSettings} (h : Denotes host ref) (hrounds : 1 < settings.maxRounds)
    (kind : PatternKind) (v : Operand) :
    lower settings .condition (call host kind.method [v.expr]) =
      .ok (predicate (Predicate.ofField ref kind.matching v.expr)) := by
  have hfirst : rounds .condition 1 (call host kind.method [v.expr]) =
      .ok (predicate (Predicate.ofField ref kind.matching v.expr)) := by
    rw [rounds, round_pattern h, ok_bind]
    rfl
  have hnan : (predicate (Predicate.ofField ref kind.matching v.expr)).hasNaN = false := by
    simp [hasNaN, hasNaNTest, Predicate.ofField, hasNaN_operand, h.boost]
  rw [lower_settled hrounds hfirst rfl, hnan]
  rfl

end Lowering

namespace Compiler

variable {c : Compiler} {host : Expr} {ref : FieldRef} {sortKind : Option SortKind}

/-- The fragment of a test that looks for a text in the terms of a keyword field. -/
theorem predicateFragment_wildcard (hk : c.fields.resolve ref.name = .keywordWith ref.name sortKind)
    (hany : ref.isAny = false) {matching : Matching} (hm : matching = .endsWith ∨ matching = .contains)
    (v : Operand) :
    ∃ f, c.predicateFragment (Predicate.ofField ref matching v.expr) = .ok f ∧ f.occur = .must ∧
      ∀ near doc, Document.satisfies near doc f.query =
        matching.accepts c.settings near v.text (doc ref.name) := by
  have hfragment : c.predicateFragment (Predicate.ofField ref matching v.expr) =
      c.fieldFragment ref.name (Predicate.ofField ref matching v.expr) := by
    simp [predicateFragment, Predicate.ofField, hany]
  have hvalue : (Predicate.ofField ref matching v.expr).pattern.evaluate = .ok v.value := v.evaluate_expr
  rw [hfragment, fieldFragment, hvalue, ok_bind, if_neg (by simp [v.isNull_value])]
  simp only [hk, v.encode_value, ok_bind]
  rcases hm with rfl | rfl
  · exact ⟨_, rfl, rfl, fun near doc => withBoost_matchesUnder _ _⟩
  · exact ⟨_, rfl, rfl, fun near doc => withBoost_matchesUnder _ _⟩

theorem condition_wildcard (hk : c.fields.resolve ref.name = .keywordWith ref.name sortKind)
    (hany : ref.isAny = false) (h : Denotes host ref) (hrounds : 1 < c.settings.maxRounds) (kind : PatternKind)
    (hm : kind.matching = .endsWith ∨ kind.matching = .contains) (v : Operand) :
    ∃ f, c.condition (call host kind.method [v.expr]) = .ok f ∧ f.occur = .must ∧
      ∀ near doc, Document.satisfies near doc f.query =
        kind.matching.accepts c.settings near v.text (doc ref.name) := by
  obtain ⟨f, hf, hmust, hmatches⟩ := predicateFragment_wildcard hk hany hm v
  refine ⟨f, ?_, hmust, hmatches⟩
  rw [condition, lower_pattern h hrounds, ok_bind]
  exact hf

/-- `ends_with` and `contains` of a text, asked of a keyword field: both are built, and the terms they match are those
that end with the text, or hold it, with no line feed in the rest of the term. -/
theorem condition_finds_text (hk : c.fields.resolve ref.name = .keywordWith ref.name sortKind)
    (hany : ref.isAny = false) (h : Denotes host ref) (hrounds : 1 < c.settings.maxRounds) (v : Operand)
    {text : String} (hv : v.value = .text text) :
    ∃ ending holding, c.condition (call host .endsWith [v.expr]) = .ok ending ∧
      c.condition (call host .contains [v.expr]) = .ok holding ∧
      ending.occur = .must ∧ holding.occur = .must ∧ ∀ near (doc : Document),
        (doc.satisfies near ending.query = true ↔
          ∃ front, (doc ref.name).toList = front ++ text.toList ∧ '\n' ∉ front) ∧
        (doc.satisfies near holding.query = true ↔
          ∃ front back, (doc ref.name).toList = front ++ text.toList ++ back ∧ '\n' ∉ front ∧ '\n' ∉ back) := by
  have htext : v.text = text := congrArg Value.plain hv
  obtain ⟨ending, hending, hmust, hends⟩ := condition_wildcard hk hany h hrounds .endsWith (.inl rfl) v
  obtain ⟨holding, hholding, hmust', hholds⟩ := condition_wildcard hk hany h hrounds .contains (.inr rfl) v
  refine ⟨ending, holding, hending, hholding, hmust, hmust', fun near doc => ⟨?_, ?_⟩⟩
  · rw [hends, htext]
    exact Wildcard.accepts_ending text (doc ref.name)
  · rw [hholds, htext]
    exact Wildcard.accepts_holding text (doc ref.name)

section Titles

def title : Path := .root "book" "title" .text

/-- Titles with "5*" at the end, where the text is a captured value. -/
theorem condition_finds_text_titles : ∃ ending holding,
    keywordPair.condition (call title.expr .endsWith [captured ⟨"mark", 0, .text "5*"⟩]) = .ok ending ∧
    keywordPair.condition (call title.expr .contains [captured ⟨"mark", 0, .text "5*"⟩]) = .ok holding ∧
    ∀ near, Document.satisfies near (fun _ => "\\?15*") ending.query = true ∧
      Document.satisfies near (fun _ => "155") ending.query = false ∧
      Document.satisfies near (fun _ => "5*5") holding.query = true := by
  obtain ⟨ending, holding, hending, hholding, _, _, h⟩ := condition_finds_text resolve_title rfl
    (.path title) (by decide) (.captured ⟨"mark", 0, .text "5*"⟩ rfl) rfl
  refine ⟨ending, holding, hending, hholding, fun near => ⟨?_, ?_, ?_⟩⟩
  · exact (h near _).1.2 ⟨"\\?1".toList, by decide, by decide⟩
  · rw [← Bool.not_eq_true, (h near _).1]
    rintro ⟨front, hfront, _⟩
    have hsuffix : "5*".toList <:+ "155".toList := ⟨front, hfront.symm⟩
    revert hsuffix
    decide
  · exact (h near _).2.2 ⟨[], ['5'], by decide, by decide, by decide⟩

/-- The title "a\nb" ends with "b", which the queries of both calls miss. -/
theorem lineFeed_hides_text : "b".toList <:+ "a\nb".toList ∧ ∃ ending holding,
    keywordPair.condition (call title.expr .endsWith [constant (.text "b")]) = .ok ending ∧
    keywordPair.condition (call title.expr .contains [constant (.text "b")]) = .ok holding ∧
    ∀ near, Document.satisfies near (fun _ => "a\nb") ending.query = false ∧
      Document.satisfies near (fun _ => "a\nb") holding.query = false := by
  obtain ⟨ending, hending, _, hends⟩ := condition_wildcard resolve_title rfl (.path title) (by decide)
    .endsWith (.inl rfl) (.constant (.text "b") rfl)
  obtain ⟨holding, hholding, _, hholds⟩ := condition_wildcard resolve_title rfl (.path title) (by decide)
    .contains (.inr rfl) (.constant (.text "b") rfl)
  refine ⟨by decide, ending, holding, hending, hholding, fun near => ⟨?_, ?_⟩⟩
  · rw [hends]
    exact show Wildcard.accepts ("*" ++ Wildcard.escape "b") "a\nb" = false by decide
  · rw [hholds]
    exact show Wildcard.accepts ("*" ++ Wildcard.escape "b" ++ "*") "a\nb" = false by decide

end Titles

end Compiler

end IndexQuery
