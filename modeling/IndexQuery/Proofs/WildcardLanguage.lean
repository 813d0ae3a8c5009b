import IndexQuery.Query.Wildcard

set_option autoImplicit false

/-!
The texts that a wildcard pattern matches.

Matching works on all rests of a pattern at once; here each kind of pattern part gets the equation that one
would expect of it (`matchesChars_run`, `matchesChars_one`, `matchesChars_literals`), and with these a pattern
accepts just the terms that can be split along it (`accepts_iff_splits`). An escaped text behind a star matches the
texts that end with it, and between two stars those that hold it (`accepts_ending`, `accepts_holding`), as long
as no line feed has to be passed over.
-/

namespace IndexQuery

namespace Glob

def verdicts (pattern : List Glob) (cs : List Char) : List Bool :=
  cs.foldr (fun c after => matchesNext c pattern after) (matchesNone pattern)

theorem matchesNext_tail (c : Char) (g : Glob) (gs : List Glob) (after : List Bool) :
    ∃ b, matchesNext c (g :: gs) after = b :: matchesNext c gs after.tail := by
  cases g <;> exact ⟨_, rfl⟩

theorem verdicts_cons (g : Glob) (gs : List Glob) (cs : List Char) :
    verdicts (g :: gs) cs = matchesChars (g :: gs) cs :: verdicts gs cs := by
  induction cs with
  | nil => rfl
  | cons c cs ih =>
    obtain ⟨b, hb⟩ := matchesNext_tail c g gs (verdicts (g :: gs) cs)
    change matchesNext c (g :: gs) (verdicts (g :: gs) cs) =
      (matchesNext c (g :: gs) (verdicts (g :: gs) cs)).headD false :: matchesNext c gs (verdicts gs cs)
    rw [hb, ih, List.tail_cons, List.headD_cons]

theorem matchesChars_nil_nil : matchesChars [] [] = true := rfl

theorem matchesChars_nil_cons (c : Char) (cs : List Char) : matchesChars [] (c :: cs) = false := rfl

theorem matchesChars_run_nil (gs : List Glob) : matchesChars (run :: gs) [] = matchesChars gs [] := rfl

theorem matchesChars_literal_nil (l : Char) (gs : List Glob) :
    matchesChars (literal l :: gs) [] = false := rfl

theorem matchesChars_one_nil (gs : List Glob) : matchesChars (one :: gs) [] = false := rfl

theorem matchesChars_one_cons (gs : List Glob) (c : Char) (cs : List Char) :
    matchesChars (one :: gs) (c :: cs) = (c != '\n' && matchesChars gs cs) := by
  change (matchesNext c (one :: gs) (verdicts (one :: gs) cs)).headD false = _
  rw [verdicts_cons]
  rfl

theorem matchesChars_run_cons (gs : List Glob) (c : Char) (cs : List Char) :
    matchesChars (run :: gs) (c :: cs) =
      (matchesChars gs (c :: cs) || (c != '\n' && matchesChars (run :: gs) cs)) := by
  change (matchesNext c (run :: gs) (verdicts (run :: gs) cs)).headD false = _
  rw [verdicts_cons]
  rfl

theorem matchesChars_literal_cons (l : Char) (gs : List Glob) (c : Char) (cs : List Char) :
    matchesChars (literal l :: gs) (c :: cs) = (c == l && matchesChars gs cs) := by
  change (matchesNext c (literal l :: gs) (verdicts (literal l :: gs) cs)).headD false = _
  rw [verdicts_cons]
  rfl

theorem matchesChars_nil (cs : List Char) : matchesChars [] cs = true ↔ cs = [] := by
  cases cs with
  | nil => simp [matchesChars_nil_nil]
  | cons c cs => simp [matchesChars_nil_cons]

theorem matchesChars_run (gs : List Glob) (cs : List Char) :
    matchesChars (run :: gs) cs = true ↔
      ∃ front rest, cs = front ++ rest ∧ '\n' ∉ front ∧ matchesChars gs rest = true := by
  induction cs with
  | nil =>
    rw [matchesChars_run_nil]
    constructor
    · intro h
      exact ⟨[], [], rfl, by simp, h⟩
    · rintro ⟨front, rest, hcs, _, h⟩
      obtain ⟨rfl, rfl⟩ := List.nil_eq_append_iff.1 hcs
      exact h
  | cons c cs ih =>
    rw [matchesChars_run_cons, Bool.or_eq_true, Bool.and_eq_true, ih, bne_iff_ne]
    constructor
    · rintro (h | ⟨hc, front, rest, rfl, hf, h⟩)
      · exact ⟨[], c :: cs, rfl, by simp, h⟩
      · exact ⟨c :: front, rest, rfl, by simp [hf, hc.symm], h⟩
    · rintro ⟨front, rest, hcs, hf, h⟩
      cases front with
      | nil =>
        obtain rfl := hcs
        exact .inl h
      | cons d front =>
        obtain ⟨rfl, rfl⟩ := List.cons.inj hcs
        simp only [List.mem_cons, not_or] at hf
        exact .inr ⟨Ne.symm hf.1, front, rest, rfl, hf.2, h⟩

theorem matchesChars_one (gs : List Glob) (cs : List Char) :
    matchesChars (one :: gs) cs = true ↔ ∃ c rest, cs = c :: rest ∧ c ≠ '\n' ∧ matchesChars gs rest = true := by
  cases cs with
  | nil => simp [matchesChars_one_nil]
  | cons c cs =>
    rw [matchesChars_one_cons, Bool.and_eq_true, bne_iff_ne]
    constructor
    · rintro ⟨hc, h⟩
      exact ⟨c, cs, rfl, hc, h⟩
    · rintro ⟨_, _, hcs, hc, h⟩
      obtain ⟨rfl, rfl⟩ := List.cons.inj hcs
      exact ⟨hc, h⟩

theorem matchesChars_literals (ls : List Char) (gs : List Glob) (cs : List Char) :
    matchesChars (ls.map literal ++ gs) cs = true ↔
      ∃ rest, cs = ls ++ rest ∧ matchesChars gs rest = true := by
  induction ls generalizing cs with
  | nil => simp
  | cons l ls ih =>
    cases cs with
    | nil => simp [matchesChars_literal_nil]
    | cons c cs =>
      rw [List.map_cons, List.cons_append, matchesChars_literal_cons, Bool.and_eq_true, ih, beq_iff_eq]
      constructor
      · rintro ⟨rfl, rest, rfl, h⟩
        exact ⟨rest, rfl, h⟩
      · rintro ⟨rest, hcs, h⟩
        obtain ⟨rfl, rfl⟩ := List.cons.inj hcs
        exact ⟨rfl, rest, rfl, h⟩

theorem matchesChars_literal (l : Char) (gs : List Glob) (cs : List Char) :
    matchesChars (literal l :: gs) cs = true ↔ ∃ rest, cs = l :: rest ∧ matchesChars gs rest = true :=
  matchesChars_literals [l] gs cs

end Glob

namespace Wildcard

open Glob

/-! ### Splitting a term along a pattern -/

/-- The term is made of pieces, one for each part of the pattern. -/
inductive Splits : List Char → List Char → Prop where
  | nil : Splits [] []
  | run {pattern term : List Char} (piece : List Char) (hpiece : '\n' ∉ piece) (h : Splits pattern term) :
    Splits ('*' :: pattern) (piece ++ term)
  | one {pattern term : List Char} (c : Char) (hc : c ≠ '\n') (h : Splits pattern term) :
    Splits ('?' :: pattern) (c :: term)
  | escaped {pattern term : List Char} (c : Char) (h : Splits pattern term) :
    Splits ('\\' :: c :: pattern) (c :: term)
  | backslash : Splits ['\\'] ['\\']
  | plain {pattern term : List Char} (c : Char) (hc : c ∉ ['*', '?', '\\']) (h : Splits pattern term) :
    Splits (c :: pattern) (c :: term)

theorem ofChars_plain {c : Char} (hc : c ∉ ['*', '?', '\\']) (pattern : List Char) :
    ofChars (c :: pattern) = literal c :: ofChars pattern := by
  rw [ofChars] <;> simp_all

/-- What is read as a character of its own is none of the special ones. -/
theorem plain_of_read {c : Char} {pattern : List Char} (hend : c = '\\' → pattern = [] → False)
    (hescape : ∀ d rest, c = '\\' → pattern = d :: rest → False) (hrun : c = '*' → False) (hone : c = '?' → False) :
    c ∉ ['*', '?', '\\'] := by
  have hbackslash : c ≠ '\\' := by
    rintro rfl
    cases pattern with
    | nil => exact hend rfl rfl
    | cons d pattern => exact hescape d pattern rfl rfl
  simp [hbackslash, show c ≠ '*' from hrun, show c ≠ '?' from hone]

theorem splits_of_matches {pattern term : List Char} (h : matchesChars (ofChars pattern) term = true) :
    Splits pattern term := by
  fun_induction ofChars pattern generalizing term with
  | case1 =>
    obtain rfl := (matchesChars_nil term).1 h
    exact .nil
  | case2 =>
    obtain ⟨rest, rfl, hrest⟩ := (matchesChars_literal _ _ _).1 h
    obtain rfl := (matchesChars_nil rest).1 hrest
    exact .backslash
  | case3 c pattern ih =>
    obtain ⟨rest, rfl, hrest⟩ := (matchesChars_literal _ _ _).1 h
    exact .escaped c (ih hrest)
  | case4 pattern ih =>
    obtain ⟨piece, rest, rfl, hpiece, hrest⟩ := (matchesChars_run _ _).1 h
    exact .run piece hpiece (ih hrest)
  | case5 pattern ih =>
    obtain ⟨c, rest, rfl, hc, hrest⟩ := (matchesChars_one _ _).1 h
    exact .one c hc (ih hrest)
  | case6 c pattern hend hescape hrun hone ih =>
    obtain ⟨rest, rfl, hrest⟩ := (matchesChars_literal _ _ _).1 h
    exact .plain c (plain_of_read hend hescape hrun hone) (ih hrest)

theorem matches_of_splits {pattern term : List Char} (h : Splits pattern term) :
    matchesChars (ofChars pattern) term = true := by
  induction h with
  | nil => rfl
  | run piece hpiece _ ih => exact (matchesChars_run _ _).2 ⟨piece, _, rfl, hpiece, ih⟩
  | one c hc _ ih => exact (matchesChars_one _ _).2 ⟨c, _, rfl, hc, ih⟩
  | escaped c _ ih => exact (matchesChars_literal _ _ _).2 ⟨_, rfl, ih⟩
  | backslash => rfl
  | plain c hc _ ih =>
    rw [ofChars_plain hc]
    exact (matchesChars_literal _ _ _).2 ⟨_, rfl, ih⟩

/-- A pattern accepts the terms that can be split along it: a star stands for any run of characters and a question mark
for one, line feeds apart, a backslash for the character behind it, or for itself at the end, and any other character
for itself. -/
theorem accepts_iff_splits (pattern term : String) :
    accepts pattern term = true ↔ Splits pattern.toList term.toList :=
  ⟨splits_of_matches, matches_of_splits⟩

example : accepts "a\\*?*\\" "a*b\\" = true := by decide

/-! ### Escaped texts -/

theorem ofChars_escapeChars (text rest : List Char) :
    ofChars (escapeChars text ++ rest) = text.map literal ++ ofChars rest := by
  induction text with
  | nil => rfl
  | cons c cs ih =>
    rw [escapeChars]
    split
    · rw [List.cons_append, List.cons_append, ofChars, ih, List.map_cons, List.cons_append]
    · rename_i hc
      simp only [isSpecial, Bool.or_eq_true, beq_iff_eq, not_or] at hc
      rw [List.cons_append, ofChars, ih, List.map_cons, List.cons_append]
      all_goals simp_all

/-- The term ends with the text, and no line feed stands before it. -/
theorem accepts_ending (text term : String) : accepts ("*" ++ escape text) term = true ↔
    ∃ front, term.toList = front ++ text.toList ∧ '\n' ∉ front := by
  have hp : ofChars ("*" ++ escape text).toList = run :: (text.toList.map literal ++ []) := by
    have h := ofChars_escapeChars text.toList []
    simp only [List.append_nil] at h
    simp [escape, ofChars, h]
  rw [accepts, hp, matchesChars_run]
  simp only [matchesChars_literals, matchesChars_nil]
  constructor
  · rintro ⟨front, _, hcs, hf, rest, rfl, rfl⟩
    exact ⟨front, by simpa using hcs, hf⟩
  · rintro ⟨front, hcs, hf⟩
    exact ⟨front, text.toList, hcs, hf, [], by simp, rfl⟩

/-- The term holds the text, and no line feed stands before or after it. -/
theorem accepts_holding (text term : String) : accepts ("*" ++ escape text ++ "*") term = true ↔
    ∃ front back, term.toList = front ++ text.toList ++ back ∧ '\n' ∉ front ∧ '\n' ∉ back := by
  have hp : ofChars ("*" ++ escape text ++ "*").toList = run :: (text.toList.map literal ++ [run]) := by
    have h := ofChars_escapeChars text.toList ['*']
    simp [escape, ofChars, h]
  rw [accepts, hp, matchesChars_run]
  simp only [matchesChars_literals, matchesChars_run, matchesChars_nil]
  constructor
  · rintro ⟨front, _, hcs, hf, _, rfl, back, _, rfl, hb, rfl⟩
    exact ⟨front, back, by simpa using hcs, hf, hb⟩
  · rintro ⟨front, back, hcs, hf, hb⟩
    exact ⟨front, text.toList ++ back, by simpa using hcs, hf, back, rfl, back, [], by simp, hb, rfl⟩

end Wildcard

end IndexQuery
