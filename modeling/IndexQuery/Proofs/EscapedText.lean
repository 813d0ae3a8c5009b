import IndexQuery.Proofs.WildcardLanguage
import Mathlib.Algebra.Ring.Parity
import Mathlib.Data.List.DropRight

set_option autoImplicit false

/-!
Escaped text behind any other pattern.

Patterns one behind the other match texts one behind the other (`matchesChars_append`). An escaped text is read back
as its characters, unless the pattern before it ends with a backslash that is not itself escaped: that one would take
the first character of the escaped text (`ofChars_append`). Escaping is exact in every other place (`accepts_escape`).
-/

namespace IndexQuery

namespace Glob

/-- Parts of a pattern one behind the other match texts one behind the other. -/
theorem matchesChars_append (gs hs : List Glob) (cs : List Char) :
    matchesChars (gs ++ hs) cs = true ↔
      ∃ front back, cs = front ++ back ∧ matchesChars gs front = true ∧ matchesChars hs back = true := by
  induction gs generalizing cs with
  | nil =>
    constructor
    · intro h
      exact ⟨[], cs, rfl, matchesChars_nil_nil, h⟩
    · rintro ⟨front, back, rfl, hfront, hback⟩
      obtain rfl := (matchesChars_nil front).1 hfront
      exact hback
  | cons g gs ih =>
    rw [List.cons_append]
    cases g with
    | run =>
      simp only [matchesChars_run, ih]
      constructor
      · rintro ⟨piece, _, rfl, hpiece, front, back, rfl, hfront, hback⟩
        exact ⟨piece ++ front, back, by rw [List.append_assoc], ⟨piece, front, rfl, hpiece, hfront⟩, hback⟩
      · rintro ⟨_, back, rfl, ⟨piece, front, rfl, hpiece, hfront⟩, hback⟩
        exact ⟨piece, front ++ back, by rw [List.append_assoc], hpiece, front, back, rfl, hfront, hback⟩
    | one =>
      simp only [matchesChars_one, ih]
      constructor
      · rintro ⟨c, _, rfl, hc, front, back, rfl, hfront, hback⟩
        exact ⟨c :: front, back, rfl, ⟨c, front, rfl, hc, hfront⟩, hback⟩
      · rintro ⟨_, back, rfl, ⟨c, front, rfl, hc, hfront⟩, hback⟩
        exact ⟨c, front ++ back, rfl, hc, front, back, rfl, hfront, hback⟩
    | literal l =>
      simp only [matchesChars_literal, ih]
      constructor
      · rintro ⟨_, rfl, front, back, rfl, hfront, hback⟩
        exact ⟨l :: front, back, rfl, ⟨front, rfl, hfront⟩, hback⟩
      · rintro ⟨_, back, rfl, ⟨front, rfl, hfront⟩, hback⟩
        exact ⟨front ++ back, rfl, front, back, rfl, hfront, hback⟩

theorem matchesChars_map_literal (ls cs : List Char) : matchesChars (ls.map literal) cs = true ↔ cs = ls := by
  have h := matchesChars_literals ls [] cs
  simpa only [List.append_nil, matchesChars_nil, exists_eq_right] using h

end Glob

namespace Wildcard

open Glob

/-! ### Where a pattern may end -/

def trailingBackslashes (pattern : List Char) : Nat := (pattern.rtakeWhile (· == '\\')).length

/-- Backslashes pair off from the left, so that the last one is without a partner if their number is odd. -/
def EndsInsideEscape (pattern : String) : Prop := Odd (trailingBackslashes pattern.toList)

instance (pattern : String) : Decidable (EndsInsideEscape pattern) :=
  inferInstanceAs (Decidable (Odd (trailingBackslashes pattern.toList)))

theorem trailingBackslashes_cons (c : Char) (cs : List Char) : trailingBackslashes (c :: cs) =
    trailingBackslashes cs + if c = '\\' ∧ cs.all (· == '\\') = true then 1 else 0 := by
  simp only [trailingBackslashes, List.rtakeWhile, List.length_reverse, List.reverse_cons, List.takeWhile_append]
  by_cases hcs : cs.all (· == '\\') = true
  · have hself : cs.reverse.takeWhile (· == '\\') = cs.reverse :=
      List.takeWhile_eq_self_iff.2 fun d hd => List.all_eq_true.1 hcs d (List.mem_reverse.1 hd)
    by_cases hc : c = '\\'
    · simpa [hself, hc] using hcs
    · simp [hself, hc]
  · have hshort : (cs.reverse.takeWhile (· == '\\')).length ≠ cs.length := by
      intro hlength
      have hself := (List.takeWhile_prefix _).eq_of_length (hlength.trans List.length_reverse.symm)
      exact hcs (List.all_eq_true.2 fun d hd => List.takeWhile_eq_self_iff.1 hself d (List.mem_reverse.2 hd))
    rw [if_neg hshort, if_neg fun h => hcs h.2, Nat.add_zero]

theorem trailingBackslashes_plain {c : Char} (hc : c ≠ '\\') (cs : List Char) :
    trailingBackslashes (c :: cs) = trailingBackslashes cs := by
  rw [trailingBackslashes_cons, if_neg fun h => hc h.1, Nat.add_zero]

theorem odd_trailingBackslashes_escaped (c : Char) (cs : List Char) :
    Odd (trailingBackslashes ('\\' :: c :: cs)) ↔ Odd (trailingBackslashes cs) := by
  rw [trailingBackslashes_cons, trailingBackslashes_cons]
  by_cases h : c = '\\' ∧ cs.all (· == '\\') = true
  · -- the escape adds both of its backslashes to the run
    have hall : (c :: cs).all (· == '\\') = true := by simpa using h
    rw [if_pos h, if_pos ⟨rfl, hall⟩, Nat.odd_add_one, Nat.odd_add_one, not_not]
  · have hall : ¬ (c :: cs).all (· == '\\') = true := fun hall => h (by simpa using hall)
    rw [if_neg h, if_neg fun h => hall h.2, Nat.add_zero]

/-- What is written behind a pattern is read apart from it, unless the pattern ends inside an escape. -/
theorem ofChars_append {pattern : List Char} (h : ¬ Odd (trailingBackslashes pattern)) (rest : List Char) :
    ofChars (pattern ++ rest) = ofChars pattern ++ ofChars rest := by
  fun_induction ofChars pattern with
  | case1 => rfl
  | case2 => exact absurd (by decide) h
  | case3 c pattern ih =>
    rw [odd_trailingBackslashes_escaped] at h
    exact congrArg (literal c :: ·) (ih h)
  | case4 pattern ih =>
    rw [trailingBackslashes_plain (by decide)] at h
    exact congrArg (run :: ·) (ih h)
  | case5 pattern ih =>
    rw [trailingBackslashes_plain (by decide)] at h
    exact congrArg (one :: ·) (ih h)
  | case6 c pattern hend hescape hrun hone ih =>
    have hc : c ∉ ['*', '?', '\\'] := plain_of_read hend hescape hrun hone
    rw [trailingBackslashes_plain fun hb => hc (by simp [hb])] at h
    rw [List.cons_append, ofChars_plain hc, ih h, List.cons_append]

/-! ### Escaped texts behind a pattern -/

theorem ofChars_escape (text : String) : ofChars (escape text).toList = text.toList.map literal := by
  have h := ofChars_escapeChars text.toList []
  simpa [escape, ofChars] using h

/-- An escaped text matches just the text, and behind a pattern that does not end inside an escape it matches the text
behind what the pattern matches. -/
theorem accepts_escape (text : String) : (∀ term, accepts (escape text) term = true ↔ term = text) ∧
    ∀ pattern, ¬ EndsInsideEscape pattern → ∀ term,
      accepts (pattern ++ escape text) term = true ↔ ∃ front, term = front ++ text ∧ accepts pattern front = true := by
  refine ⟨fun term => ?_, fun pattern hpattern term => ?_⟩
  · rw [accepts, ofChars_escape, matchesChars_map_literal, String.toList_inj]
  · rw [accepts, String.toList_append, ofChars_append hpattern, ofChars_escape, matchesChars_append]
    simp only [matchesChars_map_literal]
    constructor
    · rintro ⟨front, back, hterm, hfront, rfl⟩
      exact ⟨String.ofList front, String.toList_inj.1 (by simpa using hterm), by simpa [accepts] using hfront⟩
    · rintro ⟨front, rfl, hfront⟩
      exact ⟨front.toList, text.toList, String.toList_append, hfront, rfl⟩

/-- A text with a star, a line feed and a backslash, alone and behind a star and an escaped backslash. -/
theorem accepts_escape_backslashes : ¬ EndsInsideEscape "*\\\\" ∧
    accepts (escape "*\n\\") "*\n\\" = true ∧
    accepts ("*\\\\" ++ escape "*\n\\") "ab\\*\n\\" = true ∧
    accepts ("*\\\\" ++ escape "*\n\\") "a\nb\\*\n\\" = false := by
  obtain ⟨halone, hbehind⟩ := accepts_escape "*\n\\"
  have hpattern : ¬ EndsInsideEscape "*\\\\" := by decide
  refine ⟨hpattern, (halone _).2 rfl, ?_, ?_⟩
  · exact (hbehind _ hpattern _).2 ⟨"ab\\", by decide, by decide⟩
  · rw [← Bool.not_eq_true, hbehind _ hpattern]
    rintro ⟨front, hterm, hfront⟩
    -- the text ends the term in one way only, and a line feed is left over
    have hsplit : "a\nb\\".toList ++ "*\n\\".toList = front.toList ++ "*\n\\".toList := by
      simpa using congrArg String.toList hterm
    obtain rfl := String.toList_inj.1 (List.append_cancel_right hsplit)
    revert hfront
    decide

/-- A pattern that ends inside an escape takes the backslash of the escaped star, which then stands for any run. -/
example : EndsInsideEscape "a\\" ∧ accepts ("a\\" ++ escape "*") "a\\b" = true := by decide

end Wildcard

end IndexQuery
