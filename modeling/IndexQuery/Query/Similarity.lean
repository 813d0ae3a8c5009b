import IndexQuery.Number.Arithmetic

set_option autoImplicit false

/-!
The number of edits a fuzzy match allows.
-/

namespace IndexQuery.Similarity

open Number (Binary Binary32 Format)

/-- Small amount added before rounding down, so that products meant to be whole numbers reach them. -/
def slack : Binary32 := .round .single false 1 10000

def edits32 (x : Binary32) : Nat := (x.truncate 0 (Int.pow 2 32 - 1)).toNat

/-- From one upward a similarity is a number of edits; below one it is the share of characters that
must stay. -/
def edits (term : String) (similarity : Binary32) (maxEdits : Nat) : Nat :=
  let one : Binary32 := .one .single
  if one.lessOrSame similarity then min (edits32 similarity) maxEdits
  else
    let share := one.sub (similarity.maximum (.zero .single false))
    let allowed := (share.mul (.ofNat .single term.length)).add slack
    min (edits32 allowed) maxEdits

end IndexQuery.Similarity
