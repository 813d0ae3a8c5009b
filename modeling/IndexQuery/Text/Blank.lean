set_option autoImplicit false

/-!
Blank characters, and text without the blanks around it.
-/

namespace IndexQuery.Text

def blankRuns : List (Nat × Nat) := [
    (0x9, 0xd), (0x20, 0x20), (0x85, 0x85), (0xa0, 0xa0), (0x1680, 0x1680), (0x2000, 0x200a),
    (0x2028, 0x2029), (0x202f, 0x202f), (0x205f, 0x205f), (0x3000, 0x3000)]

def inRuns (runs : List (Nat × Nat)) (c : Char) : Bool :=
  runs.any fun (first, last) => decide (first ≤ c.toNat) && decide (c.toNat ≤ last)

def isBlank (c : Char) : Bool := inRuns blankRuns c

def trimLeft (cs : List Char) : List Char := cs.dropWhile isBlank

def trim (text : String) : String :=
  String.ofList (trimLeft (trimLeft text.toList).reverse).reverse

end IndexQuery.Text
